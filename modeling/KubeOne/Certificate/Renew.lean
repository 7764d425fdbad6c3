import Mathlib.Data.List.Basic

/-! Renewing the certificates of a control plane node. The certificate of the API server is made
anew when its DNS names lack an alternative name of the configuration. The new one has the names
in lower case, and the addresses among them are no DNS names. -/

namespace KubeOne.Certificate

structure X509Certificate where
  dnsNames : List String := []
  ipAddresses : List String := []

/-- The file of the certificate. -/
inductive File
  | noPEM
  | noCertificate
  | certificate (cert : X509Certificate)

structure APIEndpoint where
  host : String
  alternativeNames : List String

/-- The libraries, and what kubeadm puts into every certificate of the node. -/
structure Node where
  toLower : String → String
  isIP : String → Bool
  own : X509Certificate := {}

/-- How far the script gets: the old certificate is removed, the new one created, and then all
certificates are renewed. -/
inductive Script
  | lost
  | removed
  | created
  | done
  deriving DecidableEq

structure Answers where
  readable : Bool := true
  script : Script := .done
  restarted : String → Bool := fun _ => true

inductive Failure
  | readingCertificate
  | decodingPEM
  | parsingCertificate
  | renewingCertificates
  | restartingPod (name : String)

variable (n : Node) (e : APIEndpoint)

def getCertificateSANs (host : String) (alternativeNames : List String) : List String :=
  n.toLower host :: alternativeNames.map n.toLower

/-- What `kubeadm init phase certs all` makes of the names in its configuration. -/
def kubeadmCertsAll : X509Certificate :=
  let certSANs := getCertificateSANs n e.host e.alternativeNames
  { dnsNames := n.own.dnsNames ++ certSANs.filter (!n.isIP ·)
    ipAddresses := n.own.ipAddresses ++ certSANs.filter n.isIP }

def needToRecreateAPIServerCerts (cert : X509Certificate) : Bool :=
  e.alternativeNames.any fun san => !cert.dnsNames.contains san

/-- Without a removal the file is the one that was there, with its names. -/
def runScript (script : Script) (cert : X509Certificate) : Option File :=
  if needToRecreateAPIServerCerts e cert then
    match script with
    | .lost => some (.certificate cert)
    | .removed => none
    | .created | .done => some (.certificate (kubeadmCertsAll n e))
  else some (.certificate cert)

def pods : List String := ["etcd", "kube-apiserver", "kube-controller-manager", "kube-scheduler"]

def renewAll (a : Answers) (file : Option File) : Option File × Except Failure Unit :=
  match a.readable, file with
  | false, _ | _, none => (file, .error .readingCertificate)
  | true, some .noPEM => (file, .error .decodingPEM)
  | true, some .noCertificate => (file, .error .parsingCertificate)
  | true, some (.certificate cert) =>
    (runScript n e a.script cert,
      if a.script = .done then
        match pods.find? (!a.restarted ·) with
        | some pod => .error (.restartingPod pod)
        | none => .ok ()
      else .error .renewingCertificates)

/-- The run creates the certificate of the API server. -/
def Recreates (a : Answers) (file : Option File) : Prop :=
  a.readable = true ∧ (a.script = .created ∨ a.script = .done) ∧
    ∃ cert, file = some (.certificate cert) ∧ needToRecreateAPIServerCerts e cert = true

variable {n e}

theorem renewAll_of_recreates {a : Answers} {file : Option File} (h : Recreates e a file) :
    (renewAll n e a file).1 = some (.certificate (kubeadmCertsAll n e)) := by
  obtain ⟨hread, hscript, cert, rfl, hneed⟩ := h
  rcases hscript with hscript | hscript <;>
    simp [renewAll, runScript, hread, hscript, hneed]

theorem recreates_certificate_iff {a : Answers} {cert : X509Certificate} :
    Recreates e a (some (.certificate cert)) ↔ a.readable = true ∧
      (a.script = .created ∨ a.script = .done) ∧ needToRecreateAPIServerCerts e cert = true := by
  simp [Recreates]

theorem need_kubeadmCertsAll_iff :
    needToRecreateAPIServerCerts e (kubeadmCertsAll n e) = false ↔
      ∀ name ∈ e.alternativeNames, name ∈ n.own.dnsNames ∨
        name ∈ getCertificateSANs n e.host e.alternativeNames ∧ n.isIP name = false := by
  simp [needToRecreateAPIServerCerts, kubeadmCertsAll, or_iff_not_imp_left]

/-- A certificate that a run has recreated is not recreated by the next run, exactly if the run
does not recreate it at all, or each alternative name is one that the certificate gets as it is
written: it is a name of every certificate, or no address and in lower case. -/
theorem renewal_converges_iff (n : Node) (e : APIEndpoint) (file : Option File) :
    (∀ a a', Recreates e a file → ¬ Recreates e a' (renewAll n e a file).1) ↔
      (∀ cert, file = some (.certificate cert) → needToRecreateAPIServerCerts e cert = false) ∨
      ∀ name ∈ e.alternativeNames, name ∈ n.own.dnsNames ∨
        name ∈ getCertificateSANs n e.host e.alternativeNames ∧ n.isIP name = false := by
  rw [← need_kubeadmCertsAll_iff]
  constructor
  · intro h
    by_contra hno
    push Not at hno
    obtain ⟨⟨cert, rfl, hneed⟩, hagain⟩ := hno
    have hrec : Recreates e {} (some (.certificate cert)) :=
      ⟨rfl, .inr rfl, cert, rfl, by simpa using hneed⟩
    refine h {} {} hrec ?_
    rw [renewAll_of_recreates hrec]
    exact ⟨rfl, .inr rfl, _, rfl, by simpa using hagain⟩
  · rintro (hno | hsettled) a a' hrec hagain
    · obtain ⟨-, -, cert, hfile, hneed⟩ := hrec
      simp [hno cert hfile] at hneed
    · rw [renewAll_of_recreates hrec, recreates_certificate_iff, hsettled] at hagain
      simp at hagain

/-- An address among the alternative names makes every run recreate the certificate. -/
theorem address_recreated_again :
    let n : Node := { toLower := id, isIP := (· == "192.0.2.1") }
    let e : APIEndpoint := ⟨"api.example.com", ["192.0.2.1"]⟩
    Recreates e {} (some (.certificate {})) ∧
      Recreates e {} (renewAll n e {} (some (.certificate {}))).1 :=
  ⟨⟨rfl, .inr rfl, _, rfl, by decide⟩, ⟨rfl, .inr rfl, _, rfl, by decide⟩⟩

end KubeOne.Certificate
