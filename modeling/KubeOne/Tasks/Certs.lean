import KubeOne.Apis.V1beta3.Defaults

/-! Approving the serving certificates of the kubelets. A run for one host takes the requests that
its kubelet made and that are not yet approved, checks each of them, and sends the approval. The
first request that fails its check, or whose approval is refused, ends the run. Denied requests
are not looked for; the API server refuses to approve them. -/

namespace KubeOne.Tasks.Certs

open Apis.V1beta3 (HostConfig)

abbrev Bytes := List UInt8

inductive ConditionType
  | approved
  | denied
  | failed
  | other (name : String)
  deriving DecidableEq

inductive ConditionStatus
  | isTrue
  | isFalse
  | unknown
  deriving DecidableEq

structure Condition where
  type : ConditionType
  status : ConditionStatus
  reason : String := ""
  deriving DecidableEq

inductive KeyUsage
  | digitalSignature
  | keyEncipherment
  | serverAuth
  | other (name : String)
  deriving DecidableEq

structure Spec where
  signerName : String
  username : String
  groups : List String
  usages : List KeyUsage
  request : Bytes
  deriving DecidableEq

structure CertificateSigningRequest where
  name : String
  spec : Spec
  conditions : List Condition := []
  deriving DecidableEq

namespace CertificateSigningRequest

def holds (csr : CertificateSigningRequest) (t : ConditionType) : Bool :=
  csr.conditions.any fun cond => cond.type == t && cond.status == .isTrue

def approved (csr : CertificateSigningRequest) : Bool := csr.holds .approved

def denied (csr : CertificateSigningRequest) : Bool := csr.holds .denied

def approve (csr : CertificateSigningRequest) : CertificateSigningRequest :=
  { csr with
    conditions := csr.conditions ++
      [{ type := .approved, status := .isTrue, reason := "kubeone approved node serving cert" }] }

end CertificateSigningRequest

structure Block where
  type : String
  bytes : Bytes

structure Subject where
  commonName : String
  organization : List String

/-- The readers of PEM blocks and of certificate requests. A reader of blocks skips to the next
block and returns it with what comes after it. -/
structure Library where
  decode : Bytes → Option (Block × Bytes)
  shorter : ∀ {s b rest}, decode s = some (b, rest) → rest.length < s.length
  parseCertificateRequest : Bytes → Except String Subject

namespace Library

variable (lib : Library)

def blocks (s : Bytes) : List Block :=
  match h : lib.decode s with
  | none => []
  | some (b, rest) =>
    have := lib.shorter h
    b :: blocks rest
  termination_by s.length

theorem decode_nil : lib.decode [] = none := by
  cases h : lib.decode [] with
  | none => rfl
  | some r =>
    obtain ⟨b, rest⟩ := r
    exact absurd (lib.shorter h) (Nat.not_lt_zero _)

theorem blocks_of_decode {s : Bytes} {b : Block} (h : lib.decode s = some (b, [])) :
    lib.blocks s = [b] := by
  have hnil : lib.blocks [] = [] := by
    rw [blocks]
    split
    · rfl
    · next h' => simp [lib.decode_nil] at h'
  rw [blocks]
  split
  · next h' => simp [h] at h'
  · next h' =>
    obtain ⟨rfl, rfl⟩ : _ = b ∧ _ = [] := by simpa [h, eq_comm] using h'
    simp [hnil]

end Library

def nodeUser : String := "system:node"

def groupNodes : String := "system:nodes"

def groupAuthenticated : String := "system:authenticated"

def kubeletServingSignerName : String := "kubernetes.io/kubelet-serving"

def allowedUsages : List KeyUsage := [.digitalSignature, .keyEncipherment, .serverAuth]

def isUsageInUsageList (usage : KeyUsage) (usageList : List KeyUsage) : Bool :=
  usageList.contains usage

structure Failure where
  op : String
  err : String

def checkingMatch : String := "checking match between CSR subject CN and CSR username"

/-- The part of `validateCSR` about the subject of the certificate request. -/
def validateSubject (username : String) (subject : Subject) : Except Failure Unit :=
  if subject.commonName ≠ username then
    .error ⟨checkingMatch, "commonName " ++ subject.commonName.quote ++
      " is different then CSR username " ++ username.quote⟩
  else match subject.organization with
    | [org] =>
      if org ≠ groupNodes then
        .error ⟨checkingMatch, "organization " ++ org.quote ++ " doesn't match node group " ++
          groupNodes.quote⟩
      else .ok ()
    | orgs =>
      .error ⟨checkingMatch, "expected only one organization but got " ++ toString orgs.length ++
        " instead"⟩

def validateCSR (lib : Library) (spec : Spec) : Except Failure Unit :=
  if ¬ (groupNodes ∈ spec.groups ∧ groupAuthenticated ∈ spec.groups) then
    .error ⟨"", "CSR groups is expecter to be an authenticated node"⟩
  else if spec.usages.any (!isUsageInUsageList · allowedUsages) then
    .error ⟨"", "CSR usages is invalid"⟩
  else match lib.decode spec.request with
    | none => .error ⟨"", "no certificate request found for the given CSR"⟩
    | some (csrBlock, rest) =>
      if rest.length ≠ 0 then
        .error ⟨"", "found more than one PEM encoded block in the result"⟩
      else match lib.parseCertificateRequest csrBlock.bytes with
        | .error err => .error ⟨"parsing kubelet " ++ spec.username.quote ++ " CSR", err⟩
        | .ok subject => validateSubject spec.username subject

/-- The API server: the requests it lists, and what it does with an approval after those that it
stored before. An approval can be stored although the answer is lost. No request is stored with
both an approval and a denial. -/
structure Server where
  list : Except String (List CertificateSigningRequest)
  newForConfig : Except String Unit
  updateApproval : List CertificateSigningRequest → CertificateSigningRequest →
    Bool × Except String Unit
  exclusive : ∀ {before csr}, (updateApproval before csr).1 = true → csr.approved = true →
    csr.denied = false

section Run

variable (lib : Library) (server : Server) (node : HostConfig)

/-- The loop over the listed requests. Beside the result stand the requests, as they were listed,
whose approval was stored. -/
def approveItems (before : List CertificateSigningRequest) :
    List CertificateSigningRequest → List CertificateSigningRequest × Except Failure Unit
  | [] => (before, .ok ())
  | csr :: rest =>
    if csr.spec.signerName ≠ kubeletServingSignerName then approveItems before rest
    else if nodeUser ++ ":" ++ node.hostname ≠ csr.spec.username then approveItems before rest
    -- only approvals are looked for among the conditions
    else if csr.approved then approveItems before rest
    else match validateCSR lib csr.spec with
      | .error e => (before, .error e)
      | .ok () =>
        let answer := server.updateApproval before csr.approve
        let stored := if answer.1 then before ++ [csr] else before
        match answer.2 with
        | .error e => (stored, .error ⟨"approving CSR " ++ csr.name.quote, e⟩)
        | .ok () => approveItems stored rest

def approvePendingCSR : List CertificateSigningRequest × Except Failure Unit :=
  match server.list with
  | .error e => ([], .error ⟨"getting v1.CertificateSigningRequestList", e⟩)
  | .ok items =>
    match server.newForConfig with
    | .error e => ([], .error ⟨"creating certificates v1client", e⟩)
    | .ok () => approveItems lib server node [] items

end Run

/-- The certificate request that is carried: one block, for the user and the group of nodes. -/
def Carries (lib : Library) (spec : Spec) : Prop :=
  ∃ block subject, lib.blocks spec.request = [block] ∧
    lib.parseCertificateRequest block.bytes = .ok subject ∧
    subject.commonName = spec.username ∧ subject.organization = [groupNodes]

/-- What `validateCSR` is for: an authenticated node asks for a serving certificate of its own. -/
structure Valid (lib : Library) (spec : Spec) : Prop where
  nodes : groupNodes ∈ spec.groups
  authenticated : groupAuthenticated ∈ spec.groups
  usages : ∀ usage ∈ spec.usages, usage ∈ allowedUsages
  carries : Carries lib spec

/-- A pending request for the serving certificate of a host, made by the host itself. -/
structure Genuine (lib : Library) (node : HostConfig) (csr : CertificateSigningRequest) : Prop where
  notApproved : csr.approved = false
  notDenied : csr.denied = false
  signer : csr.spec.signerName = kubeletServingSignerName
  user : csr.spec.username = nodeUser ++ ":" ++ node.hostname
  valid : Valid lib csr.spec

theorem validateSubject_ok {username : String} {subject : Subject}
    (h : validateSubject username subject = .ok ()) :
    subject.commonName = username ∧ subject.organization = [groupNodes] := by
  unfold validateSubject at h
  split at h
  · cases h
  · next hcn =>
    split at h
    · next org horg =>
      split at h
      · cases h
      · next hnodes => exact ⟨not_not.mp hcn, by rw [horg, not_not.mp hnodes]⟩
    · cases h

theorem valid_of_validateCSR {lib : Library} {spec : Spec} (h : validateCSR lib spec = .ok ()) :
    Valid lib spec := by
  unfold validateCSR at h
  split at h
  · cases h
  · next hgroups =>
    split at h
    · cases h
    · next husages =>
      split at h
      · cases h
      · next block rest hblock =>
        split at h
        · cases h
        · next hrest =>
          split at h
          · cases h
          · next subject hparse =>
            obtain ⟨hcn, horg⟩ := validateSubject_ok h
            obtain rfl : rest = [] := by simpa using hrest
            refine ⟨(not_not.mp hgroups).1, (not_not.mp hgroups).2, ?_, block, subject, ?_, hparse,
              hcn, horg⟩
            · simpa [isUsageInUsageList] using husages
            · exact lib.blocks_of_decode hblock

section Loop

variable {lib : Library} {server : Server} {node : HostConfig}
variable {csr : CertificateSigningRequest} {before items : List CertificateSigningRequest}

theorem approved_approve : csr.approve.approved = true := by
  simp [CertificateSigningRequest.approve, CertificateSigningRequest.approved,
    CertificateSigningRequest.holds]

theorem denied_approve : csr.approve.denied = csr.denied := by
  simp [CertificateSigningRequest.approve, CertificateSigningRequest.denied,
    CertificateSigningRequest.holds]

/-- A valid request whose approval was stored had not been denied. -/
theorem genuine_of_stored (hsigner : csr.spec.signerName = kubeletServingSignerName)
    (huser : nodeUser ++ ":" ++ node.hostname = csr.spec.username) (hopen : csr.approved = false)
    (hvalid : validateCSR lib csr.spec = .ok ())
    (hstored : (server.updateApproval before csr.approve).1 = true) : Genuine lib node csr where
  notApproved := hopen
  notDenied := denied_approve ▸ server.exclusive hstored approved_approve
  signer := hsigner
  user := huser.symm
  valid := valid_of_validateCSR hvalid

theorem approveItems_genuine (hbefore : ∀ csr ∈ before, Genuine lib node csr) :
    ∀ csr ∈ (approveItems lib server node before items).1, Genuine lib node csr := by
  induction items generalizing before with
  | nil => exact hbefore
  | cons csr rest ih =>
    rw [approveItems]
    split_ifs with hsigner huser happroved
    · exact ih hbefore
    · exact ih hbefore
    · exact ih hbefore
    cases hvalid : validateCSR lib csr.spec with
    | error e => exact hbefore
    | ok u =>
      have hstored : ∀ csr' ∈ if (server.updateApproval before csr.approve).1 = true then
          before ++ [csr] else before, Genuine lib node csr' := by
        split_ifs with hs
        · have hcsr : Genuine lib node csr := genuine_of_stored (not_not.mp hsigner)
            (not_not.mp huser) (by simpa using happroved) hvalid hs
          simpa [or_imp, forall_and] using ⟨hbefore, hcsr⟩
        · exact hbefore
      cases hanswer : (server.updateApproval before csr.approve).2 with
      | error e => simpa only [hanswer] using hstored
      | ok u => simpa only [hanswer] using ih hstored

end Loop

/-- A run for a host approves genuine requests only. -/
theorem approved_are_genuine (lib : Library) (server : Server) (node : HostConfig) :
    ∀ csr ∈ (approvePendingCSR lib server node).1, Genuine lib node csr := by
  unfold approvePendingCSR
  split
  · simp
  · split
    · simp
    · exact approveItems_genuine (by simp)

namespace Pending

/-- Every text that is not empty is one block, with a request of the kubelet of `cp-0`. -/
def lib : Library where
  decode
    | [] => none
    | s => some (⟨"CERTIFICATE REQUEST", s⟩, [])
  shorter {s b rest} h := by
    cases s with
    | nil => cases h
    | cons x xs => simp_all
  parseCertificateRequest _ := .ok ⟨"system:node:cp-0", ["system:nodes"]⟩

def csr (name : String) (conditions : List Condition) : CertificateSigningRequest where
  name
  spec :=
    { signerName := "kubernetes.io/kubelet-serving"
      username := "system:node:cp-0"
      groups := ["system:nodes", "system:authenticated"]
      usages := [.digitalSignature, .serverAuth]
      request := [45] }
  conditions

/-- The second of the requests has been denied. -/
def server : Server where
  list := .ok [csr "csr-x7k2p" [], csr "csr-9dm4q" [⟨.denied, .isTrue, "AdminDeny"⟩]]
  newForConfig := .ok ()
  updateApproval _ csr :=
    if csr.approved && csr.denied then (false, .error "Approved and Denied are mutually exclusive")
    else (true, .ok ())
  exclusive {_ csr} h happroved := by
    by_contra hdenied
    rw [Bool.not_eq_false] at hdenied
    simp [happroved, hdenied] at h

theorem pending_request_is_approved :
    (approvePendingCSR lib server { hostname := "cp-0" }).1 = [csr "csr-x7k2p" []] ∧
      Genuine lib { hostname := "cp-0" } (csr "csr-x7k2p" []) := by
  have hrun : (approvePendingCSR lib server { hostname := "cp-0" }).1 = [csr "csr-x7k2p" []] := by
    decide +kernel
  exact ⟨hrun, approved_are_genuine lib server _ _ (by simp [hrun])⟩

end Pending

end KubeOne.Tasks.Certs
