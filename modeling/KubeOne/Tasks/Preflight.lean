import KubeOne.Apis.V1beta3.Defaults
import KubeOne.Process.Stage
import KubeOne.Semver.Version
import KubeOne.Text.Dns

/-! The checks before an upgrade. The requested version is compared with the kubelet of the first
control plane node, and then, under the version skew policy, with the API servers and the kubelets
of all nodes. A force flag turns the refusals of the skew policy into warnings. -/

namespace KubeOne.Tasks.Preflight

open Semver List Text
open Apis.V1beta3 (HostConfig)

/-! ### The cluster -/

inductive AddressType
  | internalIP
  | externalIP
  | hostname
  | internalDNS
  | externalDNS
  deriving DecidableEq

structure Node where
  name : String
  kubeletVersion : String
  addresses : List (AddressType × String) := []
  /-- Types of conditions with their status. -/
  conditions : List (String × String) := []
  labels : List (String × String) := []

structure Pod where
  name : String
  images : List String

inductive Failure
  | noKubeClient
  | kubeClient (op : String)
  | nodesMismatch (nodes hosts : ℕ)
  | unmatchedNode (name : String)
  | notReady (name : String)
  | upgradeInProgress (name : String)
  | aggregate (errs : List Failure)
  | invalidVersion (text : String)
  | invalidImage (image : String)
  | lowerVersion
  | sameVersion
  | mixedApiservers
  | sameAsCurrent
  | lowerThanCurrent
  | olderThanSkew (diff : UInt64)
  | kubeletNewer (node : String)
  | invalidHostnames (hostnames : List String)
  /-- An index out of range or a nil pointer. -/
  | panicked

/-- What a run finds: the manifest, the flag, and the answers of the API server. -/
structure State where
  kubernetes : String
  hosts : List HostConfig
  staticWorkers : List HostConfig := []
  forceUpgrade : Bool := false
  hasClient : Bool := true
  nodes : Option (List Node)
  apiserverPods : Option (List Pod)

/-! ### Nodes and hosts -/

/-- The status of a node is one of `True`, `False` and `Unknown`. -/
def ready (n : Node) : Bool := n.conditions.any fun c => c.1 == "Ready" && c.2 == "True"

def labelUpgradeLock : String := "kubeone.io/upgrade-in-progress"

def matchesHost (n : Node) (host : HostConfig) : Bool :=
  n.addresses.any fun a =>
    (a.1 == .internalIP || a.1 == .externalIP) &&
      (a.2 == host.privateAddress || a.2 == host.publicAddress)

/-- The map of the nodes found, by name; a second node of one name overwrites the first. -/
def nodesFound (hosts : List HostConfig) (nodes : List Node) : List (String × Bool) :=
  nodes.foldl (fun found n =>
    (n.name, hosts.any (matchesHost n)) :: found.filter (·.1 ≠ n.name)) []

def verifyMatchNodes (hosts : List HostConfig) (nodes : List Node) : List Failure :=
  if nodes.length ≠ hosts.length then [.nodesMismatch nodes.length hosts.length]
  else ((nodesFound hosts nodes).filter (!·.2)).map fun f => .unmatchedNode f.1

def verifyNodesReady (nodes : List Node) : List Failure :=
  (nodes.filter (!ready ·)).map fun n => .notReady n.name

def verifyNoUpgradeLabels (nodes : List Node) : List Failure :=
  (nodes.filter fun n => n.labels.any (·.1 == labelUpgradeLock)).map fun n =>
    .upgradeInProgress n.name

def verifyNodes (hosts : List HostConfig) (nodes : List Node) : Except Failure Unit :=
  match verifyMatchNodes hosts nodes ++ verifyNodesReady nodes ++ verifyNoUpgradeLabels nodes with
  | [] => .ok ()
  | errs => .error (.aggregate errs)

def checkHostnames (hostnames : List String) : Except Failure Unit :=
  match hostnames.filter (!Text.isDNS1123Subdomain ·) with
  | [] => .ok ()
  | bad => .error (.invalidHostnames bad)

/-! ### Versions -/

/-- A parser of versions. No version is written with a colon or a slash. -/
structure Parser where
  newVersion : String → Option Version
  written : ∀ {s v}, newVersion s = some v → ':' ∉ s.toList ∧ '/' ∉ s.toList

section Checks

variable (semver : Parser)

/-- Only the first node is looked at. -/
def verifyVersion (version : String) (kubelets : List String) (force : Bool) :
    Except Failure Unit :=
  match semver.newVersion version, kubelets with
  | none, _ => .error (.invalidVersion version)
  | some _, [] => .error .panicked
  | some reqVer, first :: _ =>
    match semver.newVersion first with
    | none => .error (.invalidVersion first)
    | some kubelet =>
      if reqVer.compare kubelet < 0 then .error .lowerVersion
      else if reqVer.compare kubelet = 0 ∧ ¬ force then .error .sameVersion
      else .ok ()

/-- The policy looks at the minor and the patch number. The difference of the minor numbers is
signed in the first test and unsigned in the second. -/
def checkVersionSkew (reqVer currVer : Version) (diff : UInt64) : Option Failure :=
  if currVer.compare reqVer = 0 then some .sameAsCurrent
  else if reqVer.minor.toInt64 - currVer.minor.toInt64 < 0 ∨
      reqVer.minor = currVer.minor ∧ reqVer.patch < currVer.patch then some .lowerThanCurrent
  else if reqVer.minor - currVer.minor > diff then some (.olderThanSkew diff)
  else none

/-- The text between the only colon of an image and its end. -/
def parseContainerImageVersion (image : String) : Except Failure Version :=
  match Text.split ':' image.toList with
  | [_, tag] =>
    match semver.newVersion (.ofList tag) with
    | some v => .ok v
    | none => .error (.invalidVersion (.ofList tag))
  | _ => .error (.invalidImage image)

/-- Why the check of the version skew does not pass, and whether that can be forced. -/
inductive Refusal
  | refused (canPass : Bool) (err : Failure)
  | panicked

def apiserverVersion : Option Version → List Pod → Except Refusal (Option Version)
  | found, [] => .ok found
  | found, p :: pods =>
    match p.images with
    | [] => .error .panicked
    | image :: _ =>
      match parseContainerImageVersion semver image with
      | .error err => .error (.refused false err)
      | .ok ver =>
        if (found.getD ver).compare ver ≠ 0 then .error (.refused true .mixedApiservers)
        else apiserverVersion (some (found.getD ver)) pods

def kubeletsSkew (reqVer apiserver : Version) : List Node → Except Refusal Unit
  | [] => .ok ()
  | n :: nodes =>
    match semver.newVersion n.kubeletVersion with
    | none => .error (.refused false (.invalidVersion n.kubeletVersion))
    | some kubelet =>
      match checkVersionSkew reqVer kubelet 2 with
      | some err => .error (.refused true err)
      | none =>
        if kubelet.minor > apiserver.minor then .error (.refused true (.kubeletNewer n.name))
        else kubeletsSkew reqVer apiserver nodes

def verifyVersionSkew (version : String) (apiserverPods : Option (List Pod)) (nodes : List Node) :
    Except Refusal Unit :=
  match semver.newVersion version, apiserverPods with
  | none, _ => .error (.refused false (.invalidVersion version))
  | some _, none => .error (.refused false (.kubeClient "getting kube-apiserver pods"))
  | some reqVer, some pods => do
    match ← apiserverVersion semver none pods with
    | none => .error .panicked
    | some apiserver =>
      match checkVersionSkew reqVer apiserver 1 with
      | some err => .error (.refused true err)
      | none => kubeletsSkew semver reqVer apiserver nodes

/-- A refusal that can be forced is only logged under the flag. -/
def forced (force : Bool) : Except Refusal Unit → Except Failure Unit
  | .ok () => .ok ()
  | .error (.refused canPass err) => if force ∧ canPass then .ok () else .error err
  | .error .panicked => .error .panicked

def runPreflightChecks (s : State) : Except Failure Unit := do
  if !s.hasClient then .error .noKubeClient
  match s.nodes with
  | none => .error (.kubeClient "getting v1.NodeList")
  | some nodes =>
    verifyNodes s.hosts nodes
    verifyVersion semver s.kubernetes (nodes.map (·.kubeletVersion)) s.forceUpgrade
    forced s.forceUpgrade (verifyVersionSkew semver s.kubernetes s.apiserverPods nodes)
    checkHostnames ((s.hosts ++ s.staticWorkers).map (·.hostname))

end Checks

/-! ### What a success says -/

variable {semver : Parser}

theorem runPreflightChecks_ok_iff {s : State} : runPreflightChecks semver s = .ok () ↔
    s.hasClient = true ∧ ∃ nodes, s.nodes = some nodes ∧ verifyNodes s.hosts nodes = .ok () ∧
      verifyVersion semver s.kubernetes (nodes.map (·.kubeletVersion)) s.forceUpgrade = .ok () ∧
      forced s.forceUpgrade (verifyVersionSkew semver s.kubernetes s.apiserverPods nodes) = .ok () ∧
      checkHostnames ((s.hosts ++ s.staticWorkers).map (·.hostname)) = .ok () := by
  cases hc : s.hasClient with
  | false => simp [runPreflightChecks, hc, bind, Except.bind]
  | true =>
    cases hn : s.nodes with
    | none => simp [runPreflightChecks, hc, hn]
    | some nodes => simp [runPreflightChecks, hc, hn, Process.bind_eq_ok, Unique.exists_iff]

/-- The kubelet of a node may stay while the API server and the request are as given. -/
def Admits (semver : Parser) (reqVer apiserver : Version) (kubelet : String) : Prop :=
  ∃ v, semver.newVersion kubelet = some v ∧ checkVersionSkew reqVer v 2 = none ∧
    v.minor ≤ apiserver.minor

variable {reqVer : Version} {nodes : List Node}

theorem kubeletsSkew_ok_iff {apiserver : Version} :
    kubeletsSkew semver reqVer apiserver nodes = .ok () ↔
      ∀ n ∈ nodes, Admits semver reqVer apiserver n.kubeletVersion := by
  induction nodes with
  | nil => simp [kubeletsSkew]
  | cons n nodes ih =>
    rw [kubeletsSkew, forall_mem_cons]
    cases hv : semver.newVersion n.kubeletVersion with
    | none => simp [Admits, hv]
    | some v =>
      cases hskew : checkVersionSkew reqVer v 2 with
      | some err => simp [Admits, hv, hskew]
      | none =>
        by_cases hnew : v.minor > apiserver.minor
        · have hle : ¬ v.minor ≤ apiserver.minor := UInt64.not_le.mpr hnew
          simp [Admits, hv, hskew, hnew, hle]
        · have hle : v.minor ≤ apiserver.minor := UInt64.not_lt.mp hnew
          simp [Admits, hv, hskew, hnew, hle, ih]

variable {v : Version}

theorem newVersion_of_apiserverVersion {found : Option Version} {pods : List Pod}
    (h : apiserverVersion semver found pods = .ok (some v)) :
    found = some v ∨ ∃ tag, semver.newVersion tag = some v := by
  induction pods generalizing found with
  | nil => exact .inl (by simpa [apiserverVersion] using h)
  | cons p pods ih =>
    rw [apiserverVersion] at h
    split at h
    · cases h
    · split at h
      · cases h
      · rename_i ver hver
        split at h
        · cases h
        · rcases ih h with hfound | htag
          · cases found with
            | some w => exact .inl hfound
            | none =>
              refine .inr ?_
              obtain rfl : ver = v := by simpa using hfound
              unfold parseContainerImageVersion at hver
              split at hver
              · split at hver
                · rename_i w hw
                  obtain rfl : w = ver := by simpa using hver
                  exact ⟨_, hw⟩
                · cases hver
              · cases hver
          · exact .inr htag

variable {version : String}

theorem verifyVersionSkew_ok {pods : Option (List Pod)}
    (h : verifyVersionSkew semver version pods nodes = .ok ()) :
    ∃ reqVer tag apiserver, semver.newVersion version = some reqVer ∧
      semver.newVersion tag = some apiserver ∧ checkVersionSkew reqVer apiserver 1 = none ∧
      ∀ n ∈ nodes, Admits semver reqVer apiserver n.kubeletVersion := by
  unfold verifyVersionSkew at h
  split at h
  · cases h
  · cases h
  · rename_i reqVer pods hreq
    cases hapi : apiserverVersion semver none pods with
    | error r =>
      rw [hapi] at h
      cases h
    | ok found =>
      rw [hapi] at h
      cases found with
      | none => cases h
      | some apiserver =>
        obtain hnone | ⟨tag, htag⟩ := newVersion_of_apiserverVersion hapi
        · cases hnone
        · cases hcheck : checkVersionSkew reqVer apiserver 1 with
          | some err => simp [bind, Except.bind, hcheck] at h
          | none =>
            have hkubelets : kubeletsSkew semver reqVer apiserver nodes = .ok () := by
              simpa [bind, Except.bind, hcheck] using h
            exact ⟨reqVer, tag, apiserver, hreq, htag, hcheck, kubeletsSkew_ok_iff.mp hkubelets⟩

variable {image : String}

theorem apiserverVersion_single {p : Pod} {images : List String}
    (hp : p.images = image :: images) (hv : parseContainerImageVersion semver image = .ok v) :
    apiserverVersion semver none [p] = .ok (some v) := by
  simp [apiserverVersion, hp, hv]

variable {tag : String}

theorem parse_tagged {name : List Char} (hname : ':' ∉ name)
    (hv : semver.newVersion tag = some v) :
    parseContainerImageVersion semver (.ofList (name ++ ':' :: tag.toList)) = .ok v := by
  have hsplit : split ':' (name ++ ':' :: tag.toList) = [name, tag.toList] := by
    rw [split_append hname, split_of_notMem (semver.written hv).1]
  simp [parseContainerImageVersion, hsplit, hv]

/-! ### Downgrades -/

/-- The requested version is not lower than that of a kubelet. -/
def NotLower (semver : Parser) (version : String) (kubelets : List String) : Prop :=
  ∀ reqVer, semver.newVersion version = some reqVer → ∀ k ∈ kubelets, ∀ v,
    semver.newVersion k = some v → 0 ≤ reqVer.compare v

/-- No version of the API servers lets the skew policy admit all kubelets. -/
def SkewRefuses (semver : Parser) (version : String) (kubelets : List String) : Prop :=
  ∀ reqVer tag apiserver, semver.newVersion version = some reqVer →
    semver.newVersion tag = some apiserver → checkVersionSkew reqVer apiserver 1 = none →
    ∃ k ∈ kubelets, ¬ Admits semver reqVer apiserver k

/-- The versions are refused whatever else there is: by the look at the first node, or, without
the flag, by the skew policy. -/
def Refuses (semver : Parser) (version : String) (kubelets : List String) (force : Bool) : Prop :=
  verifyVersion semver version kubelets force ≠ .ok () ∨
    force = false ∧ SkewRefuses semver version kubelets

def apiserverPod (tag : String) : Pod where
  name := "kube-apiserver"
  images := [.ofList ("kube-apiserver".toList ++ ':' :: tag.toList)]

def probe (version : String) (kubelets : List String) (force : Bool) (tag : String) : State where
  kubernetes := version
  hosts := kubelets.map fun _ => { hostname := "node" }
  forceUpgrade := force
  nodes := some <| kubelets.map fun k =>
    { name := "node", kubeletVersion := k, addresses := [(.internalIP, "")]
      conditions := [("Ready", "True")] }
  apiserverPods := some [apiserverPod tag]

theorem nodesFound_matched {hosts : List HostConfig}
    (h : ∀ n ∈ nodes, hosts.any (matchesHost n) = true) :
    (nodesFound hosts nodes).filter (!·.2) = [] := by
  have hfold : ∀ found : List (String × Bool), (∀ f ∈ found, f.2 = true) →
      ∀ f ∈ nodes.foldl (fun found n =>
        (n.name, hosts.any (matchesHost n)) :: found.filter (·.1 ≠ n.name)) found, f.2 = true := by
    induction nodes with
    | nil => exact fun found hf => hf
    | cons n nodes ih =>
      rw [forall_mem_cons] at h
      intro found hf
      refine ih h.2 _ ?_
      rw [forall_mem_cons]
      exact ⟨h.1, fun f hmem => hf f (mem_of_mem_filter hmem)⟩
  have hall : ∀ f ∈ nodesFound hosts nodes, f.2 = true := hfold [] (by simp)
  simpa [filter_eq_nil_iff] using hall

theorem verifyNodes_probe (version : String) (kubelets : List String) (force : Bool)
    (tag : String) (hnodes : (probe version kubelets force tag).nodes = some nodes) :
    verifyNodes (probe version kubelets force tag).hosts nodes = .ok () := by
  obtain rfl : _ = nodes := by simpa [probe] using hnodes
  rw [verifyNodes, verifyMatchNodes, nodesFound_matched, if_neg (by simp [probe]), map_nil]
  · simp [verifyNodesReady, verifyNoUpgradeLabels, filter_map, Function.comp_def, ready]
  · intro n hn
    obtain ⟨k, hk, rfl⟩ := mem_map.mp hn
    rw [any_eq_true]
    exact ⟨{ hostname := "node" }, mem_map.mpr ⟨k, hk, rfl⟩, rfl⟩

variable {kubelets : List String} {force : Bool}

theorem runPreflightChecks_probe
    (hversion : verifyVersion semver version kubelets force = .ok ())
    (hskew : ∀ nodes, (probe version kubelets force tag).nodes = some nodes →
      forced force (verifyVersionSkew semver version
        (probe version kubelets force tag).apiserverPods nodes) = .ok ()) :
    runPreflightChecks semver (probe version kubelets force tag) = .ok () := by
  refine runPreflightChecks_ok_iff.mpr ⟨rfl, _, rfl, ?_, ?_, hskew _ rfl, ?_⟩
  · exact verifyNodes_probe version kubelets force tag rfl
  · simpa [probe, Function.comp_def] using hversion
  · have hvalid : isDNS1123Subdomain "node" = true := by decide
    simp [checkHostnames, probe, hvalid]

theorem verifyVersionSkew_probe {apiserver : Version}
    (hreq : semver.newVersion version = some reqVer)
    (htag : semver.newVersion tag = some apiserver) (nodes : List Node) :
    verifyVersionSkew semver version (probe version kubelets force tag).apiserverPods nodes =
      match checkVersionSkew reqVer apiserver 1 with
      | some err => .error (.refused true err)
      | none => kubeletsSkew semver reqVer apiserver nodes := by
  have hapi : apiserverVersion semver none [apiserverPod tag] = .ok (some apiserver) :=
    apiserverVersion_single rfl (parse_tagged (by decide) htag)
  simp only [verifyVersionSkew, hreq, probe, hapi]
  rfl

theorem verifyVersion_ok (h : verifyVersion semver version kubelets force = .ok ()) :
    ∃ reqVer, semver.newVersion version = some reqVer := by
  cases hreq : semver.newVersion version with
  | none => simp [verifyVersion, hreq] at h
  | some reqVer => exact ⟨reqVer, rfl⟩

theorem exists_success_of_not_refuses (h : ¬ Refuses semver version kubelets force) :
    ∃ tag, runPreflightChecks semver (probe version kubelets force tag) = .ok () := by
  rw [Refuses, not_or, not_not] at h
  obtain ⟨hversion, hskew⟩ := h
  cases force with
  | true =>
    obtain ⟨reqVer, hreq⟩ := verifyVersion_ok hversion
    refine ⟨version, runPreflightChecks_probe hversion fun nodes _ => ?_⟩
    rw [verifyVersionSkew_probe hreq hreq]
    simp [checkVersionSkew, forced]
  | false =>
    have hadmits : ¬ SkewRefuses semver version kubelets := fun hs => hskew ⟨rfl, hs⟩
    simp only [SkewRefuses, not_forall, not_exists, not_and, not_not] at hadmits
    obtain ⟨reqVer, tag, apiserver, hreq, htag, hcheck, hall⟩ := hadmits
    refine ⟨tag, runPreflightChecks_probe hversion fun nodes hnodes => ?_⟩
    have hkubelets : kubeletsSkew semver reqVer apiserver nodes = .ok () := by
      obtain rfl : _ = nodes := by simpa [probe] using hnodes
      refine kubeletsSkew_ok_iff.mpr fun n hn => ?_
      obtain ⟨k, hk, rfl⟩ := mem_map.mp hn
      exact hall k hk
    rw [verifyVersionSkew_probe hreq htag, hcheck]
    simp only [hkubelets, forced]

theorem not_refuses_of_success {s : State} (hnodes : s.nodes = some nodes)
    (h : runPreflightChecks semver s = .ok ()) :
    ¬ Refuses semver s.kubernetes (nodes.map (·.kubeletVersion)) s.forceUpgrade := by
  obtain ⟨-, nodes', hnodes', -, hversion, hskew, -⟩ := runPreflightChecks_ok_iff.mp h
  obtain rfl : nodes = nodes' := by simpa [hnodes] using hnodes'
  rintro (hrefused | ⟨hforce, hrefuses⟩)
  · exact hrefused hversion
  · have hok : verifyVersionSkew semver s.kubernetes s.apiserverPods nodes = .ok () := by
      rw [hforce] at hskew
      unfold forced at hskew
      split at hskew
      · assumption
      · simp at hskew
      · cases hskew
    obtain ⟨reqVer, tag, apiserver, hreq, htag, hcheck, hall⟩ := verifyVersionSkew_ok hok
    obtain ⟨k, hk, hnot⟩ := hrefuses reqVer tag apiserver hreq htag hcheck
    obtain ⟨n, hn, rfl⟩ := mem_map.mp hk
    exact hnot (hall n hn)

/-- For given versions and flag: every run that succeeds asks for no downgrade exactly if none is
asked for, or the versions are refused by the look at the first node or, without the flag, by the
skew policy. -/
theorem downgrade_never_passes_iff (semver : Parser) (version : String) (kubelets : List String)
    (force : Bool) :
    (∀ s : State, ∀ nodes, s.kubernetes = version → s.forceUpgrade = force →
      s.nodes = some nodes → nodes.map (·.kubeletVersion) = kubelets →
      runPreflightChecks semver s = .ok () → NotLower semver version kubelets) ↔
    NotLower semver version kubelets ∨ Refuses semver version kubelets force := by
  constructor
  · intro hsafe
    by_cases hrefuses : Refuses semver version kubelets force
    · exact .inr hrefuses
    · obtain ⟨tag, hok⟩ := exists_success_of_not_refuses hrefuses
      exact .inl (hsafe _ _ rfl rfl rfl (by simp [Function.comp_def]) hok)
  · rintro (hlow | hrefuses) s nodes rfl rfl hnodes rfl hok
    · exact hlow
    · exact absurd hrefuses (not_refuses_of_success hnodes hok)

namespace Downgrade

def releases : Parser where
  newVersion s :=
    if s = "1.28.0" then some (.release 1 28 0)
    else if s = "1.29.0" then some (.release 1 29 0)
    else if s = "1.30.0" then some (.release 1 30 0)
    else none
  written := by
    intro s v h
    split_ifs at h with h₁ h₂ h₃
    · subst h₁
      decide
    · subst h₂
      decide
    · subst h₃
      decide

def newerSecondNode : State where
  kubernetes := "1.29.0"
  hosts := [{ privateAddress := "10.0.0.1", hostname := "cp-0" },
    { privateAddress := "10.0.0.2", hostname := "cp-1" }]
  forceUpgrade := true
  nodes := some
    [{ name := "cp-0", kubeletVersion := "1.28.0", addresses := [(.internalIP, "10.0.0.1")]
       conditions := [("Ready", "True")] },
     { name := "cp-1", kubeletVersion := "1.30.0", addresses := [(.internalIP, "10.0.0.2")]
       conditions := [("Ready", "True")] }]
  apiserverPods := some [{ name := "kube-apiserver-cp-0"
                           images := ["registry.k8s.io/kube-apiserver:1.28.0"] }]

theorem newer_kubelet_is_downgraded :
    ¬ ∀ (semver : Parser) (s : State) (nodes : List Node), s.nodes = some nodes →
      runPreflightChecks semver s = .ok () →
      NotLower semver s.kubernetes (nodes.map (·.kubeletVersion)) := by
  intro h
  have hok : runPreflightChecks releases newerSecondNode = .ok () := by rfl
  have hlow := h releases newerSecondNode _ rfl hok (.release 1 29 0) rfl "1.30.0" (by simp)
    (.release 1 30 0) rfl
  revert hlow
  decide

end Downgrade

/-! ### Registries -/

def Pod.fromRegistry (registry : String) (p : Pod) : Pod :=
  { p with images := p.images.map (registry ++ "/" ++ ·) }

inductive RefusalKind
  | refused (canPass : Bool)
  | panicked

def Refusal.kind : Refusal → RefusalKind
  | .refused canPass _ => .refused canPass
  | .panicked => .panicked

/-- Whether the check passes, and if not whether that can be forced, apart from the message. -/
def verdict {α : Type} (result : Except Refusal α) : Except RefusalKind α :=
  result.mapError Refusal.kind

def imageVersion (semver : Parser) (image : String) : Option Version :=
  (parseContainerImageVersion semver image).toOption

theorem imageVersion_pair {name tag : List Char} (h : split ':' image.toList = [name, tag]) :
    imageVersion semver image = semver.newVersion (.ofList tag) := by
  cases hv : semver.newVersion (.ofList tag) <;>
    simp [imageVersion, parseContainerImageVersion, h, hv, Except.toOption]

theorem imageVersion_eq_none {pieces : List (List Char)}
    (hsplit : split ':' image.toList = pieces) (h : pieces.length ≠ 2) :
    imageVersion semver image = none := by
  subst hsplit
  unfold imageVersion parseContainerImageVersion
  split
  · rename_i heq
    rw [heq] at h
    exact absurd rfl h
  · rfl

variable {registry : String}

/-- A registry with a port leaves no version: there is a second colon, or what follows the only
one has a slash in it. -/
theorem imageVersion_of_colon (h : ':' ∈ registry.toList) (image : String) :
    imageVersion semver (registry ++ "/" ++ image) = none := by
  obtain ⟨host, port, hr, hhost⟩ := eq_append_cons_of_mem h
  have hsplit : split ':' (registry ++ "/" ++ image).toList =
      host :: split ':' (port ++ '/' :: image.toList) := by
    have htext : (registry ++ "/" ++ image).toList =
        host ++ ':' :: (port ++ '/' :: image.toList) := by simp [hr]
    rw [htext, split_append hhost]
  cases hrest : split ':' (port ++ '/' :: image.toList) with
  | nil => exact absurd hrest (split_ne_nil _ _)
  | cons tag rest =>
    rw [hrest] at hsplit
    cases rest with
    | cons piece rest => exact imageVersion_eq_none hsplit (by simp)
    | nil =>
      obtain ⟨-, rfl⟩ := eq_of_split_eq_singleton hrest
      rw [imageVersion_pair hsplit]
      cases hv : semver.newVersion (.ofList (port ++ '/' :: image.toList)) with
      | none => rfl
      | some v =>
        have hslash := (semver.written hv).2
        simp at hslash

theorem imageVersion_of_no_colon (h : ':' ∉ registry.toList) (image : String) :
    imageVersion semver (registry ++ "/" ++ image) = imageVersion semver image := by
  have hfront : ':' ∉ (registry ++ "/").toList := by simp [h]
  cases hsplit : split ':' image.toList with
  | nil => exact absurd hsplit (split_ne_nil _ _)
  | cons piece rest =>
    have hlong : split ':' (registry ++ "/" ++ image).toList =
        ((registry ++ "/").toList ++ piece) :: rest := by
      rw [String.toList_append]
      exact split_append_of_notMem hfront hsplit
    match rest with
    | [] => rw [imageVersion_eq_none hlong (by simp), imageVersion_eq_none hsplit (by simp)]
    | [tag] => rw [imageVersion_pair hlong, imageVersion_pair hsplit]
    | _ :: _ :: _ =>
      rw [imageVersion_eq_none hlong (by simp), imageVersion_eq_none hsplit (by simp)]

theorem imageVersion_congr {r₁ r₂ : String} (h : ':' ∈ r₁.toList ↔ ':' ∈ r₂.toList)
    (image : String) :
    imageVersion semver (r₁ ++ "/" ++ image) = imageVersion semver (r₂ ++ "/" ++ image) := by
  by_cases hcolon : ':' ∈ r₁.toList
  · rw [imageVersion_of_colon hcolon, imageVersion_of_colon (h.mp hcolon)]
  · rw [imageVersion_of_no_colon hcolon, imageVersion_of_no_colon (mt h.mpr hcolon)]

theorem verdict_apiserverVersion_cons {p : Pod} {images : List String}
    (hp : p.images = image :: images) (found : Option Version) (pods : List Pod) :
    verdict (apiserverVersion semver found (p :: pods)) =
      match imageVersion semver image with
      | none => .error (.refused false)
      | some ver =>
        if (found.getD ver).compare ver ≠ 0 then .error (.refused true)
        else verdict (apiserverVersion semver (some (found.getD ver)) pods) := by
  cases hparse : parseContainerImageVersion semver image with
  | error err => simp [apiserverVersion, hp, hparse, imageVersion, Except.toOption, verdict,
      Except.mapError, Refusal.kind]
  | ok ver =>
    by_cases hcompare : (found.getD ver).compare ver = 0 <;>
      simp [apiserverVersion, hp, hparse, imageVersion, Except.toOption, verdict,
        Except.mapError, Refusal.kind, hcompare]

theorem verdict_apiserverVersion {r₁ r₂ : String}
    (h : ∀ image, imageVersion semver (r₁ ++ "/" ++ image) =
      imageVersion semver (r₂ ++ "/" ++ image)) (found : Option Version) (pods : List Pod) :
    verdict (apiserverVersion semver found (pods.map (Pod.fromRegistry r₁))) =
      verdict (apiserverVersion semver found (pods.map (Pod.fromRegistry r₂))) := by
  induction pods generalizing found with
  | nil => rfl
  | cons p pods ih =>
    cases himages : p.images with
    | nil => simp [apiserverVersion, Pod.fromRegistry, himages]
    | cons image images =>
      have hp : ∀ r, (p.fromRegistry r).images =
          (r ++ "/" ++ image) :: images.map (r ++ "/" ++ ·) := by
        simp [Pod.fromRegistry, himages]
      rw [map_cons, map_cons, verdict_apiserverVersion_cons (hp r₁),
        verdict_apiserverVersion_cons (hp r₂), h image]
      cases imageVersion semver (r₂ ++ "/" ++ image) with
      | none => rfl
      | some ver => simp only [ih]

theorem verdict_verifyVersionSkew_eq {pods : List Pod}
    (hreq : semver.newVersion version = some reqVer) :
    verdict (verifyVersionSkew semver version (some pods) nodes) =
      (verdict (apiserverVersion semver none pods)).bind fun
        | none => .error .panicked
        | some apiserver =>
          match checkVersionSkew reqVer apiserver 1 with
          | some _ => .error (.refused true)
          | none => verdict (kubeletsSkew semver reqVer apiserver nodes) := by
  rcases hapi : apiserverVersion semver none pods with r | _ | apiserver
  · simp [verifyVersionSkew, hreq, hapi, verdict, Except.mapError, bind, Except.bind]
  · simp [verifyVersionSkew, hreq, hapi, verdict, Except.mapError, Refusal.kind, bind, Except.bind]
  · cases hskew : checkVersionSkew reqVer apiserver 1 <;>
      simp [verifyVersionSkew, hreq, hapi, hskew, verdict, Except.mapError, Refusal.kind, bind,
        Except.bind]

theorem verdict_verifyVersionSkew {pods pods' : List Pod}
    (h : verdict (apiserverVersion semver none pods) =
      verdict (apiserverVersion semver none pods')) :
    verdict (verifyVersionSkew semver version (some pods) nodes) =
      verdict (verifyVersionSkew semver version (some pods') nodes) := by
  cases hreq : semver.newVersion version with
  | none => simp [verifyVersionSkew, hreq]
  | some reqVer => rw [verdict_verifyVersionSkew_eq hreq, verdict_verifyVersionSkew_eq hreq, h]

theorem verdict_apiserverPod (hv : semver.newVersion tag = some v) :
    verdict (verifyVersionSkew semver tag (some [(apiserverPod tag).fromRegistry registry]) []) =
      if ':' ∈ registry.toList then .error (.refused false) else .error (.refused true) := by
  have hp : ((apiserverPod tag).fromRegistry registry).images =
      [registry ++ "/" ++ .ofList ("kube-apiserver".toList ++ ':' :: tag.toList)] := rfl
  have himage : imageVersion semver (.ofList ("kube-apiserver".toList ++ ':' :: tag.toList)) =
      some v := by
    rw [imageVersion, parse_tagged (by decide) hv]
    rfl
  rw [verdict_verifyVersionSkew_eq hv, verdict_apiserverVersion_cons hp]
  split_ifs with hcolon
  · rw [imageVersion_of_colon hcolon]
    rfl
  · rw [imageVersion_of_no_colon hcolon, himage]
    simp [apiserverVersion, verdict, Except.mapError, Except.bind, checkVersionSkew]

/-- The verdict is the same for two registries exactly if both of them or none has a colon. -/
theorem verdict_independent_of_registry_iff (semver : Parser)
    (hsome : ∃ tag v, semver.newVersion tag = some v) (r₁ r₂ : String) :
    (∀ (version : String) (pods : List Pod) (nodes : List Node),
      verdict (verifyVersionSkew semver version (some (pods.map (Pod.fromRegistry r₁))) nodes) =
        verdict (verifyVersionSkew semver version (some (pods.map (Pod.fromRegistry r₂))) nodes)) ↔
    (':' ∈ r₁.toList ↔ ':' ∈ r₂.toList) := by
  constructor
  · intro hsame
    obtain ⟨tag, v, hv⟩ := hsome
    have hpod := hsame tag [apiserverPod tag] []
    rw [map_singleton, map_singleton, verdict_apiserverPod hv, verdict_apiserverPod hv] at hpod
    by_cases h₁ : ':' ∈ r₁.toList <;> by_cases h₂ : ':' ∈ r₂.toList <;> simp_all
  · intro hcolon version pods nodes
    exact verdict_verifyVersionSkew (verdict_apiserverVersion (imageVersion_congr hcolon) none pods)

namespace Registry

open Downgrade

theorem two_registries : ':' ∉ "registry.k8s.io".toList ∧ ':' ∉ "quay.io/mirror".toList ∧
    ∀ (version : String) (pods : List Pod) (nodes : List Node),
      verdict (verifyVersionSkew releases version
        (some (pods.map (Pod.fromRegistry "registry.k8s.io"))) nodes) =
      verdict (verifyVersionSkew releases version
        (some (pods.map (Pod.fromRegistry "quay.io/mirror"))) nodes) :=
  ⟨by decide, by decide, (verdict_independent_of_registry_iff releases
    ⟨"1.28.0", .release 1 28 0, rfl⟩ "registry.k8s.io" "quay.io/mirror").mpr (by decide)⟩

/-- Behind a registry with a port the API servers are not recognised any more. -/
theorem port_changes_verdict :
    ¬ ∀ (semver : Parser) (r₁ r₂ version : String) (pods : List Pod) (nodes : List Node),
      verdict (verifyVersionSkew semver version (some (pods.map (Pod.fromRegistry r₁))) nodes) =
        verdict (verifyVersionSkew semver version
          (some (pods.map (Pod.fromRegistry r₂))) nodes) := by
  intro h
  have hpod : Except.ok () = Except.error (RefusalKind.refused false) :=
    h releases "registry.k8s.io" "127.0.0.1:5000" "1.29.0"
      [{ name := "kube-apiserver-cp-0", images := ["kube-apiserver:1.28.0"] }]
      [{ name := "cp-0", kubeletVersion := "1.28.0" }]
  cases hpod

end Registry

end KubeOne.Tasks.Preflight
