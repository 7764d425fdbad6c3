import KubeOne.Apis.V1beta3.Defaults
import Mathlib.Algebra.Ring.Parity

/-! The validation of the hosts and the node sets of a cluster. Every check reports the field that
it looks at. A list of hosts is walked once, with a flag that says whether a leader has been seen;
the static workers are compared with the control plane as well. -/

namespace KubeOne.Apis.Validation

open V1beta3 (HostConfig NodeSet KubeletConfig ControlPlaneConfig ClusterNetworkConfig IPFamily
  OperatingSystemName)

inductive ErrorType
  | required
  | invalid
  | forbidden
  | notSupported

structure FieldError where
  type : ErrorType
  field : String
  detail : String

def child (fldPath name : String) : String := fldPath ++ "." ++ name

def index (fldPath : String) (idx : ℕ) : String := fldPath ++ "[" ++ toString idx ++ "]"

def check (fails : Bool) (type : ErrorType) (field detail : String) : List FieldError :=
  if fails then [⟨type, field, detail⟩] else []

@[simp] theorem check_eq_nil {fails : Bool} {type : ErrorType} {field detail : String} :
    check fails type field detail = [] ↔ fails = false := by
  cases fails <;> simp [check]

def OperatingSystemName.isValid : OperatingSystemName → Bool
  | .other _ => false
  | _ => true

def outOfPercent (v : ℤ) : Bool := v < 0 || 100 < v

def validateKubeletConfig (klcfg : KubeletConfig) (fldPath : String) : List FieldError :=
  check (klcfg.maxPods.any (· ≤ 0)) .invalid (child fldPath "maxPods")
      "maxPods must be a positive number" ++
    check (klcfg.imageGCHighThresholdPercent.any outOfPercent) .invalid
      (child fldPath "imageGCHighThresholdPercent") "must be between 0 and 100, inclusive" ++
    check (klcfg.imageGCLowThresholdPercent.any outOfPercent) .invalid
      (child fldPath "imageGCLowThresholdPercent") "must be between 0 and 100, inclusive"

/-- A key that ends in a dash takes the label away. -/
def validateLabels (kv : List (String × String)) (fldPath : String) : List FieldError :=
  kv.flatMap fun (labelKey, labelValue) =>
    check (labelKey.toList.getLast? == some '-' && labelValue != "") .invalid fldPath
      "key to remove cannot have value"

def needsIPv6 : IPFamily → Bool
  | .ipv6 | .ipv4ipv6 | .ipv6ipv4 => true
  | _ => false

def masterTaint : String := "node-role.kubernetes.io/master"

def validateHost (clusterNetwork : ClusterNetworkConfig) (hostFldPath : String)
    (leaderFound : Bool) (host : HostConfig) : List FieldError :=
  let noKey := host.sshPrivateKeyFile == "" && host.sshAgentSocket == ""
  let unknownKey := "neither SSH private key nor agent socket given, don't know how to authenticate"
  check (leaderFound && host.isLeader) .invalid (child hostFldPath "isLeader")
      "only one leader is allowed" ++
    check (host.publicAddress == "") .required (child hostFldPath "publicAddress")
      "no public IP/address given" ++
    check (needsIPv6 clusterNetwork.ipFamily && host.ipv6Addresses.isEmpty) .required
      (child hostFldPath "ipFamily") "no IPv6 address given" ++
    check (host.privateAddress == "") .required (child hostFldPath "privateAddress")
      "no private IP/address givevn" ++
    check noKey .invalid (child hostFldPath "sshPrivateKeyFile") unknownKey ++
    check noKey .invalid (child hostFldPath "sshAgentSocket") unknownKey ++
    check (host.sshUsername == "") .required (child hostFldPath "sshUsername")
      "no SSH username given" ++
    check (!OperatingSystemName.isValid host.operatingSystem) .invalid
      (child hostFldPath "operatingSystem") "invalid operatingSystem provided" ++
    validateKubeletConfig host.kubelet (child hostFldPath "kubelet") ++
    validateLabels host.annotations (child hostFldPath "annotations") ++
    validateLabels host.labels (child hostFldPath "labels") ++
    (host.taints.getD []).flatMap fun taint =>
      check (taint.key == masterTaint) .forbidden (child hostFldPath "taints")
        ("\"" ++ masterTaint ++ "\" taint is forbidden for clusters running Kubernetes 1.25+")

def validateHostsFrom (clusterNetwork : ClusterNetworkConfig) (fldPath : String) :
    ℕ → Bool → List HostConfig → List FieldError
  | _, _, [] => []
  | idx, leaderFound, host :: hosts =>
    validateHost clusterNetwork (index fldPath idx) leaderFound host ++
      validateHostsFrom clusterNetwork fldPath (idx + 1) (leaderFound || host.isLeader) hosts

def validateHostConfig (hosts : List HostConfig) (clusterNetwork : ClusterNetworkConfig)
    (fldPath : String) : List FieldError :=
  validateHostsFrom clusterNetwork fldPath 0 false hosts

/-- The replicas are not looked at. -/
def validateControlPlaneMachines (nodeSets : List NodeSet) (fld : String) : List FieldError :=
  check (nodeSets.length % 2 == 0) .invalid fld "number of control plane machines must be odd"

/-- Where there are hosts, the node sets are not looked at. -/
def validateControlPlaneConfig (c : ControlPlaneConfig) (clusterNetwork : ClusterNetworkConfig)
    (fldPath : String) : List FieldError :=
  if c.hosts ≠ [] then validateHostConfig c.hosts clusterNetwork (child fldPath "hosts")
  else if c.nodeSets.getD [] ≠ [] then
    validateControlPlaneMachines (c.nodeSets.getD []) (child fldPath "nodeSets")
  else
    [⟨.invalid, fldPath, ".controlPlane.Hosts or .controlPlane.NodeSets is a required field. " ++
      "There must be at least one control plane instance in the cluster."⟩]

def validateWorker (fldPath : String) (worker cp : HostConfig) : List FieldError :=
  check (cp.hostname != "" && worker.hostname != "" && cp.hostname == worker.hostname) .invalid
      fldPath ("hostname \"" ++ worker.hostname ++ "\" already used for control-plane node") ++
    check (cp.privateAddress == worker.privateAddress) .invalid fldPath
      ("private IP address \"" ++ worker.privateAddress ++
        "\" already used for control-plane node") ++
    check (cp.publicAddress == worker.publicAddress) .invalid fldPath
      ("public IP address \"" ++ worker.publicAddress ++ "\" already used for control-plane node")

def validateStaticWorkersConfig (staticWorkers : List HostConfig)
    (controlPlane : ControlPlaneConfig) (clusterNetwork : ClusterNetworkConfig)
    (fldPath : String) : List FieldError :=
  validateHostConfig staticWorkers clusterNetwork (child fldPath "hosts") ++
    (staticWorkers.mapIdx fun idx worker => controlPlane.hosts.flatMap
      (validateWorker (index (child fldPath "hosts") idx) worker)).flatten

/-- The part of the validation of a cluster that looks at its hosts and node sets. -/
def validateKubeOneCluster (c : V1beta3.KubeOneCluster) : List FieldError :=
  validateControlPlaneConfig c.controlPlane c.clusterNetwork "controlPlane" ++
    validateStaticWorkersConfig c.staticWorkers c.controlPlane c.clusterNetwork "staticWorkers"

theorem countP_isLeader_le {n : ClusterNetworkConfig} {fldPath : String} {idx : ℕ} {found : Bool}
    {hosts : List HostConfig} (h : validateHostsFrom n fldPath idx found hosts = []) :
    hosts.countP (·.isLeader) ≤ if found then 0 else 1 := by
  induction hosts generalizing idx found with
  | nil => simp
  | cons host hosts ih =>
    rw [validateHostsFrom, List.append_eq_nil_iff] at h
    have hrest := ih h.2
    have hleader : (found && host.isLeader) = false := by
      simp only [validateHost, List.append_eq_nil_iff, check_eq_nil] at h
      tauto
    cases hl : host.isLeader <;> cases hf : found <;> simp_all

variable {c : V1beta3.KubeOneCluster}

theorem validateHostConfig_eq_nil_of_controlPlane
    (h : validateKubeOneCluster c = []) (hhosts : c.controlPlane.hosts ≠ []) :
    validateHostConfig c.controlPlane.hosts c.clusterNetwork "controlPlane.hosts" = [] := by
  rw [validateKubeOneCluster, List.append_eq_nil_iff, validateControlPlaneConfig,
    if_pos hhosts] at h
  exact h.1

theorem odd_length_nodeSets (h : validateKubeOneCluster c = [])
    (hhosts : c.controlPlane.hosts = []) : Odd (c.controlPlane.nodeSets.getD []).length := by
  rw [validateKubeOneCluster, List.append_eq_nil_iff, validateControlPlaneConfig,
    if_neg (by simpa using hhosts)] at h
  split at h
  · have hodd : ((c.controlPlane.nodeSets.getD []).length % 2 == 0) = false := by
      simpa only [validateControlPlaneMachines, check_eq_nil] using h.1
    rw [Nat.odd_iff]
    simpa using hodd
  · cases h.1

end KubeOne.Apis.Validation
