import KubeOne.Apis.V1beta2.Defaults
import KubeOne.Apis.Validation
import KubeOne.CloudProvider.Machines

/-! The hosts and the node sets of a loaded cluster. The numbers of the hosts come from their
places. A leader is named or chosen, and a second one is refused. What is validated about machines
is the number of the node sets. -/

namespace KubeOne.Config

open List Apis.V1beta2

open Apis.V1beta3 (HostConfig NodeSet CipherSuites defaultHosts defaultWorkers setDefaultsNodeSets
  map_withLeader withLeader_any)
open Apis.Validation (validateKubeOneCluster)

def internalCluster (suites : CipherSuites) (c : Apis.V1beta2.KubeOneCluster) :
    Apis.V1beta3.KubeOneCluster :=
  let internal := Apis.V1beta2.convertKubeOneCluster
    (Apis.V1beta2.setDefaultsKubeOneCluster suites c)
  if internal.controlPlane.nodeSets.getD [] ≠ [] then
    Apis.V1beta3.setDefaultsKubeOneCluster suites internal
  else internal

theorem controlPlane_convert (suites : CipherSuites) (c : KubeOneCluster) :
    let internal := convertKubeOneCluster
      (setDefaultsKubeOneCluster suites c)
    internal.controlPlane =
        { hosts := defaultHosts c.common.controlPlane.hosts
          nodeSets := c.common.controlPlane.nodeSets.map
            (map setDefaultsNodeSets) } ∧
      internal.staticWorkers =
        defaultWorkers c.common.controlPlane.hosts c.common.staticWorkers := by
  obtain ⟨k, -, heq⟩ := setDefaults_eq suites c
  rw [heq]
  simp only [convertKubeOneCluster, Apis.V1beta3.setDefaultsKubeOneCluster_eq]
  exact ⟨trivial, trivial⟩

theorem controlPlane_internalCluster (suites : CipherSuites) (c : KubeOneCluster) :
    (internalCluster suites c).controlPlane =
        { hosts := defaultHosts c.common.controlPlane.hosts
          nodeSets := c.common.controlPlane.nodeSets.map
            (List.map setDefaultsNodeSets) } ∧
      (internalCluster suites c).staticWorkers =
        defaultWorkers c.common.controlPlane.hosts c.common.staticWorkers := by
  obtain ⟨hcp, hworkers⟩ := controlPlane_convert suites c
  unfold internalCluster
  dsimp only
  split
  · simp only [Apis.V1beta3.setDefaultsKubeOneCluster_eq, hcp, hworkers]
    simp [Function.comp_def]
  · exact ⟨hcp, hworkers⟩

theorem id_numberedHost (taints : List Apis.V1beta3.Taint) (id : ℤ) (h : HostConfig) :
    (Apis.V1beta3.numberedHost taints id h).id = id := by
  rw [Apis.V1beta3.numberedHost_eq]

theorem map_id_defaultHosts (hosts : List HostConfig) :
    (defaultHosts hosts).map (·.id) = (List.range hosts.length).map Nat.cast := by
  rw [defaultHosts, map_withLeader fun _ => rfl]
  apply ext_getElem <;> simp [id_numberedHost]

variable {hosts : List HostConfig}

theorem map_id_defaultWorkers (h : hosts ≠ []) (workers : List HostConfig) :
    (defaultWorkers hosts workers).map (·.id) =
      (List.range workers.length).map fun idx => ((hosts.length + idx : ℕ) : ℤ) := by
  rw [defaultWorkers, if_neg h]
  apply ext_getElem
  · simp
  · intro i h₁ h₂
    simp [id_numberedHost, add_comm]

theorem map_id_hosts (h : hosts ≠ []) (workers : List HostConfig) :
    (defaultHosts hosts ++ defaultWorkers hosts workers).map (·.id) =
      (List.range (hosts.length + workers.length)).map Nat.cast := by
  rw [map_append, map_id_defaultHosts, map_id_defaultWorkers h, range_add, map_append, map_map]
  rfl

theorem defaultHosts_any_isLeader (h : hosts ≠ []) : (defaultHosts hosts).any (·.isLeader) = true :=
  withLeader_any (by simpa using h)

/-- In a cluster that has been accepted no two hosts have the same number, by which their SSH
connections are kept, and one control plane host is the leader. -/
theorem host_identity_sound (suites : CipherSuites) (c : Apis.V1beta2.KubeOneCluster)
    (hhosts : c.common.controlPlane.hosts ≠ [])
    (hvalid : validateKubeOneCluster (internalCluster suites c) = []) :
    (((internalCluster suites c).controlPlane.hosts ++
        (internalCluster suites c).staticWorkers).map (·.id)).Nodup ∧
      (internalCluster suites c).controlPlane.hosts.countP (·.isLeader) = 1 := by
  obtain ⟨hcp, hworkers⟩ := controlPlane_internalCluster suites c
  have hne : (internalCluster suites c).controlPlane.hosts ≠ [] := by
    rw [hcp]
    simpa [defaultHosts_eq_nil] using hhosts
  have hle := Apis.Validation.countP_isLeader_le
    (Apis.Validation.validateHostConfig_eq_nil_of_controlPlane hvalid hne)
  have hany := defaultHosts_any_isLeader hhosts
  constructor
  · rw [hcp, hworkers, map_id_hosts hhosts]
    exact List.Nodup.map (fun _ _ h => Int.ofNat_inj.mp h) nodup_range
  · have hpos : 0 < (internalCluster suites c).controlPlane.hosts.countP (·.isLeader) := by
      rw [hcp]
      simpa [countP_pos_iff] using hany
    exact le_antisymm hle hpos

namespace Named

def suites : CipherSuites := ⟨[], [], []⟩

def cluster : Apis.V1beta2.KubeOneCluster where
  common :=
    { kubernetes := "1.36.1"
      controlPlane :=
        { hosts :=
            [{ id := 7, publicAddress := "192.0.2.10" },
             { id := 7, publicAddress := "192.0.2.11", isLeader := true }] }
      staticWorkers := [{ id := 7, publicAddress := "192.0.2.12" }] }

theorem named_leader_accepted :
    (((internalCluster suites cluster).controlPlane.hosts ++
        (internalCluster suites cluster).staticWorkers).map (·.id)).Nodup ∧
      (internalCluster suites cluster).controlPlane.hosts.countP (·.isLeader) = 1 :=
  host_identity_sound suites cluster (by decide) (by decide +kernel)

end Named

def controlPlaneMachines (clusterName : String) (c : Apis.V1beta3.KubeOneCluster) : List String :=
  CloudProvider.generateMachines clusterName (c.controlPlane.nodeSets.getD [])

theorem length_controlPlaneMachines (clusterName : String) (c : Apis.V1beta3.KubeOneCluster) :
    (controlPlaneMachines clusterName c).length =
      ((c.controlPlane.nodeSets.getD []).map fun ns => ns.replicas.toNat).sum := by
  simp [controlPlaneMachines, CloudProvider.generateMachines, length_flatMap]

/-- A node set that gives an even number of machines. Without a number of replicas it gives one. -/
def evenReplicas (ns : NodeSet) : Bool := ns.replicas ≠ 0 && ns.replicas.toNat % 2 == 0

theorem sum_replicas_mod_two (nodeSets : List NodeSet) :
    ((nodeSets.map setDefaultsNodeSets).map fun ns => ns.replicas.toNat).sum % 2 =
      (nodeSets.length + nodeSets.countP evenReplicas) % 2 := by
  induction nodeSets with
  | nil => rfl
  | cons ns nodeSets ih =>
    have hns : (setDefaultsNodeSets ns).replicas.toNat % 2 =
        (1 + if evenReplicas ns then 1 else 0) % 2 := by
      by_cases hzero : ns.replicas = 0
      · simp [setDefaultsNodeSets, evenReplicas, hzero]
      · by_cases heven : ns.replicas.toNat % 2 = 0
        · simp [setDefaultsNodeSets, evenReplicas, hzero, heven]
        · have hone : ns.replicas.toNat % 2 = 1 := by omega
          simp [setDefaultsNodeSets, evenReplicas, hzero, hone]
    simp only [map_cons, sum_cons, length_cons, countP_cons]
    omega

/-- The number of machines is odd exactly if the node sets with an even number of machines are even
in number; where hosts are listed as well, so that the node sets are not validated, exactly if this
goes with an odd number of node sets. -/
theorem control_plane_machines_odd_iff (suites : CipherSuites) (clusterName : String)
    (c : Apis.V1beta2.KubeOneCluster) (hsets : c.common.controlPlane.nodeSets.getD [] ≠ [])
    (hvalid : validateKubeOneCluster (internalCluster suites c) = []) :
    Odd (controlPlaneMachines clusterName (internalCluster suites c)).length ↔
      (Even ((c.common.controlPlane.nodeSets.getD []).countP evenReplicas) ↔
        c.common.controlPlane.hosts = [] ∨
          Odd (c.common.controlPlane.nodeSets.getD []).length) := by
  obtain ⟨hcp, -⟩ := controlPlane_internalCluster suites c
  have hodd : c.common.controlPlane.hosts = [] →
      Odd (c.common.controlPlane.nodeSets.getD []).length := by
    intro hhosts
    have hlength := Apis.Validation.odd_length_nodeSets hvalid (by rw [hcp, hhosts]; rfl)
    cases hsets : c.common.controlPlane.nodeSets <;> simp_all
  have hmap : ((c.common.controlPlane.nodeSets.map
      (map setDefaultsNodeSets)).getD []) =
        (c.common.controlPlane.nodeSets.getD []).map setDefaultsNodeSets := by
    cases c.common.controlPlane.nodeSets <;> rfl
  have hmod := sum_replicas_mod_two (c.common.controlPlane.nodeSets.getD [])
  rw [length_controlPlaneMachines, hcp, or_iff_right_of_imp hodd]
  rw [hmap, Nat.odd_iff, Nat.odd_iff, Nat.even_iff]
  omega

namespace Pair

def cluster : Apis.V1beta2.KubeOneCluster where
  common :=
    { kubernetes := "1.36.1"
      cloudProvider := { aws := some {} }
      controlPlane := { nodeSets := some [{ name := "a", replicas := 2 }] } }

/-- A control plane of two machines is accepted. -/
theorem two_machines_accepted :
    validateKubeOneCluster (internalCluster Named.suites cluster) = [] ∧
      controlPlaneMachines "demo" (internalCluster Named.suites cluster) =
        ["demo-a-0", "demo-a-1"] := by
  constructor <;> decide +kernel

def spread : Apis.V1beta2.KubeOneCluster where
  common :=
    { kubernetes := "1.36.1"
      cloudProvider := { aws := some {} }
      controlPlane :=
        { nodeSets := some
            [{ name := "a" }, { name := "b", replicas := 1 }, { name := "c", replicas := 3 }] } }

theorem spread_machines_odd :
    Odd (controlPlaneMachines "demo" (internalCluster Named.suites spread)).length :=
  (control_plane_machines_odd_iff Named.suites "demo" spread (by decide) (by decide +kernel)).mpr
    (by decide +kernel)

end Pair

end KubeOne.Config
