import KubeOne.Apis.V1beta3.Defaults
import KubeOne.Semver.Version
import Mathlib.Data.List.Nodup
import Mathlib.Data.List.Pairwise

/-! The live cluster as the probes record it: the status bits of the components, the health checks
on them, and which hosts are nodes. A node name marks at most one host, so the hosts in the
cluster have pairwise different names. -/

namespace KubeOne.State

open List

def systemDStatusUnknown : UInt64 := (1 : UInt64) <<< 0
def systemdDStatusDead : UInt64 := (1 : UInt64) <<< 1
def systemDStatusRestarting : UInt64 := (1 : UInt64) <<< 2
def componentInstalled : UInt64 := (1 : UInt64) <<< 3
def systemDStatusActive : UInt64 := (1 : UInt64) <<< 4
def systemDStatusRunning : UInt64 := (1 : UInt64) <<< 5
def kubeletInitialized : UInt64 := (1 : UInt64) <<< 6
def podRunning : UInt64 := (1 : UInt64) <<< 7
def kernelRelease4Dot19Plus : UInt64 := (1 : UInt64) <<< 8

/-- A systemd unit of a host, or its kernel. There is no version where the component is not
installed. -/
structure ComponentStatus where
  status : UInt64 := 0
  version : Option Semver.Version := none
  name : String := ""

structure ContainerStatus where
  status : UInt64 := 0

def ComponentStatus.isProvisioned (cs : ComponentStatus) : Bool :=
  cs.status &&& (systemDStatusRunning ||| componentInstalled ||| systemDStatusActive) != 0

def ComponentStatus.healthy (cs : ComponentStatus) : Bool :=
  cs.status &&& systemDStatusRunning != 0 && cs.status &&& systemDStatusRestarting == 0

def ContainerStatus.healthy (cs : ContainerStatus) : Bool := cs.status &&& podRunning != 0

abbrev HostConfig := Apis.V1beta3.HostConfig

/-- Times are counted from the zero time, which stands for a time that is not known. -/
structure Host where
  config : HostConfig
  kernelRelease : ComponentStatus := {}
  containerRuntimeContainerd : ComponentStatus := {}
  kubelet : ComponentStatus := {}
  apiServer : ContainerStatus := {}
  etcd : ContainerStatus := {}
  earliestCertExpiry : ℤ := 0
  authenticationConfigChecksum : String := ""
  isInCluster : Bool := false

namespace Host

def isProvisioned (h : Host) : Bool :=
  h.containerRuntimeContainerd.isProvisioned && h.kubelet.isProvisioned

def initialized (h : Host) : Bool := h.isProvisioned && h.kubelet.status &&& kubeletInitialized != 0

def healthy (h : Host) : Bool :=
  h.isInCluster && h.containerRuntimeContainerd.healthy && h.kubelet.healthy

def controlPlaneHealthy (h : Host) : Bool := h.healthy && h.apiServer.healthy

def workerHealthy (h : Host) : Bool := h.healthy

end Host

/-- The encryption at rest, with the text of its configuration file. -/
structure EncryptionConfiguration where
  enable : Bool := false
  custom : Bool := false
  config : Option String := none

structure Cluster where
  controlPlane : List Host
  staticWorkers : List Host
  expectedKubernetesVersion : Option Semver.Version := none
  encryptionConfiguration : EncryptionConfiguration := {}
  ccmClusterName : String := ""
  authenticationConfigEnabled : Bool := false

namespace Cluster

/-- Provisioned as soon as one control plane host is initialized. -/
def isProvisioned (c : Cluster) : Bool := c.controlPlane.any Host.initialized

def healthy (c : Cluster) : Bool :=
  c.controlPlane.all Host.controlPlaneHealthy && c.staticWorkers.all Host.workerHealthy

def brokenHosts (c : Cluster) : List String :=
  (c.controlPlane.filter fun h => h.isInCluster && !h.controlPlaneHealthy).map
      (·.config.hostname) ++
    (c.staticWorkers.filter fun h => h.isInCluster && !h.workerHealthy).map (·.config.hostname)

/-- How many working etcd members can go at the same time. The division is the
integer one of the source; a cluster without a healthy member has tolerance `-1`. -/
def etcdToleranceRemain (c : Cluster) : Int :=
  let healthyEtcd := c.controlPlane.countP fun h => h.isInCluster && h.etcd.healthy
  let quorum := healthyEtcd / 2 + 1
  (healthyEtcd : Int) - quorum

def brokenEtcd (c : Cluster) : List Host :=
  c.controlPlane.filter fun h => h.isInCluster && !h.etcd.healthy

def deleteCandidate (c : Cluster) : List Host :=
  c.controlPlane.filter fun h => h.isInCluster && h.etcd.healthy && !h.apiServer.healthy

def brokenWorkers (c : Cluster) : List Host :=
  c.staticWorkers.filter fun h => h.isInCluster && !h.workerHealthy

/-- The candidates that the remaining tolerance covers. -/
def tolerated (c : Cluster) : List Host :=
  let tolerance := c.etcdToleranceRemain - c.brokenEtcd.length
  if 0 < tolerance ∧ 0 < c.deleteCandidate.length then
    if tolerance ≥ c.deleteCandidate.length then c.deleteCandidate
    else c.deleteCandidate.take tolerance.toNat
  else []

def safeToDeleteHosts (c : Cluster) : List String :=
  (c.brokenEtcd ++ c.tolerated ++ c.brokenWorkers).map (·.config.hostname)

end Cluster

def markFirst (name : String) : List Host → Option (List Host)
  | [] => none
  | h :: hs =>
    if h.config.hostname = name then some ({ h with isInCluster := true } :: hs)
    else (markFirst name hs).map (h :: ·)

/-- One node of the node list: control plane hosts first, static workers only when
no control plane host has the name. -/
def Cluster.markNode (c : Cluster) (name : String) : Cluster :=
  match markFirst name c.controlPlane with
  | some hosts => { c with controlPlane := hosts }
  | none =>
    match markFirst name c.staticWorkers with
    | some hosts => { c with staticWorkers := hosts }
    | none => c

def Cluster.markNodes (c : Cluster) (nodes : List String) : Cluster :=
  nodes.foldl Cluster.markNode c

/-- A host that is in the cluster is the first one of its name. -/
def FirstOfName (hosts : List Host) : Prop :=
  hosts.Pairwise fun a b => b.isInCluster = true → a.config.hostname ≠ b.config.hostname

/-- What the node loop guarantees about the marks. -/
structure Cluster.Investigated (c : Cluster) : Prop where
  controlPlane : FirstOfName c.controlPlane
  staticWorkers : FirstOfName c.staticWorkers
  disjoint : ∀ w ∈ c.staticWorkers, w.isInCluster = true →
    ∀ h ∈ c.controlPlane, h.config.hostname ≠ w.config.hostname

/-- A cluster whose marks come from the node loop. -/
abbrev LiveCluster := { c : Cluster // c.Investigated }

variable {name : String} {hosts marked : List Host}

theorem markFirst_map {β : Type*} {f : Host → β}
    (hf : ∀ h, f { h with isInCluster := true } = f h) (hm : markFirst name hosts = some marked) :
    marked.map f = hosts.map f := by
  induction hosts generalizing marked with
  | nil => simp [markFirst] at hm
  | cons h hs ih =>
    simp only [markFirst] at hm
    split at hm
    · cases hm
      simp [hf]
    · obtain ⟨rest, hr, rfl⟩ := Option.map_eq_some_iff.mp hm
      simp [ih hr]

theorem Cluster.markNodes_map {β : Type*} {f : Host → β}
    (hf : ∀ h, f { h with isInCluster := true } = f h) (c : Cluster) (nodes : List String) :
    (c.markNodes nodes).controlPlane.map f = c.controlPlane.map f ∧
      (c.markNodes nodes).staticWorkers.map f = c.staticWorkers.map f := by
  induction nodes generalizing c with
  | nil => exact ⟨rfl, rfl⟩
  | cons name rest ih =>
    obtain ⟨hcp, hsw⟩ := ih (c.markNode name)
    refine ⟨hcp.trans ?_, hsw.trans ?_⟩ <;> unfold Cluster.markNode <;> split
    · rename_i hosts hm
      exact markFirst_map hf hm
    · split <;> rfl
    · rfl
    · split
      · rename_i hosts hm
        exact markFirst_map hf hm
      · rfl

theorem markFirst_none (hm : markFirst name hosts = none) :
    ∀ h ∈ hosts, h.config.hostname ≠ name := by
  induction hosts with
  | nil => simp
  | cons h hs ih =>
    simp only [markFirst] at hm
    split at hm
    · cases hm
    · rename_i hne
      simp only [mem_cons, forall_eq_or_imp]
      exact ⟨hne, ih (Option.map_eq_none_iff.mp hm)⟩

theorem markFirst_mem (hm : markFirst name hosts = some marked) :
    ∀ h ∈ marked, h ∈ hosts ∨ h.config.hostname = name := by
  induction hosts generalizing marked with
  | nil => simp [markFirst] at hm
  | cons h hs ih =>
    simp only [markFirst] at hm
    split at hm
    · rename_i he
      cases hm
      intro x hx
      rcases mem_cons.mp hx with rfl | hx
      · exact Or.inr he
      · exact Or.inl (mem_cons_of_mem _ hx)
    · obtain ⟨rest, hr, rfl⟩ := Option.map_eq_some_iff.mp hm
      intro x hx
      rcases mem_cons.mp hx with rfl | hx
      · exact Or.inl mem_cons_self
      · exact (ih hr x hx).imp_left (mem_cons_of_mem _)

theorem markFirst_firstOfName (hm : markFirst name hosts = some marked) (hf : FirstOfName hosts) :
    FirstOfName marked := by
  induction hosts generalizing marked with
  | nil => simp [markFirst] at hm
  | cons h hs ih =>
    unfold FirstOfName at hf ⊢
    rw [pairwise_cons] at hf
    simp only [markFirst] at hm
    split at hm
    · cases hm
      exact pairwise_cons.mpr ⟨hf.1, hf.2⟩
    · rename_i hne
      obtain ⟨rest, hr, rfl⟩ := Option.map_eq_some_iff.mp hm
      refine pairwise_cons.mpr ⟨fun b hb hin => ?_, ih hr hf.2⟩
      rcases markFirst_mem hr b hb with hb | hb
      · exact hf.1 b hb hin
      · rw [hb]
        exact hne

theorem Cluster.Investigated.markNode {c : Cluster} (hc : c.Investigated) (name : String) :
    (c.markNode name).Investigated := by
  unfold Cluster.markNode
  cases hcp : markFirst name c.controlPlane with
  | some hosts =>
    refine ⟨markFirst_firstOfName hcp hc.controlPlane, hc.staticWorkers, fun w hw hin h hh => ?_⟩
    -- the names of the control plane are the same list as before
    have hmem : h.config.hostname ∈ c.controlPlane.map (·.config.hostname) := by
      rw [← markFirst_map (fun _ => rfl) hcp]
      exact mem_map_of_mem hh
    obtain ⟨h', hh', he⟩ := mem_map.mp hmem
    exact he ▸ hc.disjoint w hw hin h' hh'
  | none =>
    cases hsw : markFirst name c.staticWorkers with
    | none => exact hc
    | some hosts =>
      refine ⟨hc.controlPlane, markFirst_firstOfName hsw hc.staticWorkers, fun w hw hin h hh => ?_⟩
      rcases markFirst_mem hsw w hw with hw | hw
      · exact hc.disjoint w hw hin h hh
      · rw [hw]
        exact markFirst_none hcp h hh

theorem Cluster.Investigated.markNodes {c : Cluster} (hc : c.Investigated) (nodes : List String) :
    (c.markNodes nodes).Investigated := by
  induction nodes generalizing c with
  | nil => exact hc
  | cons name rest ih => exact ih (hc.markNode name)

theorem Cluster.investigated_markNodes (c : Cluster) (nodes : List String)
    (hcp : ∀ h ∈ c.controlPlane, h.isInCluster = false)
    (hsw : ∀ h ∈ c.staticWorkers, h.isInCluster = false) : (c.markNodes nodes).Investigated := by
  have hinit : c.Investigated := by
    refine ⟨?_, ?_, fun w hw hin => by simp [hsw w hw] at hin⟩
    · exact pairwise_of_forall_mem_list fun a _ b hb hin => by simp [hcp b hb] at hin
    · exact pairwise_of_forall_mem_list fun a _ b hb hin => by simp [hsw b hb] at hin
  exact hinit.markNodes nodes

end KubeOne.State
