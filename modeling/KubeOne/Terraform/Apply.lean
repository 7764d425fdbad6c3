import KubeOne.Apis.V1beta3.Defaults
import KubeOne.Terraform.Merge

/-! The output of Terraform in a cluster. The hosts come from lists of addresses, one position for
each host; groups of static workers are added in the order of their names, and worker sets in the
order of a Go map. What is copied to a worker set as it is, and the sections that come from no map,
are parameters. -/

namespace KubeOne.Terraform.Apply

open Collections List Apis.V1beta3

variable {φ ω ρ : Type}

/-- The texts of the kubelet section are already read. -/
structure HostsSpec where
  publicAddress : List String := []
  ipv6Addresses : List (List String) := []
  privateAddress : List String := []
  hostnames : List String := []
  operatingSystem : OperatingSystemName := .unknown
  sshUser : String := ""
  sshPort : ℤ := 0
  sshPrivateKeyFile : String := ""
  sshCertFile : String := ""
  sshAgentSocket : String := ""
  sshHostKeys : List (List UInt8) := []
  bastion : String := ""
  bastionPort : ℤ := 0
  bastionUser : String := ""
  bastionHostKey : List UInt8 := []
  kubelet : KubeletConfig := {}
  labels : List (String × String) := []
  annotations : List (String × String) := []

def newHostConfig (publicIP privateIP : String) (ipv6Addr : List String) (idx : ℕ)
    (spec : HostsSpec) : HostConfig where
  bastion := spec.bastion
  bastionPort := spec.bastionPort
  bastionUser := spec.bastionUser
  bastionHostPublicKey := spec.bastionHostKey
  hostname := spec.hostnames.getD idx ""
  operatingSystem := spec.operatingSystem
  privateAddress := privateIP
  publicAddress := publicIP
  ipv6Addresses := ipv6Addr
  sshAgentSocket := spec.sshAgentSocket
  sshPrivateKeyFile := spec.sshPrivateKeyFile
  sshCertFile := spec.sshCertFile
  sshUsername := spec.sshUser
  sshPort := spec.sshPort
  labels := spec.labels
  annotations := spec.annotations
  sshHostPublicKey := spec.sshHostKeys.getD idx []
  kubelet := spec.kubelet

/-- The private addresses count only if there is no public one. -/
def HostsSpec.toHostConfigs (spec : HostsSpec) : List HostConfig :=
  let hosts := spec.publicAddress.mapIdx fun i publicIP =>
    newHostConfig publicIP (spec.privateAddress.getD i publicIP) (spec.ipv6Addresses.getD i []) i
      spec
  if hosts.length = 0 then
    spec.privateAddress.mapIdx fun i privateIP =>
      newHostConfig "" privateIP (spec.ipv6Addresses.getD i []) i spec
  else hosts

/-- The host has what the lists have at the position. -/
structure HostsSpec.HostAt (spec : HostsSpec) (i : ℕ) (h : HostConfig) : Prop where
  publicAddress : h.publicAddress = spec.publicAddress.getD i ""
  privateAddress : h.privateAddress = spec.privateAddress.getD i h.publicAddress
  ipv6Addresses : h.ipv6Addresses = spec.ipv6Addresses.getD i []
  hostname : h.hostname = spec.hostnames.getD i ""
  sshHostPublicKey : h.sshHostPublicKey = spec.sshHostKeys.getD i []

/-- Every position of the address lists has its host, exactly if there is no public address or one
for every private address. -/
theorem host_for_each_position_iff (spec : HostsSpec) :
    (spec.toHostConfigs.length = max spec.publicAddress.length spec.privateAddress.length ∧
      ∀ (i : ℕ) h, spec.toHostConfigs[i]? = some h → spec.HostAt i h) ↔
      spec.publicAddress = [] ∨ spec.privateAddress.length ≤ spec.publicAddress.length := by
  unfold HostsSpec.toHostConfigs
  by_cases hempty : spec.publicAddress = []
  · simp only [hempty, mapIdx_nil, length_nil, if_true, length_mapIdx,
      Nat.zero_max, true_and, true_or, iff_true]
    intro i h hi
    obtain ⟨a, ha, rfl⟩ := Option.map_eq_some_iff.mp (getElem?_mapIdx ▸ hi)
    exact ⟨by simp [newHostConfig, hempty], by simp [newHostConfig, ha], rfl, rfl, rfl⟩
  · have hlen : spec.publicAddress.length ≠ 0 := by simpa using hempty
    simp only [length_mapIdx, hlen, if_false, hempty, false_or]
    refine ⟨fun h => by omega, fun hle => ⟨by omega, fun i h hi => ?_⟩⟩
    obtain ⟨a, ha, rfl⟩ := Option.map_eq_some_iff.mp (getElem?_mapIdx ▸ hi)
    exact ⟨by simp [newHostConfig, ha], rfl, rfl, rfl, rfl⟩

/-- The second machine has a private address only. -/
theorem private_host_dropped :
    (HostsSpec.toHostConfigs { publicAddress := ["192.0.2.1"]
                               privateAddress := ["10.0.0.1", "10.0.0.2"] }).length = 1 := rfl

structure Worker (φ ω : Type) where
  name : String
  cloudProviderSpec : φ
  settings : ω
  deriving DecidableEq

structure Cluster (φ ω ρ : Type) where
  controlPlane : List HostConfig
  staticWorkers : List HostConfig
  dynamicWorkers : List (Worker φ ω)
  rest : ρ

/-- The maps are lists in the order in which they are iterated. -/
structure Config (φ ω : Type) where
  leaderIP : String := ""
  untaint : Bool := false
  controlPlane : HostsSpec
  staticWorkers : List (String × HostsSpec)
  workers : List (String × Worker φ ω)

/-- The numbers go on from one list of hosts to the next. -/
def idIncrementer (currentHostID : ℕ) (hosts : List HostConfig) : List HostConfig :=
  hosts.mapIdx fun i h => { h with id := currentHostID + i }

def isLeader (leaderIP : String) (hosts : List HostConfig) : List HostConfig :=
  if leaderIP = "" then hosts
  else hosts.map fun h =>
    { h with isLeader := leaderIP = h.publicAddress ∨ leaderIP = h.privateAddress }

def untainer (untaint : Bool) (hosts : List HostConfig) : List HostConfig :=
  if untaint then hosts.map ({ · with taints := some [] }) else hosts

/-- A group of static workers, after those before it. -/
def addGroup (groups : List (String × HostsSpec)) (acc : List HostConfig × ℕ)
    (groupName : String) : List HostConfig × ℕ :=
  match groups.lookup groupName with
  | some group =>
    (acc.1 ++ idIncrementer acc.2 group.toHostConfigs, acc.2 + group.toHostConfigs.length)
  | none => acc

/-- A worker set comes into the first one of its name, or to the end. -/
def addWorker (merge : φ → φ → Option φ) (e : String × Worker φ ω) :
    List (Worker φ ω) → Option (List (Worker φ ω))
  | [] => some [{ e.2 with name := e.1 }]
  | w :: ws =>
    if w.name = e.1 then
      (merge w.cloudProviderSpec e.2.cloudProviderSpec).map fun spec =>
        { w with cloudProviderSpec := spec } :: ws
    else (addWorker merge e ws).map (w :: ·)

def addWorkers (merge : φ → φ → Option φ) :
    List (String × Worker φ ω) → List (Worker φ ω) → Option (List (Worker φ ω))
  | [], ws => some ws
  | e :: m, ws => (addWorker merge e ws).bind (addWorkers merge m)

/-- The merger is made from the cloud provider when the first worker set needs it. -/
def Config.apply (assign : ρ → Option ρ) (newMerger : ρ → Option (φ → φ → Option φ))
    (output : Config φ ω) (cluster : Cluster φ ω ρ) : Option (Cluster φ ω ρ) :=
  (assign cluster.rest).bind fun rest =>
    let cpHosts := untainer output.untaint
      (isLeader output.leaderIP (idIncrementer 0 output.controlPlane.toHostConfigs))
    let static := ((output.staticWorkers.map (·.1)).insertionSort (· ≤ ·)).foldl
      (addGroup output.staticWorkers) (cluster.staticWorkers, cpHosts.length)
    (addWorkers (fun old new => (newMerger rest).bind fun merge => merge old new) output.workers
        cluster.dynamicWorkers).map fun workers =>
      { controlPlane := if cpHosts.length > 0 then cpHosts else cluster.controlPlane
        staticWorkers := static.1
        dynamicWorkers := workers
        rest }

section Workers

variable {merge : φ → φ → Option φ} {m m' : List (String × Worker φ ω)} {w : Worker φ ω}
  {ws : List (Worker φ ω)}

/-- The worker sets that are new, as they are added. -/
def added (ws : List (Worker φ ω)) (m : List (String × Worker φ ω)) : List (Worker φ ω) :=
  (m.filter (·.1 ∉ ws.map Worker.name)).map fun e => { e.2 with name := e.1 }

/-- What becomes of one worker set. -/
def merged (merge : φ → φ → Option φ) (m : List (String × Worker φ ω)) (w : Worker φ ω) :
    Option (Worker φ ω) :=
  match m.lookup w.name with
  | some value => (merge w.cloudProviderSpec value.cloudProviderSpec).map fun spec =>
      { w with cloudProviderSpec := spec }
  | none => some w

theorem addWorkers_nil (hm : (m.map Prod.fst).Nodup) (hnew : ∀ e ∈ m, e.1 ∉ ws.map Worker.name) :
    addWorkers merge m ws = some (ws ++ m.map fun e => { e.2 with name := e.1 }) := by
  induction m generalizing ws with
  | nil => simp [addWorkers]
  | cons e m ih =>
    have hfirst : ∀ ws : List (Worker φ ω), e.1 ∉ ws.map Worker.name →
        addWorker merge e ws = some (ws ++ [{ e.2 with name := e.1 }]) := by
      intro ws hws
      induction ws with
      | nil => rfl
      | cons w ws ih =>
        rw [map_cons, mem_cons, not_or] at hws
        rw [addWorker, if_neg (Ne.symm hws.1), ih hws.2]
        rfl
    rw [map_cons, nodup_cons] at hm
    rw [forall_mem_cons] at hnew
    rw [addWorkers, hfirst ws hnew.1, Option.bind_some, ih hm.2]
    · simp
    · intro e' he'
      have hne : e'.1 ≠ e.1 := fun heq => hm.1 (heq ▸ mem_map_of_mem he')
      simpa [hne] using hnew.2 e' he'

theorem addWorkers_cons (hm : (m.map Prod.fst).Nodup) : addWorkers merge m (w :: ws) =
    (merged merge m w).bind fun w' =>
      (addWorkers merge (m.filter (·.1 ≠ w.name)) ws).map (w' :: ·) := by
  induction m generalizing w ws with
  | nil => rfl
  | cons e m ih =>
    rw [map_cons, nodup_cons] at hm
    rw [addWorkers, addWorker, merged, lookup_cons_pair]
    by_cases hname : w.name = e.1
    · have hnone : m.lookup e.1 = none := lookup_eq_none_iff_keys.mpr hm.1
      have hfilter : (e :: m).filter (·.1 ≠ w.name) = m.filter (·.1 ≠ w.name) := by
        simp [hname]
      rw [if_pos hname, if_pos hname, hfilter]
      cases hspec : merge w.cloudProviderSpec e.2.cloudProviderSpec with
      | none => simp [hspec]
      | some spec => simp [hspec, ih hm.2, merged, hname, hnone]
    · have hfilter : (e :: m).filter (·.1 ≠ w.name) = e :: m.filter (·.1 ≠ w.name) := by
        simp [Ne.symm hname]
      rw [if_neg hname, if_neg hname, hfilter, addWorkers, ← merged]
      cases addWorker merge e ws with
      | none => cases merged merge m w <;> rfl
      | some ws' => simp only [Option.map_some, Option.bind_some, ih hm.2]

theorem exists_addWorkers_eq (merge : φ → φ → Option φ) (hm : (m.map Prod.fst).Nodup)
    (ws : List (Worker φ ω)) :
    ∃ old : Option (List (Worker φ ω)), ∀ m', m'.Perm m →
      addWorkers merge m' ws = old.map (· ++ added ws m') := by
  induction ws generalizing m with
  | nil =>
    refine ⟨some [], fun m' hperm => ?_⟩
    rw [addWorkers_nil ((hperm.map _).nodup_iff.mpr hm) (by simp)]
    simp [added]
  | cons w ws ih =>
    obtain ⟨old, hold⟩ := ih (m := m.filter (·.1 ≠ w.name))
      ((filter_sublist.map Prod.fst).nodup hm)
    refine ⟨(merged merge m w).bind fun w' => old.map (w' :: ·), fun m' hperm => ?_⟩
    have hm' := (hperm.map Prod.fst).nodup_iff.mpr hm
    have hadded : added ws (m'.filter (·.1 ≠ w.name)) = added (w :: ws) m' := by
      simp [added, filter_filter, Bool.and_comm]
    have hmerged : merged merge m' w = merged merge m w := by
      rw [merged, merged, lookup_of_perm hperm hm]
    rw [addWorkers_cons hm', hold _ (hperm.filter _), hadded, hmerged]
    cases merged merge m w <;> cases old <;> rfl

end Workers

section Order

theorem length_le_one_of_reverse_eq {α : Type*} {l : List α} (hnodup : l.Nodup)
    (h : l.reverse = l) : l.length ≤ 1 := by
  rcases l with _ | ⟨a, l⟩
  · simp
  · rcases eq_nil_or_concat l with rfl | ⟨l, b, rfl⟩
    · simp
    · have hlast : b = a := by simpa using congrArg head? h
      simp [hlast] at hnodup

theorem eq_of_perm_of_length_le_one {α : Type*} {l l' : List α} (h : l'.Perm l)
    (hlen : l.length ≤ 1) : l' = l := by
  rcases l with _ | ⟨a, _ | ⟨b, l⟩⟩
  · exact h.eq_nil
  · exact perm_singleton.mp h
  · simp at hlen

variable {assign : ρ → Option ρ} {newMerger : ρ → Option (φ → φ → Option φ)}

theorem staticWorkers_perm {groups groups' : List (String × HostsSpec)}
    (h : groups'.Perm groups) (hnodup : (groups.map Prod.fst).Nodup)
    (acc : List HostConfig × ℕ) :
    ((groups'.map (·.1)).insertionSort (· ≤ ·)).foldl (addGroup groups') acc =
      ((groups.map (·.1)).insertionSort (· ≤ ·)).foldl (addGroup groups) acc := by
  have hsort : (groups'.map (·.1)).insertionSort (· ≤ ·) =
      (groups.map (·.1)).insertionSort (· ≤ ·) :=
    ((perm_insertionSort _ _).trans ((h.map _).trans
      (perm_insertionSort _ _).symm)).eq_of_pairwise' (pairwise_insertionSort _ _)
      (pairwise_insertionSort _ _)
  have hadd : addGroup groups' = addGroup groups := by
    funext acc name
    rw [addGroup, addGroup, lookup_of_perm h hnodup]
  rw [hsort, hadd]

/-- The cluster does not depend on the order of the maps, exactly if there is none or at most one
worker set is new. -/
theorem apply_order_independent_iff (output : Config φ ω) (cluster : Cluster φ ω ρ)
    (hworkers : (output.workers.map Prod.fst).Nodup)
    (hstatic : (output.staticWorkers.map Prod.fst).Nodup) :
    (∀ workers staticWorkers, workers.Perm output.workers →
      staticWorkers.Perm output.staticWorkers →
      Config.apply assign newMerger { output with workers, staticWorkers } cluster =
        output.apply assign newMerger cluster) ↔
      output.apply assign newMerger cluster = none ∨
        (output.workers.filter (·.1 ∉ cluster.dynamicWorkers.map Worker.name)).length ≤ 1 := by
  unfold Config.apply
  cases assign cluster.rest with
  | none => simp
  | some rest =>
    obtain ⟨old, hold⟩ := exists_addWorkers_eq
      (fun old new => (newMerger rest).bind fun merge => merge old new) hworkers
      cluster.dynamicWorkers
    simp only [Option.bind_some, hold _ (List.Perm.refl _)]
    cases old with
    | none =>
      simp only [Option.map_none, true_or, iff_true]
      intro workers static hw _
      rw [hold _ hw]
      rfl
    | some old =>
      simp only [Option.map_some, reduceCtorEq, false_or]
      constructor
      · -- the reversed order adds the new worker sets in the reversed order
        intro h
        have hrev := h _ _ (reverse_perm output.workers) (List.Perm.refl _)
        rw [hold _ (reverse_perm _)] at hrev
        simp only [Option.map_some, Option.some.injEq, Cluster.mk.injEq, added,
          append_cancel_left_eq, filter_reverse, true_and, and_true] at hrev
        have hnames := congrArg (map Worker.name) hrev
        rw [map_map, map_map, map_reverse] at hnames
        simpa using length_le_one_of_reverse_eq
          ((filter_sublist.map Prod.fst).nodup hworkers) hnames
      · intro hlen workers static hw hs
        have hadded : added cluster.dynamicWorkers workers =
            added cluster.dynamicWorkers output.workers :=
          congrArg (map _) (eq_of_perm_of_length_le_one (hw.filter _) hlen)
        rw [hold _ hw, Option.map_some, hadded, staticWorkers_perm hs hstatic, Option.map_some]

end Order

section Merger

open Cloudspec

/-- The merger of the specs, which are raw messages and can be missing. One of Terraform that is
missing cannot be decoded. -/
def mergeSpecs (toLower : String → String) (order : GoMap → List (String × Json)) (spec : SpecType)
    (existing terraform : Option Json) : Option (Option Json) :=
  terraform.bind fun tf =>
    match merge toLower spec existing tf order with
    | .ok merged => some (some merged)
    | .error _ | .panic => none

/-- An output with these worker sets, applied to a cluster that has one of them. -/
def outputOf (names : List String) : Config (Option Json) Unit :=
  ⟨"", false, {}, [], names.map fun name => (name, ⟨"", some Aws.terraformSpec, ()⟩)⟩

def applied (names : List String) : Option (Cluster (Option Json) Unit Unit) :=
  (outputOf names).apply some
    (fun _ => some (mergeSpecs Aws.lowerCase GoMap.entries Aws.rawConfig))
    ⟨[], [], [⟨"a", none, ()⟩], ()⟩

end Merger

theorem one_new_worker_set :
    applied ["b", "a"] = applied ["a", "b"] ∧ (applied ["a", "b"]).isSome :=
  ⟨(apply_order_independent_iff (outputOf ["a", "b"]) _ (by decide) (by decide)).mpr
    (.inr (by decide)) _ [] (.swap _ _ _) .nil, by decide +kernel⟩

theorem two_new_worker_sets : applied ["b", "c"] ≠ applied ["c", "b"] := fun h =>
  absurd (congrArg (Option.map fun c => c.dynamicWorkers.map Worker.name) h) (by decide +kernel)

end KubeOne.Terraform.Apply
