import KubeOne.Quorum.Majority
import KubeOne.State.Cluster

/-! The removal advice for broken hosts and the etcd quorum. The advice names the hosts whose
member is down, and as many with a working member as the tolerance of the healthy members covers.
-/

namespace KubeOne.State

open Quorum List

def Cluster.etcdHosts (c : Cluster) : List Host := c.controlPlane.filter (·.isInCluster)

/-- The healthy etcd members left once the hosts with the given names are gone. -/
def Cluster.healthyEtcdWithout (c : Cluster) (gone : List String) : ℕ :=
  c.etcdHosts.countP fun h => h.etcd.healthy && decide (h.config.hostname ∉ gone)

section Counting

variable {α β : Type*} [DecidableEq β]

theorem countP_mem_le {l : List α} {f : α → β} (hnd : (l.map f).Nodup) (names : List β) :
    l.countP (fun x => decide (f x ∈ names)) ≤ names.length := by
  rw [countP_eq_length_filter, ← length_map (f := f)]
  refine List.Nodup.length_le_of_subset (hnd.sublist (filter_sublist.map f)) fun b hb => ?_
  obtain ⟨x, hx, rfl⟩ := mem_map.mp hb
  simpa using (mem_filter.mp hx).2

end Counting

namespace Cluster

theorem etcdHosts_countP (c : Cluster) :
    c.etcdHosts.countP (·.etcd.healthy) =
      c.controlPlane.countP fun h => h.isInCluster && h.etcd.healthy := by
  unfold etcdHosts
  rw [countP_filter]
  exact countP_congr fun h _ => by simp [and_comm]

theorem etcdHosts_length (c : Cluster) :
    c.etcdHosts.length = c.etcdHosts.countP (·.etcd.healthy) + c.brokenEtcd.length := by
  have hsplit := length_eq_countP_add_countP (fun h : Host => h.etcd.healthy) (l := c.etcdHosts)
  have hbroken : c.etcdHosts.countP (fun h => decide ¬h.etcd.healthy = true) =
      c.brokenEtcd.length := by
    unfold etcdHosts brokenEtcd
    rw [countP_filter, countP_eq_length_filter]
    congr 1
    exact filter_congr fun h _ => by cases h.etcd.healthy <;> simp
  omega

theorem tolerated_length (c : Cluster) :
    c.tolerated = [] ∨
      (c.tolerated.length : Int) + c.brokenEtcd.length ≤ c.etcdToleranceRemain := by
  unfold tolerated
  simp only
  split_ifs with hpos hge
  · right
    omega
  · right
    rw [length_take]
    omega
  · exact Or.inl rfl

namespace Investigated

variable {c : Cluster}

theorem etcd_names_nodup (hc : c.Investigated) : (c.etcdHosts.map (·.config.hostname)).Nodup := by
  unfold etcdHosts
  rw [nodup_iff_pairwise_ne, pairwise_map, pairwise_filter]
  exact hc.controlPlane.imp fun hne _ hin => hne hin

/-- A healthy etcd host goes only when the tolerance covers it: the names of the
broken hosts and of the workers belong to other hosts. -/
theorem advised_healthy (hc : c.Investigated) {h : Host} (hh : h ∈ c.etcdHosts)
    (hhealthy : h.etcd.healthy = true) (hadv : h.config.hostname ∈ c.safeToDeleteHosts) :
    h.config.hostname ∈ c.tolerated.map (·.config.hostname) := by
  unfold safeToDeleteHosts at hadv
  rw [map_append, map_append, mem_append, mem_append] at hadv
  rcases hadv with (hbroken | htol) | hworker
  · obtain ⟨b, hb, hname⟩ := mem_map.mp hbroken
    have hbmem : b ∈ c.etcdHosts := by
      simp only [brokenEtcd, etcdHosts, mem_filter, Bool.and_eq_true] at hb ⊢
      exact ⟨hb.1, hb.2.1⟩
    have heq : b = h := inj_on_of_nodup_map hc.etcd_names_nodup hbmem hh hname
    subst heq
    simp [brokenEtcd, hhealthy] at hb
  · exact htol
  · obtain ⟨w, hw, hname⟩ := mem_map.mp hworker
    simp only [brokenWorkers, mem_filter, Bool.and_eq_true] at hw
    have hcp : h ∈ c.controlPlane := (mem_filter.mp hh).1
    exact absurd hname.symm (hc.disjoint w hw.1 hw.2.1 h hcp)

theorem healthyEtcdWithout_ge (hc : c.Investigated) {gone : List String}
    (hgone : gone ⊆ c.safeToDeleteHosts) :
    c.etcdHosts.countP (·.etcd.healthy) ≤ c.healthyEtcdWithout gone + c.tolerated.length := by
  have hsplit : c.etcdHosts.countP (·.etcd.healthy) =
      c.healthyEtcdWithout gone +
        c.etcdHosts.countP fun h => h.etcd.healthy && decide (h.config.hostname ∈ gone) := by
    unfold healthyEtcdWithout
    induction c.etcdHosts with
    | nil => rfl
    | cons h hs ih =>
      simp only [countP_cons, ih]
      cases h.etcd.healthy <;> by_cases hm : h.config.hostname ∈ gone <;> simp [hm] <;> omega
  have hle : (c.etcdHosts.countP fun h => h.etcd.healthy && decide (h.config.hostname ∈ gone)) ≤
      c.etcdHosts.countP
        (fun h => decide (h.config.hostname ∈ c.tolerated.map (·.config.hostname))) := by
    refine countP_mono_left fun h hh hm => ?_
    simp only [Bool.and_eq_true, decide_eq_true_eq] at hm
    exact decide_eq_true (hc.advised_healthy hh hm.1 (hgone hm.2))
  have hlen := countP_mem_le hc.etcd_names_nodup (c.tolerated.map (·.config.hostname))
  rw [length_map] at hlen
  omega

end Investigated

end Cluster

/-- The advice keeps the quorum: when the etcd members are the control plane hosts
in the cluster and the healthy ones are a majority, destroying any of the advised
hosts leaves healthy members that are a majority of the original member count. -/
theorem safeToDeleteHosts_keeps_quorum (c : LiveCluster) (members : List String)
    (hmembers : members.Perm (c.val.etcdHosts.map (·.config.hostname)))
    (hquorum : majority members.length ≤ c.val.etcdHosts.countP (·.etcd.healthy))
    (gone : List String) (hgone : gone ⊆ c.val.safeToDeleteHosts) :
    majority members.length ≤ c.val.healthyEtcdWithout gone := by
  obtain ⟨c, hc⟩ := c
  dsimp only at *
  have hcount : members.length = c.etcdHosts.length := by
    rw [hmembers.length_eq, length_map]
  have hn := c.etcdHosts_length
  have hge := hc.healthyEtcdWithout_ge hgone
  rcases c.tolerated_length with hnone | htol
  · rw [hnone, length_nil] at hge
    omega
  · -- the tolerance is counted on the healthy members alone
    unfold Cluster.etcdToleranceRemain at htol
    rw [← c.etcdHosts_countP] at htol
    unfold majority at hquorum ⊢
    push_cast at htol
    omega

def fiveHosts : Cluster :=
  let up (name : String) : Host :=
    { config := { hostname := name }, apiServer := ⟨podRunning⟩, etcd := ⟨podRunning⟩ }
  let half (name : String) : Host := { up name with apiServer := {} }
  { controlPlane := [up "a", half "b", half "c", half "d", up "e"], staticWorkers := [] }

/-- The tolerance covers two of the three candidates, and three members are left. -/
theorem fiveHosts_keeps_quorum :
    (fiveHosts.markNodes ["a", "b", "c", "d", "e"]).safeToDeleteHosts = ["b", "c"] ∧
      majority 5 ≤ (fiveHosts.markNodes ["a", "b", "c", "d", "e"]).healthyEtcdWithout ["b", "c"] :=
  ⟨by decide, safeToDeleteHosts_keeps_quorum
    ⟨_, fiveHosts.investigated_markNodes ["a", "b", "c", "d", "e"] (by decide) (by decide)⟩
    ["a", "b", "c", "d", "e"] (by decide) (by decide) ["b", "c"] (by decide)⟩

end KubeOne.State
