import KubeOne.State.SafeToDelete

/-! The removal advice against the list of broken hosts. A host whose etcd member alone is down is
advised for removal although no health check calls it broken. -/

namespace KubeOne.State

open List Cluster

theorem Host.controlPlaneHealthy_eq_false {h : Host} (hin : h.isInCluster = true) :
    h.controlPlaneHealthy = false ↔
      h.containerRuntimeContainerd.healthy = false ∨ h.kubelet.healthy = false ∨
        h.apiServer.healthy = false := by
  unfold Host.controlPlaneHealthy Host.healthy
  rw [hin, Bool.true_and, Bool.and_eq_false_iff, Bool.and_eq_false_iff, or_assoc]

namespace Cluster

variable {c : Cluster}

theorem mem_brokenHosts {name : String} :
    name ∈ c.brokenHosts ↔
      (∃ h ∈ c.controlPlane, (h.isInCluster = true ∧ h.controlPlaneHealthy = false) ∧
        h.config.hostname = name) ∨
      ∃ w ∈ c.brokenWorkers, w.config.hostname = name := by
  unfold brokenHosts brokenWorkers
  simp only [mem_append, mem_map, mem_filter, Bool.and_eq_true, Bool.not_eq_true', and_assoc]

theorem brokenHosts_eq_nil (hc : c.healthy = true) : c.brokenHosts = [] := by
  unfold healthy at hc
  rw [Bool.and_eq_true, all_eq_true, all_eq_true] at hc
  unfold brokenHosts
  rw [append_eq_nil_iff, map_eq_nil_iff, map_eq_nil_iff, filter_eq_nil_iff, filter_eq_nil_iff]
  constructor
  · intro h hh
    simp [hc.1 h hh]
  · intro w hw
    simp [hc.2 w hw]

theorem tolerated_subset : c.tolerated ⊆ c.deleteCandidate := by
  intro h hh
  unfold tolerated at hh
  dsimp only at hh
  split_ifs at hh
  · exact hh
  · exact mem_of_mem_take hh
  · cases hh

theorem tolerated_broken {h : Host} (hh : h ∈ c.tolerated) : h.config.hostname ∈ c.brokenHosts := by
  have hmem := tolerated_subset hh
  simp only [deleteCandidate, mem_filter, Bool.and_eq_true, Bool.not_eq_true'] at hmem
  obtain ⟨hcp, ⟨hin, -⟩, hapi⟩ := hmem
  refine mem_brokenHosts.2 (Or.inl ⟨h, hcp, ⟨hin, ?_⟩, rfl⟩)
  rw [Host.controlPlaneHealthy, hapi, Bool.and_false]

theorem Investigated.broken_of_name (hc : c.Investigated) {h : Host} (hh : h ∈ c.controlPlane)
    (hin : h.isInCluster = true) (hbroken : h.config.hostname ∈ c.brokenHosts) :
    h.controlPlaneHealthy = false := by
  rcases mem_brokenHosts.1 hbroken with ⟨b, hb, ⟨hbin, hbad⟩, hname⟩ | ⟨w, hw, hname⟩
  · have hbmem : b ∈ c.etcdHosts := mem_filter.2 ⟨hb, hbin⟩
    have hhmem : h ∈ c.etcdHosts := mem_filter.2 ⟨hh, hin⟩
    have heq : b = h := inj_on_of_nodup_map hc.etcd_names_nodup hbmem hhmem hname
    exact heq ▸ hbad
  · simp only [brokenWorkers, mem_filter, Bool.and_eq_true] at hw
    exact absurd hname.symm (hc.disjoint w hw.1 hw.2.1 h hh)

end Cluster

/-- The advice names broken hosts only, and nothing in a healthy cluster, exactly if every control
plane host in the cluster whose etcd member is down has also lost its container runtime, its
kubelet or its API server. -/
theorem safeToDeleteHosts_broken_iff (c : LiveCluster) :
    (c.val.safeToDeleteHosts ⊆ c.val.brokenHosts ∧
        (c.val.healthy = true → c.val.safeToDeleteHosts = [])) ↔
      ∀ h ∈ c.val.controlPlane, h.isInCluster = true → h.etcd.healthy = false →
        h.containerRuntimeContainerd.healthy = false ∨ h.kubelet.healthy = false ∨
          h.apiServer.healthy = false := by
  obtain ⟨c, hc⟩ := c
  constructor
  · rintro ⟨hsub, -⟩ h hh hin hetcd
    have hadv : h.config.hostname ∈ c.safeToDeleteHosts := by
      unfold safeToDeleteHosts brokenEtcd
      refine mem_map_of_mem (mem_append_left _ (mem_append_left _ ?_))
      simp [hh, hin, hetcd]
    exact (Host.controlPlaneHealthy_eq_false hin).1 (hc.broken_of_name hh hin (hsub hadv))
  · intro hall
    have hsub : c.safeToDeleteHosts ⊆ c.brokenHosts := by
      intro name hname
      obtain ⟨h, hh, rfl⟩ := mem_map.1 hname
      rw [mem_append, mem_append] at hh
      rcases hh with (hetcd | htol) | hworker
      · simp only [brokenEtcd, mem_filter, Bool.and_eq_true, Bool.not_eq_true'] at hetcd
        obtain ⟨hcp, hin, hdown⟩ := hetcd
        have hbad := (Host.controlPlaneHealthy_eq_false hin).2 (hall h hcp hin hdown)
        exact mem_brokenHosts.2 (Or.inl ⟨h, hcp, ⟨hin, hbad⟩, rfl⟩)
      · exact tolerated_broken htol
      · exact mem_brokenHosts.2 (Or.inr ⟨h, hworker, rfl⟩)
    refine ⟨hsub, fun hhealthy => ?_⟩
    rw [brokenHosts_eq_nil hhealthy] at hsub
    exact subset_nil.1 hsub

def memberDown : Cluster :=
  let running : ComponentStatus := { status := systemDStatusRunning }
  let up (name : String) : Host :=
    { config := { hostname := name }, containerRuntimeContainerd := running, kubelet := running,
      apiServer := ⟨podRunning⟩, etcd := ⟨podRunning⟩ }
  { controlPlane := [up "a", up "b", { up "c" with etcd := {} }], staticWorkers := [] }

/-- The cluster is healthy and has no broken host, but a host is advised for removal. -/
theorem healthy_host_advised :
    ∃ c : LiveCluster, c.val = memberDown.markNodes ["a", "b", "c"] ∧ c.val.healthy = true ∧
      c.val.brokenHosts = [] ∧ c.val.safeToDeleteHosts = ["c"] := by
  refine ⟨⟨_, memberDown.investigated_markNodes ["a", "b", "c"] (by decide) (by decide)⟩, rfl, ?_⟩
  decide

end KubeOne.State
