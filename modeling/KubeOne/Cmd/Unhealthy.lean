import KubeOne.Cmd.Apply
import KubeOne.State.Broken

/-! A run that finds the cluster unhealthy. A host that fails its health check is broken if it is in
the cluster and missing if it is not, so such a run stops or repairs. It repairs only with a version
that the control plane has reached. -/

namespace KubeOne.State

open List

open Semver (Version)

def Host.knownVersion (h : Host) : Option Version :=
  if h.isInCluster then h.kubelet.version else none

def higher (highest : Option Version) (v : Version) : Option Version :=
  if highest.all v.greaterThan then some v else highest

def Cluster.highestVer (c : Cluster) : Option Version :=
  (c.controlPlane.filterMap Host.knownVersion).foldl higher none

/-- Whether the cluster may be repaired with the version, and the version to repair it with. There
is no target if its text is no version. -/
def Cluster.safeToRepair (c : Cluster) (targetVer : Option Version) : Bool × Option Version :=
  match targetVer, c.highestVer with
  | none, _ => (false, none)
  | some target, some highest =>
    if target.greaterThan highest then (false, some highest) else (true, some target)
  | some target, none => (true, some target)

theorem exists_foldl_higher (v : Version) (vs : List Version) :
    ∃ found, vs.foldl higher (some v) = some found ∧ found ∈ v :: vs := by
  induction vs generalizing v with
  | nil => exact ⟨v, rfl, mem_singleton_self v⟩
  | cons w vs ih =>
    rw [foldl_cons, higher, Option.all_some]
    split_ifs
    · obtain ⟨found, heq, hmem⟩ := ih w
      exact ⟨found, heq, mem_cons_of_mem v hmem⟩
    · obtain ⟨found, heq, hmem⟩ := ih v
      refine ⟨found, heq, ?_⟩
      rcases mem_cons.1 hmem with rfl | hmem
      · exact mem_cons_self
      · exact mem_cons_of_mem _ (mem_cons_of_mem w hmem)

/-- No known version of a control plane host in the cluster is higher. -/
def Cluster.Highest (c : Cluster) (v : Version) : Prop :=
  v ∈ c.controlPlane.filterMap Host.knownVersion ∧
    ∀ u ∈ c.controlPlane.filterMap Host.knownVersion, u.greaterThan v = false

theorem Cluster.not_greaterThan_of_safeToRepair {c : Cluster} {targetVer : Option Version}
    (h : (c.safeToRepair targetVer).1 = true) :
    ∃ target, targetVer = some target ∧
      ∀ highest, c.Highest highest → target.greaterThan highest = false := by
  cases targetVer with
  | none => cases h
  | some target =>
    refine ⟨target, rfl, fun highest ⟨hmem, hall⟩ => ?_⟩
    unfold safeToRepair highestVer at h
    cases hvs : c.controlPlane.filterMap Host.knownVersion with
    | nil => simp [hvs] at hmem
    | cons v vs =>
      obtain ⟨found, hfound, hfrom⟩ := exists_foldl_higher v vs
      have hfold : (v :: vs).foldl higher none = some found := hfound
      rw [hvs, hfold] at h
      have hle : target.greaterThan found = false := by
        cases hgt : target.greaterThan found with
        | false => rfl
        | true => simp [hgt] at h
      have hhighest := hall found (hvs ▸ hfrom)
      rw [Version.greaterThan_eq_false] at hle hhighest ⊢
      exact hle.trans hhighest

theorem Cluster.missing_or_broken {c : Cluster} (h : c.healthy = false) :
    c.controlPlane.any (!·.isInCluster) = true ∨ c.staticWorkers.any (!·.isInCluster) = true ∨
      c.brokenHosts ≠ [] := by
  by_contra hno
  simp only [not_or, not_not, Bool.not_eq_true, any_eq_false, Bool.not_eq_false'] at hno
  obtain ⟨hcp, hsw, hbroken⟩ := hno
  simp only [brokenHosts, append_eq_nil_iff, map_eq_nil_iff, filter_eq_nil_iff,
    Bool.and_eq_true, Bool.not_eq_eq_eq_not, Bool.not_true, not_and, Bool.not_eq_false] at hbroken
  have hhealthy : c.healthy = true := by
    rw [healthy, Bool.and_eq_true, all_eq_true, all_eq_true]
    exact ⟨fun x hx => hbroken.1 x hx (hcp x hx), fun x hx => hbroken.2 x hx (hsw x hx)⟩
  rw [h] at hhealthy
  cases hhealthy

end KubeOne.State

namespace KubeOne.Cmd

open Semver (Version)

def Findings.probed (c : State.Cluster) (targetVer : Option Version) (f : Findings) : Findings :=
  { f with
    isProvisioned := c.isProvisioned
    healthy := c.healthy
    runRepair := c.controlPlane.any (!·.isInCluster) || c.staticWorkers.any (!·.isInCluster)
    safeToRepair := (c.safeToRepair targetVer).1
    brokenHosts := !c.brokenHosts.isEmpty }

theorem reconcile_unhealthy {opts : Options} {f : Findings} (hprovisioned : f.isProvisioned = true)
    (hunhealthy : f.healthy = false) :
    (∃ err, reconcile opts f = .error err) ∨
      f.safeToRepair = true ∧ reconcile opts f = runApplyInstall opts f ∨
      f.runRepair = false ∧ f.brokenHosts = false := by
  unfold reconcile Lists.reconcile
  rw [if_neg (by simp [hprovisioned]), if_pos (by simp [hunhealthy])]
  by_cases hrotate : opts.rotateEncryptionKey = true
  · exact .inl ⟨_, if_pos hrotate⟩
  rw [if_neg hrotate]
  cases f.safeToRepair with
  | false => exact .inl ⟨_, rfl⟩
  | true =>
    cases f.runRepair with
    | true => exact .inr (.inl ⟨rfl, rfl⟩)
    | false =>
      cases f.brokenHosts with
      | true => exact .inl ⟨_, rfl⟩
      | false => exact .inr (.inr ⟨rfl, rfl⟩)

/-- A run that finds a provisioned cluster unhealthy ends with an error or goes on to repair it,
and it repairs it only with a version that is not higher than the highest one in the control
plane. -/
theorem unhealthy_refused_or_repaired (opts : Options) (f : Findings) (c : State.Cluster)
    (targetVer : Option Version) (hprovisioned : c.isProvisioned = true)
    (hunhealthy : c.healthy = false) :
    let found := f.probed c targetVer
    (∃ err, reconcile opts found = .error err) ∨
      reconcile opts found = runApplyInstall opts found ∧ ∃ target, targetVer = some target ∧
        ∀ highest, c.Highest highest → target.greaterThan highest = false := by
  intro found
  have hp : found.isProvisioned = true := hprovisioned
  have hh : found.healthy = false := hunhealthy
  rcases reconcile_unhealthy hp hh with herr | ⟨hsafe, hinstall⟩ | ⟨hrepair, hbroken⟩
  · exact .inl herr
  · exact .inr ⟨hinstall, State.Cluster.not_greaterThan_of_safeToRepair hsafe⟩
  · rw [show found.runRepair = (_ || _) from rfl, Bool.or_eq_false_iff] at hrepair
    rcases State.Cluster.missing_or_broken hunhealthy with hmissing | hmissing | hbroken'
    · rw [hrepair.1] at hmissing
      cases hmissing
    · rw [hrepair.2] at hmissing
      cases hmissing
    · exact absurd (by simpa [found, Findings.probed] using hbroken) hbroken'

def halfJoined : State.Cluster :=
  let running : State.ComponentStatus := { status := State.systemDStatusRunning }
  let installed : State.ComponentStatus :=
    { status := State.componentInstalled ||| State.kubeletInitialized,
      version := some (.release 1 35 0) }
  { controlPlane :=
      [{ config := { hostname := "cp-0" }, containerRuntimeContainerd := running,
         kubelet := installed, isInCluster := true },
       { config := { hostname := "cp-1" } }]
    staticWorkers := [] }

theorem half_joined_repaired :
    reconcile {} (Findings.probed halfJoined (some (.release 1 35 0)) {}) =
        .ok (withFullInstall []) ∧
      ∃ target, some (Version.release 1 35 0) = some target ∧
        ∀ highest, halfJoined.Highest highest → target.greaterThan highest = false := by
  have hinstall : reconcile {} (Findings.probed halfJoined (some (.release 1 35 0)) {}) =
      .ok (withFullInstall []) := rfl
  rcases unhealthy_refused_or_repaired {} {} halfJoined (some (.release 1 35 0)) (by decide)
    (by decide) with ⟨err, herr⟩ | ⟨-, h⟩
  · cases herr
  · exact ⟨hinstall, h⟩

end KubeOne.Cmd
