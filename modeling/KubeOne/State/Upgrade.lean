import KubeOne.State.Cluster

/-! The decision whether the hosts need an upgrade. The first host whose kubelet differs from the
expected version decides: an older one asks for the upgrade, a newer one refuses it. A refusal is
certain exactly when no host that could decide first is older. -/

namespace KubeOne.State

open Semver List

/-- How a check of the live cluster fails. Comparing with a version that was never
detected dereferences a nil pointer. -/
inductive CheckFailure
  | config (err op : String)
  | nilPointer
  deriving DecidableEq

def downgradeDisallowed : CheckFailure := .config "cluster downgrades are disallowed" "sanity check"

def compareVersions : Option Version → Option Version → Except CheckFailure Int
  | some v, some o => .ok (v.compare o)
  | _, _ => .error .nilPointer

namespace Cluster

/-- One of the two loops: `none` if it runs to its end, the result it returns otherwise. -/
def upgradeNeededLoop (expected : Option Version) : List Host → Except CheckFailure (Option Bool)
  | [] => .ok none
  | h :: hosts => do
    let verDiff ← compareVersions expected h.kubelet.version
    if 0 < verDiff then
      .ok (some true)
    else if verDiff < 0 then
      .error downgradeDisallowed
    else
      upgradeNeededLoop expected hosts

def upgradeNeeded (c : Cluster) : Except CheckFailure Bool := do
  match ← upgradeNeededLoop c.expectedKubernetesVersion c.controlPlane with
  | some needed => .ok needed
  | none =>
    match ← upgradeNeededLoop c.expectedKubernetesVersion c.staticWorkers with
    | some needed => .ok needed
    | none => .ok false

end Cluster

def Host.Newer (expected : Version) (h : Host) : Prop :=
  ∃ v ∈ h.kubelet.version, expected.compare v < 0

def Host.Older (expected : Version) (h : Host) : Prop :=
  ∃ v ∈ h.kubelet.version, 0 < expected.compare v

instance (expected : Version) (h : Host) : Decidable (h.Newer expected) :=
  inferInstanceAs (Decidable (∃ v ∈ h.kubelet.version, _))

instance (expected : Version) (h : Host) : Decidable (h.Older expected) :=
  inferInstanceAs (Decidable (∃ v ∈ h.kubelet.version, _))

structure Cluster.Versioned (c : Cluster) (expected : Version) : Prop where
  expected : c.expectedKubernetesVersion = some expected
  known : ∀ h ∈ c.controlPlane ++ c.staticWorkers, h.kubelet.version.isSome = true

structure Cluster.Reordered (c c' : Cluster) : Prop where
  expected : c'.expectedKubernetesVersion = c.expectedKubernetesVersion
  controlPlane : c'.controlPlane.Perm c.controlPlane
  staticWorkers : c'.staticWorkers.Perm c.staticWorkers

section Loop

open Cluster

variable {expected : Version} {h : Host} {hosts : List Host}

theorem upgradeNeededLoop_cons (expected : Version)
    (hosts : List Host) (hknown : h.kubelet.version.isSome = true) :
    (h.Older expected ∧ ¬ h.Newer expected ∧
        upgradeNeededLoop (some expected) (h :: hosts) = .ok (some true)) ∨
      (h.Newer expected ∧ ¬ h.Older expected ∧
        upgradeNeededLoop (some expected) (h :: hosts) = .error downgradeDisallowed) ∨
      (¬ h.Older expected ∧ ¬ h.Newer expected ∧
        upgradeNeededLoop (some expected) (h :: hosts) =
          upgradeNeededLoop (some expected) hosts) := by
  obtain ⟨v, hv⟩ := Option.isSome_iff_exists.mp hknown
  simp only [Host.Older, Host.Newer, upgradeNeededLoop, hv, compareVersions, Option.mem_def,
    Option.some.injEq, exists_eq_left']
  rcases Int.lt_trichotomy (expected.compare v) 0 with hlt | heq | hgt
  · right; left
    refine ⟨hlt, by omega, ?_⟩
    simp [bind, Except.bind, hlt, Int.le_of_lt hlt]
  · right; right
    refine ⟨by omega, by omega, ?_⟩
    simp [bind, Except.bind, heq]
  · left
    refine ⟨hgt, by omega, ?_⟩
    simp [bind, Except.bind, hgt]

theorem upgradeNeededLoop_cases (hknown : ∀ h ∈ hosts, h.kubelet.version.isSome = true) :
    ((∃ h ∈ hosts, h.Older expected) ∧
        upgradeNeededLoop (some expected) hosts = .ok (some true)) ∨
      ((∃ h ∈ hosts, h.Newer expected) ∧
        upgradeNeededLoop (some expected) hosts = .error downgradeDisallowed) ∨
      ((∀ h ∈ hosts, ¬ h.Older expected ∧ ¬ h.Newer expected) ∧
        upgradeNeededLoop (some expected) hosts = .ok none) := by
  induction hosts with
  | nil => exact .inr (.inr ⟨by simp, rfl⟩)
  | cons h hosts ih =>
    rw [forall_mem_cons] at hknown
    rcases upgradeNeededLoop_cons expected hosts hknown.1 with
      ⟨hold, -, hloop⟩ | ⟨hnew, -, hloop⟩ | ⟨hold, hnew, hloop⟩
    · exact .inl ⟨⟨h, mem_cons_self, hold⟩, hloop⟩
    · exact .inr (.inl ⟨⟨h, mem_cons_self, hnew⟩, hloop⟩)
    · rw [hloop]
      simpa [hold, hnew] using ih hknown.2

theorem exists_perm_needed (hh : h ∈ hosts) (hold : h.Older expected) :
    ∃ hosts', hosts'.Perm hosts ∧
      upgradeNeededLoop (some expected) hosts' = .ok (some true) := by
  obtain ⟨before, after, rfl⟩ := append_of_mem hh
  refine ⟨h :: (before ++ after), perm_middle.symm, ?_⟩
  obtain ⟨v, hv, hlt⟩ := hold
  rw [Option.mem_def] at hv
  simp [upgradeNeededLoop, hv, compareVersions, bind, Except.bind, hlt]

end Loop

namespace Cluster

/-- Either no host is newer than the expected version, or no host that can decide before
the newer ones is older: no control plane host, and no static worker either if the control
plane runs the expected version. -/
def OneDirection (c : Cluster) (expected : Version) : Prop :=
  (∀ h ∈ c.controlPlane ++ c.staticWorkers, ¬ h.Newer expected) ∨
    (∀ h ∈ c.controlPlane, ¬ h.Older expected) ∧
      ((∃ h ∈ c.controlPlane, h.Newer expected) ∨
        ∀ h ∈ c.staticWorkers, ¬ h.Older expected)

variable {c c' : Cluster} {expected : Version}

theorem Reordered.versioned (h : c.Reordered c') (hc : c.Versioned expected) :
    c'.Versioned expected :=
  ⟨h.expected.trans hc.expected, fun x hx =>
    hc.known x ((h.controlPlane.append h.staticWorkers).mem_iff.mp hx)⟩

theorem Reordered.oneDirection (h : c.Reordered c') (hc : c.OneDirection expected) :
    c'.OneDirection expected := by
  simpa only [OneDirection, mem_append, h.controlPlane.mem_iff, h.staticWorkers.mem_iff]
    using hc

theorem upgradeNeeded_of_not_newer (hc : c.Versioned expected)
    (hnewer : ∀ h ∈ c.controlPlane ++ c.staticWorkers, ¬ h.Newer expected) :
    ((∃ h ∈ c.controlPlane ++ c.staticWorkers, h.Older expected) ∧
        c.upgradeNeeded = .ok true) ∨
      ((∀ h ∈ c.controlPlane ++ c.staticWorkers, ¬ h.Older expected) ∧
        c.upgradeNeeded = .ok false) := by
  have hknown := hc.known
  rw [forall_mem_append] at hnewer hknown
  unfold upgradeNeeded
  rw [hc.expected]
  rcases upgradeNeededLoop_cases hknown.1 with
    ⟨⟨h, hh, hold⟩, hloop⟩ | ⟨⟨h, hh, hnew⟩, -⟩ | ⟨hcp, hloop⟩
  · exact .inl ⟨⟨h, mem_append_left _ hh, hold⟩, by rw [hloop]; rfl⟩
  · exact absurd hnew (hnewer.1 h hh)
  · rcases upgradeNeededLoop_cases hknown.2 with
      ⟨⟨h, hh, hold⟩, hloop'⟩ | ⟨⟨h, hh, hnew⟩, -⟩ | ⟨hsw, hloop'⟩
    · exact .inl ⟨⟨h, mem_append_right _ hh, hold⟩, by rw [hloop, hloop']; rfl⟩
    · exact absurd hnew (hnewer.2 h hh)
    · refine .inr ⟨forall_mem_append.mpr ⟨fun x hx => (hcp x hx).1, fun x hx => (hsw x hx).1⟩, ?_⟩
      rw [hloop, hloop']
      rfl

theorem upgradeNeeded_of_newer (hc : c.Versioned expected) (hdir : c.OneDirection expected)
    {h : Host} (hh : h ∈ c.controlPlane ++ c.staticWorkers) (hnew : h.Newer expected) :
    c.upgradeNeeded = .error downgradeDisallowed := by
  have hknown := hc.known
  rw [forall_mem_append] at hknown
  rcases hdir with hnone | ⟨hcp, hrest⟩
  · exact absurd hnew (hnone h hh)
  unfold upgradeNeeded
  rw [hc.expected]
  rcases upgradeNeededLoop_cases hknown.1 with
    ⟨⟨x, hx, hold⟩, -⟩ | ⟨-, hloop⟩ | ⟨hsame, hloop⟩
  · exact absurd hold (hcp x hx)
  · rw [hloop]
    rfl
  · have hworkers : ∀ x ∈ c.staticWorkers, ¬ x.Older expected := by
      rcases hrest with ⟨x, hx, hxnew⟩ | hworkers
      · exact absurd hxnew (hsame x hx).2
      · exact hworkers
    have hworker : h ∈ c.staticWorkers :=
      (mem_append.mp hh).resolve_left fun hmem => (hsame h hmem).2 hnew
    rcases upgradeNeededLoop_cases hknown.2 with
      ⟨⟨x, hx, hold⟩, -⟩ | ⟨-, hloop'⟩ | ⟨hsame', -⟩
    · exact absurd hold (hworkers x hx)
    · rw [hloop, hloop']
      rfl
    · exact absurd hnew (hsame' h hworker).2

/-- The hosts can be listed such that an older one decides, unless no older host can
precede a newer one. -/
theorem exists_reordered_needed (hc : c.Versioned expected)
    (hdir : ¬ c.OneDirection expected) :
    ∃ c', c.Reordered c' ∧ c'.upgradeNeeded = .ok true := by
  have hknown := hc.known
  rw [forall_mem_append] at hknown
  simp only [OneDirection, not_or, not_and] at hdir
  by_cases hcp : ∀ x ∈ c.controlPlane, ¬ x.Older expected
  · obtain ⟨hsame, hworkers⟩ := hdir.2 hcp
    push Not at hsame hworkers
    obtain ⟨x, hx, hold⟩ := hworkers
    obtain ⟨workers, hperm, hneeded⟩ := exists_perm_needed hx hold
    refine ⟨{ c with staticWorkers := workers }, ⟨rfl, .refl _, hperm⟩, ?_⟩
    rcases upgradeNeededLoop_cases hknown.1 with
      ⟨⟨y, hy, hyold⟩, -⟩ | ⟨⟨y, hy, hynew⟩, -⟩ | ⟨-, hloop⟩
    · exact absurd hyold (hcp y hy)
    · exact absurd hynew (hsame y hy)
    · simp only [upgradeNeeded, hc.expected, hloop, hneeded]
      rfl
  · push Not at hcp
    obtain ⟨x, hx, hold⟩ := hcp
    obtain ⟨hosts, hperm, hneeded⟩ := exists_perm_needed hx hold
    refine ⟨{ c with controlPlane := hosts }, ⟨rfl, hperm, .refl _⟩, ?_⟩
    simp only [upgradeNeeded, hc.expected, hneeded]
    rfl

/-- Every downgrade is refused, in every order of the hosts, exactly when the hosts that
can decide first all differ in one direction. -/
theorem upgradeNeeded_refuses_downgrade_iff (hc : c.Versioned expected) :
    ((∃ h ∈ c.controlPlane ++ c.staticWorkers, h.Newer expected) →
        c.upgradeNeeded = .error downgradeDisallowed) ∧
      (∀ c', c.Reordered c' → c'.upgradeNeeded = c.upgradeNeeded) ↔
    c.OneDirection expected := by
  constructor
  · rintro ⟨hrefuse, horder⟩
    by_contra hdir
    have hsome : ∃ h ∈ c.controlPlane ++ c.staticWorkers, h.Newer expected := by
      by_contra hnone
      push Not at hnone
      exact hdir (.inl hnone)
    obtain ⟨h, hh, hnew⟩ := hsome
    obtain ⟨c', hre, hneeded⟩ := exists_reordered_needed hc hdir
    have hsame := horder c' hre
    rw [hneeded, hrefuse ⟨h, hh, hnew⟩] at hsame
    cases hsame
  · intro hdir
    refine ⟨fun ⟨h, hh, hnew⟩ => upgradeNeeded_of_newer hc hdir hh hnew, fun c' hre => ?_⟩
    have hmem : ∀ x, x ∈ c'.controlPlane ++ c'.staticWorkers ↔
        x ∈ c.controlPlane ++ c.staticWorkers :=
      fun x => (hre.controlPlane.append hre.staticWorkers).mem_iff
    by_cases hnew : ∃ h ∈ c.controlPlane ++ c.staticWorkers, h.Newer expected
    · obtain ⟨h, hh, hnew⟩ := hnew
      rw [upgradeNeeded_of_newer hc hdir hh hnew,
        upgradeNeeded_of_newer (hre.versioned hc) (hre.oneDirection hdir) ((hmem h).mpr hh) hnew]
    · push Not at hnew
      have hnew' : ∀ x ∈ c'.controlPlane ++ c'.staticWorkers, ¬ x.Newer expected :=
        fun x hx => hnew x ((hmem x).mp hx)
      rcases upgradeNeeded_of_not_newer hc hnew with ⟨⟨h, hh, hold⟩, hres⟩ | ⟨hold, hres⟩ <;>
        rcases upgradeNeeded_of_not_newer (hre.versioned hc) hnew' with
          ⟨⟨h', hh', hold'⟩, hres'⟩ | ⟨hold', hres'⟩
      · rw [hres, hres']
      · exact absurd hold (hold' h ((hmem h).mpr hh))
      · exact absurd hold' (hold h' ((hmem h').mp hh'))
      · rw [hres, hres']

end Cluster

def twoHosts (expected first second : Version) : Cluster :=
  { controlPlane := [{ config := { hostname := "a" }, kubelet := { version := some first } },
      { config := { hostname := "b" }, kubelet := { version := some second } }]
    staticWorkers := []
    expectedKubernetesVersion := some expected }

/-- A newer host behind one that runs the expected version is refused in every order. -/
theorem twoHosts_refused :
    let c := twoHosts (.release 1 34 1) (.release 1 34 1) (.release 1 35 0)
    c.Versioned (.release 1 34 1) ∧
      (((∃ h ∈ c.controlPlane ++ c.staticWorkers, h.Newer (.release 1 34 1)) →
          c.upgradeNeeded = .error downgradeDisallowed) ∧
        ∀ c', c.Reordered c' →
          c'.upgradeNeeded = c.upgradeNeeded) := by
  intro c
  have hc : c.Versioned (.release 1 34 1) := ⟨rfl, by decide⟩
  exact ⟨hc, (Cluster.upgradeNeeded_refuses_downgrade_iff hc).mpr (.inr (by decide))⟩

/-- A newer host behind an older one is not refused, and it is when the two are swapped. -/
theorem twoHosts_upgraded :
    let c := twoHosts (.release 1 34 1) (.release 1 33 4) (.release 1 35 0)
    let c' := { c with controlPlane := c.controlPlane.reverse }
    c.Versioned (.release 1 34 1) ∧ c.Reordered c' ∧
      (∃ h ∈ c.controlPlane, h.Newer (.release 1 34 1)) ∧
      c.upgradeNeeded = .ok true ∧
      c'.upgradeNeeded = .error downgradeDisallowed := by
  intro c c'
  exact ⟨⟨rfl, by decide⟩, ⟨rfl, reverse_perm _, .refl _⟩, by decide, by decide, by decide⟩

end KubeOne.State
