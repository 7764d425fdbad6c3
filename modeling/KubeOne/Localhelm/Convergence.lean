import KubeOne.Localhelm.Deploy

/-! What a successful deployment leaves behind. A declared release is uninstalled after its
upgrade if a stored revision has a chart of another name, and its upgrade is skipped if the newest
revision has the rendered text but never became deployed. -/

namespace KubeOne.Localhelm

open List Storage

open Process (bind_eq_ok)

variable {files : LocalFiles} {helm : Helm} {fails : Failures} {i : ℕ} {d : Declaration}
  {ds : List Declaration} {s s' : Storage} {k : Key}

/-! ### Installed releases -/

def Installed (s : Storage) (k : Key) : Prop := ∃ r, IsNewest r (s.history k) ∧ r.status = .deployed

theorem Installed.congr (h : s'.history k = s.history k) : Installed s' k ↔ Installed s k := by
  unfold Installed
  rw [h]

theorem history_setLabel (s : Storage) (k k' : Key) (version : ℕ) :
    (s.setLabel k version).history k' = (s.history k').map fun r =>
      if r.key = k ∧ r.version = version then { r with labelled := true } else r := by
  unfold history setLabel
  rw [filter_map]
  congr 2
  funext r
  simp only [Function.comp_apply]
  split <;> rfl

variable {k' : Key}

theorem history_setLabel_of_ne (h : k' ≠ k) (version : ℕ) :
    (s.setLabel k version).history k' = s.history k' := by
  rw [history_setLabel]
  refine (map_congr_left ?_).trans (map_id _)
  intro r hr
  have hk : r.key ≠ k := (mem_history.1 hr).2 ▸ h
  exact if_neg fun hr => hk hr.1

theorem installed_setLabel (version : ℕ) (h : Installed s k) :
    Installed (s.setLabel k version) k := by
  obtain ⟨r, ⟨hmem, hmax⟩, hr⟩ := h
  unfold Installed IsNewest
  rw [history_setLabel]
  refine ⟨_, ⟨mem_map_of_mem hmem, ?_⟩, ?_⟩
  · intro x hx
    obtain ⟨y, hy, rfl⟩ := mem_map.1 hx
    have hle := hmax y hy
    split <;> split <;> exact hle
  · split <;> exact hr

theorem Installed.history_ne_nil (h : Installed s k) : s.history k ≠ [] := by
  obtain ⟨r, hr, -⟩ := h
  exact ne_nil_of_mem hr.1

theorem Change.installed_effect (c : Change k) (s : Storage) : Installed (c.effect s) k :=
  installed_setLabel _ ⟨_, c.newest s, c.deployed s⟩

theorem Change.effect_frame (c : Change k) (s : Storage) (h : k' ≠ k) :
    (c.effect s).history k' = s.history k' :=
  (history_setLabel_of_ne h _).trans (c.frame s k' h)

/-! ### The loop over the declared releases -/

/-- The declaration has something to install or to upgrade. -/
def Declaration.Pending (d : Declaration) (s : Storage) : Prop :=
  s.history d.key = [] ∨ helmReleasesEqual d.rendered (s.history d.key) = false

theorem turn_of_pending (h : d.Pending s) : Installed (turn helm d s).1 d.key := by
  unfold turn
  split
  · exact Change.installed_effect _ s
  · next hne =>
    have heq := h.resolve_left hne
    rw [if_neg (by simp [heq])]
    exact Change.installed_effect _ s

theorem turn_of_not_pending (h : ¬ d.Pending s) : turn helm d s = (s, .skipped d.key) := by
  unfold Declaration.Pending at h
  rw [not_or, Bool.not_eq_false] at h
  unfold turn
  rw [if_neg h.1, if_pos h.2]

theorem turn_frame (h : k ≠ d.key) : (turn helm d s).1.history k = s.history k := by
  unfold turn
  split
  · exact Change.effect_frame _ s h
  · split
    · rfl
    · exact Change.effect_frame _ s h

theorem turn_installed (h : Installed s k) : Installed (turn helm d s).1 k := by
  by_cases hk : k = d.key
  · subst hk
    by_cases hp : d.Pending s
    · exact turn_of_pending hp
    · rw [turn_of_not_pending hp]
      exact h
  · exact (Installed.congr (turn_frame hk)).2 h

theorem turn_history_ne_nil (h : s.history k ≠ []) : (turn helm d s).1.history k ≠ [] := by
  by_cases hk : k = d.key
  · subst hk
    by_cases hp : d.Pending s
    · exact (turn_of_pending hp).history_ne_nil
    · rw [turn_of_not_pending hp]
      exact h
  · rw [turn_frame hk]
    exact h

theorem turn_not_uninstalled : (turn helm d s).2 ≠ .uninstalled k := by
  unfold turn
  split
  · simp
  · split <;> simp

theorem turns_installed (h : Installed s k) : Installed (turns helm ds s).1 k := by
  induction ds generalizing s with
  | nil => exact h
  | cons d ds ih => exact ih (turn_installed h)

theorem turns_frame (h : ∀ d ∈ ds, d.key ≠ k) : (turns helm ds s).1.history k = s.history k := by
  induction ds generalizing s with
  | nil => rfl
  | cons d ds ih =>
    rw [forall_mem_cons] at h
    exact (ih h.2).trans (turn_frame (Ne.symm h.1))

theorem turns_history_ne_nil (h : s.history k ≠ []) : (turns helm ds s).1.history k ≠ [] := by
  induction ds generalizing s with
  | nil => exact h
  | cons d ds ih => exact ih (turn_history_ne_nil h)

theorem turns_not_uninstalled : .uninstalled k ∉ (turns helm ds s).2 := by
  induction ds generalizing s with
  | nil => simp [turns]
  | cons d ds ih =>
    rw [turns, mem_cons, not_or]
    exact ⟨turn_not_uninstalled.symm, ih⟩

theorem turns_installed_iff :
    Installed (turns helm ds s).1 k ↔ Installed s k ∨ ∃ d ∈ ds, d.key = k ∧ d.Pending s := by
  induction ds generalizing s with
  | nil => simp [turns]
  | cons d ds ih =>
    by_cases hk : d.key = k
    · subst hk
      by_cases hp : d.Pending s
      · have hinst : Installed (turns helm ds (turn helm d s).1).1 d.key :=
          turns_installed (turn_of_pending hp)
        exact iff_of_true hinst (.inr ⟨d, mem_cons_self, rfl, hp⟩)
      · have hskip : (turns helm (d :: ds) s).1 = (turns helm ds s).1 := by
          rw [turns, turn_of_not_pending hp]
        rw [hskip, ih]
        simp [hp]
    · have hsame : (turn helm d s).1.history k = s.history k := turn_frame (Ne.symm hk)
      have hpend : ∀ d' : Declaration, d'.key = k →
          (d'.Pending (turn helm d s).1 ↔ d'.Pending s) := by
        rintro d' rfl
        unfold Declaration.Pending
        rw [hsame]
      calc Installed (turns helm (d :: ds) s).1 k
          ↔ Installed (turn helm d s).1 k ∨
              ∃ d' ∈ ds, d'.key = k ∧ d'.Pending (turn helm d s).1 := ih
        _ ↔ Installed s k ∨ ∃ d' ∈ ds, d'.key = k ∧ d'.Pending s := by
            rw [Installed.congr hsame]
            refine or_congr_right (exists_congr fun d' => and_congr_right fun _ => ?_)
            exact and_congr_right (hpend d')
        _ ↔ Installed s k ∨ ∃ d' ∈ d :: ds, d'.key = k ∧ d'.Pending s := by
            simp [hk]

/-! ### The loop over the collected revisions -/

section Uninstall

variable {rs : List Revision} {u : Storage × List Event}

theorem uninstallReleases_cons {r : Revision}
    (h : uninstallReleases helm fails i (r :: rs) s = .ok u) :
    s.history r.key ≠ [] ∧ ∃ rest,
      uninstallReleases helm fails (i + 1) rs ((helm.uninstall r.key).run s) = .ok rest ∧
      u = (rest.1, .uninstalled r.key :: rest.2) := by
  unfold uninstallReleases at h
  rw [attempt_bind_eq_ok, attempt_bind_eq_ok, attempt_bind_eq_ok] at h
  obtain ⟨-, -, -, h⟩ := h
  by_cases hnil : s.history r.key = []
  · rw [if_pos hnil] at h
    cases h
  · rw [if_neg hnil, bind_eq_ok] at h
    obtain ⟨rest, hrest, h⟩ := h
    exact ⟨hnil, rest, hrest, (Except.ok.inj h).symm⟩

section

variable (h : uninstallReleases helm fails i rs s = .ok u)

include h

theorem uninstallReleases_frame (hk : k ∉ rs.map (·.key)) : u.1.history k = s.history k := by
  induction rs generalizing i s u with
  | nil => rw [← Except.ok.inj h]
  | cons r rs ih =>
    obtain ⟨-, rest, hrest, rfl⟩ := uninstallReleases_cons h
    rw [map_cons, mem_cons, not_or] at hk
    exact (ih hrest hk.2).trans ((helm.uninstall r.key).frame s k hk.1)

theorem uninstallReleases_history_ne_nil (hk : k ∈ rs.map (·.key)) : s.history k ≠ [] := by
  induction rs generalizing i s u with
  | nil => cases hk
  | cons r rs ih =>
    obtain ⟨hne, rest, hrest, rfl⟩ := uninstallReleases_cons h
    by_cases hkr : k = r.key
    · rw [hkr]
      exact hne
    · have hmem : k ∈ rs.map (·.key) := by simpa [hkr] using hk
      rw [← (helm.uninstall r.key).frame s k hkr]
      exact ih hrest hmem

theorem uninstallReleases_nodup : (rs.map (·.key)).Nodup := by
  induction rs generalizing i s u with
  | nil => exact nodup_nil
  | cons r rs ih =>
    obtain ⟨-, rest, hrest, rfl⟩ := uninstallReleases_cons h
    rw [map_cons, nodup_cons]
    refine ⟨?_, ih hrest⟩
    intro hmem
    exact uninstallReleases_history_ne_nil hrest hmem ((helm.uninstall r.key).gone s)

theorem uninstallReleases_gone (hk : k ∈ rs.map (·.key)) : u.1.history k = [] := by
  induction rs generalizing i s u with
  | nil => cases hk
  | cons r rs ih =>
    have hnodup := uninstallReleases_nodup h
    obtain ⟨-, rest, hrest, rfl⟩ := uninstallReleases_cons h
    rw [map_cons, mem_cons] at hk
    rw [map_cons, nodup_cons] at hnodup
    rcases hk with rfl | hk
    · exact (uninstallReleases_frame hrest hnodup.1).trans ((helm.uninstall r.key).gone s)
    · show rest.1.history k = []
      exact ih hrest hk

theorem uninstallReleases_events (hk : .uninstalled k ∈ u.2) : k ∈ rs.map (·.key) := by
  induction rs generalizing i s u with
  | nil =>
    rw [← Except.ok.inj h] at hk
    cases hk
  | cons r rs ih =>
    obtain ⟨-, rest, hrest, rfl⟩ := uninstallReleases_cons h
    rw [map_cons, mem_cons]
    rcases mem_cons.1 hk with heq | hk
    · exact .inl (Event.uninstalled.inj heq)
    · exact .inr (ih hrest hk)

end

/-- Uninstalling fails only for a release that is not there. -/
def UninstallsExisting (fails : Failures) : Prop :=
  ∀ i, fails (.uninstallAccessor i) = none ∧ fails (.uninstallInit i) = none ∧
    fails (.uninstall i) = none

theorem uninstallsExisting_noFailure : UninstallsExisting noFailure := fun _ => ⟨rfl, rfl, rfl⟩

theorem uninstallReleases_succeeds (hfails : UninstallsExisting fails)
    (hnodup : (rs.map (·.key)).Nodup) (hne : ∀ r ∈ rs, s.history r.key ≠ []) :
    ∃ u, uninstallReleases helm fails i rs s = .ok u := by
  induction rs generalizing i s with
  | nil => exact ⟨_, rfl⟩
  | cons r rs ih =>
    rw [map_cons, nodup_cons] at hnodup
    rw [forall_mem_cons] at hne
    have hrest : ∀ r' ∈ rs, ((helm.uninstall r.key).run s).history r'.key ≠ [] := by
      intro r' hr'
      have hkey : r'.key ≠ r.key := fun heq => hnodup.1 (heq ▸ mem_map_of_mem hr')
      rw [(helm.uninstall r.key).frame s _ hkey]
      exact hne.2 r' hr'
    obtain ⟨u, hu⟩ := @ih (i + 1) _ hnodup.2 hrest
    refine ⟨(u.1, .uninstalled r.key :: u.2), ?_⟩
    unfold uninstallReleases
    rw [attempt_bind_eq_ok, attempt_bind_eq_ok, attempt_bind_eq_ok, if_neg hne.1, bind_eq_ok]
    exact ⟨(hfails i).1, (hfails i).2.1, (hfails i).2.2, u, hu, rfl⟩

end Uninstall

/-! ### Convergence -/

/-- What a deployment is for: the declared releases are installed, no other release with the
label is left, and only releases with the label were uninstalled. -/
structure Converged (ds : List Declaration) (before after : Storage) (events : List Event) :
    Prop where
  installed : ∀ d ∈ ds, Installed after d.key
  cleaned : ∀ k, after.Labelled k → ∃ d ∈ ds, d.key = k
  spared : ∀ k, .uninstalled k ∈ events → before.Labelled k

/-- The declared releases of a manifest that passed validation. -/
structure Manifest (files : LocalFiles) where
  declarations : List Declaration
  valid : validateHelmReleases files (declarations.map (·.release)) [.child "addons"] = []

/-- The releases that are going to be uninstalled, once for each collected revision. -/
def condemned (files : LocalFiles) (ds : List Declaration) (s : Storage) : List Key :=
  (releasesToUninstall files ds s).map (·.key)

theorem mem_condemned :
    k ∈ condemned files ds s ↔
      ∃ r ∈ s.history k, releasesFilterFn files (ds.map (·.release)) r = true := by
  simp only [condemned, releasesToUninstall, mem_map, mem_filter, mem_history]
  constructor
  · rintro ⟨r, ⟨hr, hf⟩, hk⟩
    exact ⟨r, ⟨hr, hk⟩, hf⟩
  · rintro ⟨r, ⟨hr, hk⟩, hf⟩
    exact ⟨r, ⟨hr, hf⟩, hk⟩

theorem labelled_of_mem_condemned (h : k ∈ condemned files ds s) : s.Labelled k := by
  obtain ⟨r, hr, hf⟩ := mem_condemned.1 h
  exact ⟨r, hr, labelled_of_releasesFilterFn hf⟩

theorem mem_condemned_of_undeclared (hk : ∀ d ∈ ds, d.key ≠ k) (h : s.Labelled k) :
    k ∈ condemned files ds s := by
  obtain ⟨r, hr, hl⟩ := h
  refine mem_condemned.2 ⟨r, hr, ?_⟩
  rw [releasesFilterFn_of_undeclared, hl]
  intro hr' hmem
  obtain ⟨d, hd, rfl⟩ := mem_map.1 hmem
  rw [(mem_history.1 hr).2]
  exact hk d hd

/-- Every revision with the label has the chart of one of the declarations of its release. -/
def ChartsKept (files : LocalFiles) (ds : List Declaration) (s : Storage) (k : Key) : Prop :=
  ∀ r ∈ s.history k, r.labelled = true →
    ∃ d ∈ ds, d.key = k ∧ d.release.expectedChart files = r.content.chartName

theorem notMem_condemned_iff : k ∉ condemned files ds s ↔ ChartsKept files ds s k := by
  rw [mem_condemned, not_exists]
  refine forall_congr' fun r => ?_
  rw [not_and]
  refine forall_congr' fun hr => ?_
  have hkey : r.key = k := (mem_history.1 hr).2
  simp only [releasesFilterFn, hkey, any_map, any_eq_true, Function.comp_apply,
    Bool.and_eq_true, decide_eq_true_eq]
  by_cases hd : ∃ d ∈ ds, k = d.key ∧ d.release.expectedChart files = r.content.chartName
  · rw [if_pos hd]
    obtain ⟨d, hd, hk, hc⟩ := hd
    simpa using fun _ => ⟨d, hd, hk.symm, hc⟩
  · rw [if_neg hd]
    refine imp_congr_right fun _ => ?_
    simp only [false_iff]
    rintro ⟨d, hmem, hk, hc⟩
    exact hd ⟨d, hmem, hk.symm, hc⟩

/-- When a deployment converges. Either a release is collected with two of its revisions, so
that the second attempt to uninstall it fails, or every declared release keeps its chart, and
its newest revision is deployed or replaced. -/
def Convergent (files : LocalFiles) (ds : List Declaration) (s : Storage) : Prop :=
  ¬ (condemned files ds s).Nodup ∨
    ∀ d ∈ ds, ChartsKept files ds s d.key ∧
      ∀ r, IsNewest r (s.history d.key) → r.status = .deployed ∨
        ∃ d' ∈ ds, d'.key = d.key ∧ helmReleasesEqual d'.rendered (s.history d.key) = false

variable {events : List Event}

section

variable (h : deploy files helm fails ds s = .ok (s', events))

include h

theorem deploy_cleans (hk : s'.Labelled k) : ∃ d ∈ ds, d.key = k := by
  by_contra hnone
  have hund : ∀ d ∈ ds, d.key ≠ k := fun d hd heq => hnone ⟨d, hd, heq⟩
  obtain ⟨u, hu, heq⟩ := deploy_ok h
  obtain ⟨rfl, -⟩ := Prod.mk.inj heq
  by_cases hc : k ∈ condemned files ds s
  · obtain ⟨r, hr, -⟩ := hk
    rw [uninstallReleases_gone hu hc] at hr
    cases hr
  · refine hc (mem_condemned_of_undeclared hund ?_)
    unfold Labelled at hk
    rwa [uninstallReleases_frame hu hc, turns_frame hund] at hk

theorem deploy_spares (hk : .uninstalled k ∈ events) : s.Labelled k := by
  obtain ⟨u, hu, heq⟩ := deploy_ok h
  obtain ⟨-, rfl⟩ := Prod.mk.inj heq
  have hmem : .uninstalled k ∈ u.2 := (mem_append.1 hk).resolve_left turns_not_uninstalled
  exact labelled_of_mem_condemned (uninstallReleases_events hu hmem)

theorem deploy_nodup : (condemned files ds s).Nodup := by
  obtain ⟨u, hu, -⟩ := deploy_ok h
  exact uninstallReleases_nodup hu

theorem deploy_installed_iff : Installed s' k ↔ k ∉ condemned files ds s ∧
      (Installed s k ∨ ∃ d ∈ ds, d.key = k ∧ d.Pending s) := by
  obtain ⟨u, hu, heq⟩ := deploy_ok h
  obtain ⟨rfl, -⟩ := Prod.mk.inj heq
  by_cases hc : k ∈ condemned files ds s
  · simp only [hc, not_true_eq_false, false_and, iff_false]
    intro hinst
    exact hinst.history_ne_nil (uninstallReleases_gone hu hc)
  · simp only [hc, not_false_eq_true, true_and]
    rw [Installed.congr (uninstallReleases_frame hu hc), turns_installed_iff]

end

theorem collected_history_ne_nil (helm : Helm) :
    ∀ r ∈ releasesToUninstall files ds s, (turns helm ds s).1.history r.key ≠ [] := by
  intro r hr
  apply turns_history_ne_nil
  have hmem : r ∈ s.history r.key := mem_history.2 ⟨(mem_filter.1 hr).1, rfl⟩
  exact ne_nil_of_mem hmem

theorem deploy_succeeds (helm : Helm) (h : (condemned files ds s).Nodup) :
    ∃ r, deploy files helm noFailure ds s = .ok r := by
  obtain ⟨u, hu⟩ := uninstallReleases_succeeds uninstallsExisting_noFailure h
    (collected_history_ne_nil helm)
  exact ⟨_, deploy_noFailure hu⟩

theorem installed_or_pending_iff (hd : d ∈ ds) :
    (Installed s d.key ∨ ∃ d' ∈ ds, d'.key = d.key ∧ d'.Pending s) ↔
      ∀ r, IsNewest r (s.history d.key) → r.status = .deployed ∨
        ∃ d' ∈ ds, d'.key = d.key ∧ helmReleasesEqual d'.rendered (s.history d.key) = false := by
  cases hl : latest (s.history d.key) with
  | none =>
    have hnil := latest_eq_none.1 hl
    refine iff_of_true (.inr ⟨d, hd, rfl, .inl hnil⟩) ?_
    intro r hr
    rw [hnil] at hr
    cases hr.1
  | some r =>
    have hr := isNewest_of_latest hl
    have hne : s.history d.key ≠ [] := ne_nil_of_mem hr.1
    have hunique : ∀ r', IsNewest r' (s.history d.key) → r' = r := by
      intro r' hr'
      have h := latest_history.2 hr'
      rw [hl] at h
      exact (Option.some.inj h).symm
    have hpend : (∃ d' ∈ ds, d'.key = d.key ∧ d'.Pending s) ↔
        ∃ d' ∈ ds, d'.key = d.key ∧ helmReleasesEqual d'.rendered (s.history d.key) = false := by
      refine exists_congr fun d' => and_congr_right fun _ => and_congr_right fun hk => ?_
      simp [Declaration.Pending, hk, hne]
    rw [hpend]
    constructor
    · rintro (⟨r', hr', hdep⟩ | h) x hx
      · rw [hunique x hx, ← hunique r' hr']
        exact .inl hdep
      · exact .inr h
    · intro h
      exact (h r hr).imp (fun hdep => ⟨r, hr, hdep⟩) id

/-- A deployment that succeeds has converged, whatever fails on the way, exactly under the
condition above. -/
theorem deploy_converges_iff (files : LocalFiles) (helm : Helm) (m : Manifest files)
    (s : Storage) :
    (∀ fails s' events, deploy files helm fails m.declarations s = .ok (s', events) →
      Converged m.declarations s s' events) ↔ Convergent files m.declarations s := by
  constructor
  · intro h
    by_cases hnodup : (condemned files m.declarations s).Nodup
    · right
      intro d hd
      obtain ⟨⟨s', events⟩, hrun⟩ := deploy_succeeds helm hnodup
      have hinst := (h noFailure s' events hrun).installed d hd
      obtain ⟨hkept, hdone⟩ := (deploy_installed_iff hrun).1 hinst
      exact ⟨notMem_condemned_iff.1 hkept, (installed_or_pending_iff hd).1 hdone⟩
    · exact .inl hnodup
  · rintro hconv fails s' events hrun
    have hall := hconv.resolve_left (not_not.2 (deploy_nodup hrun))
    refine ⟨?_, fun k => deploy_cleans hrun, fun k => deploy_spares hrun⟩
    intro d hd
    obtain ⟨hkept, hdone⟩ := hall d hd
    exact (deploy_installed_iff hrun).2
      ⟨notMem_condemned_iff.2 hkept, (installed_or_pending_iff hd).2 hdone⟩

/-! ### A release whose chart changed -/

def Storage.without (s : Storage) (k : Key) : Storage where
  revisions := s.revisions.filter (·.key ≠ k)
  distinct := s.distinct.sublist (List.filter_sublist.map _)

theorem Storage.history_without (s : Storage) (k : Key) : (s.without k).history k = [] := by
  simp [history, without]

theorem Storage.history_without_of_ne (s : Storage) {k : Key} (h : k' ≠ k) :
    (s.without k).history k' = s.history k' := by
  simp only [history, without, filter_filter]
  refine filter_congr fun r _ => ?_
  by_cases hr : r.key = k' <;> simp [hr, h]

def firstRevision (k : Key) (content : Rendered) : Revision := ⟨k, 1, .deployed, content, false⟩

def Storage.replace (s : Storage) (k : Key) (content : Rendered) : Storage where
  revisions := firstRevision k content :: (s.without k).revisions
  distinct := by
    rw [List.map_cons, List.nodup_cons]
    refine ⟨?_, (s.without k).distinct⟩
    simp only [without, List.mem_map, List.mem_filter, Prod.mk.injEq, not_exists, not_and]
    intro r hr hk
    have hne : r.key ≠ k := of_decide_eq_true hr.2
    exact absurd hk hne

theorem Storage.history_replace (s : Storage) (k k' : Key) (content : Rendered) :
    (s.replace k content).history k' =
      if k' = k then [firstRevision k content] else s.history k' := by
  by_cases h : k' = k
  · subst h
    rw [if_pos rfl, history, replace, filter_cons_of_pos (by simp [firstRevision])]
    exact congrArg _ (s.history_without k')
  · rw [if_neg h, history, replace, filter_cons_of_neg (by simp [firstRevision, Ne.symm h])]
    exact s.history_without_of_ne h

def lastOnly (content : HelmRelease → Rendered) : Helm where
  install hr := change hr
  upgrade hr := change hr
  uninstall k := {
    run := fun s => s.without k
    gone := fun s => s.history_without k
    frame := fun s _ h => s.history_without_of_ne h }
where
  change (hr : HelmRelease) : Change hr.key := {
    run := fun s => (firstRevision hr.key (content hr), s.replace hr.key (content hr))
    newest := by
      intro s
      rw [Storage.history_replace, if_pos rfl]
      exact ⟨List.mem_singleton_self _, by simp⟩
    deployed := fun _ => rfl
    frame := by
      intro s k' h
      rw [Storage.history_replace, if_neg h] }

def noFiles : LocalFiles where
  readChart _ := .error "no such file"
  chartName _ := .error "not a chart"
  openError _ := none
  parseError _ := none

def apache : Rendered :=
  ⟨"apache", "1.0.0", [("Version", "1.0.0")], "kind: Deployment".toList, []⟩

def chartChanged : Manifest noFiles where
  declarations := [⟨{ chart := "apache", repoURL := "charts", releaseName := "web", ns := "apps" },
    apache⟩]
  valid := by decide

def nginxInstalled : Storage where
  revisions := [⟨⟨"apps", "web"⟩, 1, .deployed, ⟨"nginx", "1.0.0", [], [], []⟩, true⟩]
  distinct := by simp

theorem chart_change_uninstalls_release :
    ∃ s' events,
      deploy noFiles (lastOnly fun _ => apache) noFailure chartChanged.declarations
        nginxInstalled = .ok (s', events) ∧
      events = [.upgraded ⟨"apps", "web"⟩, .uninstalled ⟨"apps", "web"⟩] ∧
      ¬ Converged chartChanged.declarations nginxInstalled s' events := by
  refine ⟨_, _, rfl, by decide, ?_⟩
  intro h
  have hinst := h.installed _ mem_cons_self
  exact hinst.history_ne_nil (by decide)

/-! ### Skipped upgrades -/

/-- The revision is deployed and holds what the chart renders now. What the texts mean as
objects is left open. -/
structure UpToDate {Objects : Type} (objects : Text → Objects) (rendered : Rendered)
    (r : Revision) : Prop where
  deployed : r.status = .deployed
  chartVersion : r.content.chartVersion = rendered.chartVersion
  manifest : objects r.content.manifest = objects rendered.manifest
  hooks : r.content.hooks.map objects = rendered.hooks.map objects

theorem helmReleasesEqual_iff {rel : Rendered} :
    helmReleasesEqual rel (s.history k) = true ↔
      ∃ r, IsNewest r (s.history k) ∧ r.content.version = rel.version ∧
        cleanManifest r.content.manifest = cleanManifest rel.manifest := by
  unfold helmReleasesEqual
  cases hl : latest (s.history k) with
  | none =>
    simp only [Bool.false_eq_true, false_iff]
    rintro ⟨r, hr, -⟩
    rw [latest_eq_none.1 hl] at hr
    cases hr.1
  | some r =>
    have hunique : ∀ r', IsNewest r' (s.history k) ↔ r = r' := by
      intro r'
      rw [← latest_history, hl, Option.some.injEq]
    simp only [hunique, exists_eq_left']
    by_cases hv : rel.version = r.content.version
    · simp [hv, eq_comm]
    · simp [hv, Ne.symm hv]

/-- An upgrade that succeeds without doing anything has found the newest revision up to date,
whatever fails on the way, exactly if every newest revision with the same entry `version` and the
same text, comment lines apart, is deployed from a chart of the same version and means the same
objects and hooks. -/
theorem upgradeRelease_skips_upToDate_iff {Objects : Type} (objects : Text → Objects)
    (helm : Helm) (i : ℕ) (d : Declaration) (s : Storage) :
    (∀ fails s', upgradeRelease helm fails i d (s.history d.key) s = .ok (s', .skipped d.key) →
      ∃ r, IsNewest r (s.history d.key) ∧ UpToDate objects d.rendered r) ↔
    ∀ r, IsNewest r (s.history d.key) →
      r.content.version = d.rendered.version →
      cleanManifest r.content.manifest = cleanManifest d.rendered.manifest →
      r.status = .deployed ∧ r.content.chartVersion = d.rendered.chartVersion ∧
        objects r.content.manifest = objects d.rendered.manifest ∧
        r.content.hooks.map objects = d.rendered.hooks.map objects := by
  constructor
  · intro h r hr hv hm
    have heq := helmReleasesEqual_iff.2 ⟨r, hr, hv, hm⟩
    have hrun : upgradeRelease helm noFailure i d (s.history d.key) s =
        .ok (s, .skipped d.key) := by
      unfold upgradeRelease
      rw [attempt_bind_eq_ok, attempt_bind_eq_ok, if_pos heq]
      exact ⟨rfl, rfl, rfl⟩
    obtain ⟨r', hr', hup⟩ := h noFailure s hrun
    have hsame : r' = r := by
      have := (latest_history.2 hr').symm.trans (latest_history.2 hr)
      exact Option.some.inj this
    subst hsame
    exact ⟨hup.deployed, hup.chartVersion, hup.manifest, hup.hooks⟩
  · intro h fails s' hrun
    have hequal : helmReleasesEqual d.rendered (s.history d.key) = true := by
      by_contra hne
      have heq := upgradeRelease_ok hrun
      rw [if_neg hne] at heq
      cases (Prod.mk.inj heq).2
    obtain ⟨r, hr, hv, hm⟩ := helmReleasesEqual_iff.1 hequal
    obtain ⟨hdep, hversion, hman, hhooks⟩ := h r hr hv hm
    exact ⟨r, hr, hdep, hversion, hman, hhooks⟩

def failedUpgrade : Storage where
  revisions := [⟨⟨"apps", "web"⟩, 2, .failed, apache, true⟩,
    ⟨⟨"apps", "web"⟩, 1, .deployed, ⟨"apache", "0.9.0", [], [], []⟩, true⟩]
  distinct := by simp

theorem failed_upgrade_is_skipped :
    ∃ d ∈ chartChanged.declarations,
      upgradeRelease (lastOnly fun _ => apache) noFailure 0 d (failedUpgrade.history d.key)
        failedUpgrade = .ok (failedUpgrade, .skipped d.key) ∧
      ∀ r, IsNewest r (failedUpgrade.history d.key) → r.status = .failed := by
  refine ⟨_, mem_cons_self, rfl, ?_⟩
  intro r hr
  have hl := latest_history.2 hr
  have hnewest : r = ⟨⟨"apps", "web"⟩, 2, .failed, apache, true⟩ := (Option.some.inj hl).symm
  rw [hnewest]

end KubeOne.Localhelm
