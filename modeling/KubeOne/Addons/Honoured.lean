import KubeOne.Addons.Declared
import KubeOne.NativeClient.Safety

/-! When the declaration to delete an addon is honoured in every run. Where the condition fails
there is an environment in which the addon is applied, or is not deleted by a run that succeeds.
-/

namespace KubeOne.Addons

open Process NativeClient Resources List Stage NativeClient.Addon

/-- In every run the addon is not applied, and once the run succeeds its objects have been deleted
with the manifests of the directory in which the addon is looked up, provided that the deletes
find their kinds and that they carry the label. -/
def Honoured (s : KubeOneCluster) (dirs : Directories) (name : String) : Prop :=
  ∀ env c,
    (∀ source, .apply source name ∉ (runAddons s dirs env c).1.log) ∧
      ((runAddons s dirs env c).2 = .success → ∀ source, sourceOf s dirs name = some source →
        (∃ step manifests, load dirs env step source name = .ok manifests ∧ manifests ≠ []) →
          Reached env.digest source name (runAddons s dirs env c).1 →
            Deleted source name (runAddons s dirs env c).1)

/-- No feature selects the addon. Then either the run fails at another addon that is to be deleted,
or the addon is none of those that are applied for the user, and it is deleted unless the run fails
at an addon that does not exist. -/
structure Deletable (s : KubeOneCluster) (dirs : Directories) (name : String) : Prop where
  unselected : ∀ add ∈ collectAddons s, add.name ≠ name
  userAddon : Blocked s dirs ∨ ¬ (UserAddon s dirs name ∧ sourceOf s dirs name ≠ none)
  root : Blocked s dirs ∨ Incomplete s dirs ∨ (name = "" → s.hasLocalFS = false)
  cleanedUp : Blocked s dirs ∨ Incomplete s dirs ∨ (name ∈ embeddedAddons → CleanedUp s name)

variable {s : KubeOneCluster} {dirs : Directories} {env : RunEnvironment} {c : Cluster}
  {w w' : World} {r : Status Failure} {name : String} {source : Source}

/-! ### The condition is enough -/

theorem Deletable.user_noApply (h : Deletable s dirs name)
    (hrun : ensureUserAddons s dirs env w = (w', r)) : OnLog (NoApply name) w w' := by
  have hQ := allows_noApply name
  rw [ensureUserAddons_eq] at hrun
  have hgather : OnLog (NoApply name) w (gatherAddons s dirs env w).1 :=
    relates_gatherAddons hQ (fun _ _ _ _ => trivial) w
  rcases andThen_eq hrun with ⟨hfirst, -⟩ | ⟨t, hfirst, hrest⟩
  · rwa [hfirst] at hgather
  rw [hfirst] at hgather
  refine hQ.onLog_trans _ _ _ hgather ?_
  have hblocked := not_blocked_of_gatherAddons hfirst
  obtain ⟨hcombined, -⟩ := gatherAddons_success hfirst
  have hstage : OnLog (NoApply name) t (combinedStage s dirs env t).1 := by
    refine relates_combinedStage hQ fun other hmem hsource hsame => ?_
    subst hsame
    exact h.userAddon.resolve_left hblocked ⟨(hcombined other).mp hmem, hsource⟩
  rcases andThen_eq hrest with ⟨hsecond, -⟩ | ⟨t', hsecond, hroot⟩
  · rwa [hsecond] at hstage
  rw [hsecond] at hstage
  refine hQ.onLog_trans _ _ _ hstage ?_
  have hincomplete := not_incomplete_of_combinedStage hcombined hsecond
  have hlast : OnLog (NoApply name) t' (rootAddons s dirs env t').1 := by
    refine relates_rootAddons hQ (fun hlocal hempty => ?_) t'
    have hnone := (h.root.resolve_left hblocked).resolve_left hincomplete hempty.symm
    rw [hlocal] at hnone
    cases hnone
  rwa [hroot] at hlast

theorem Deletable.not_applied (h : Deletable s dirs name) (env : RunEnvironment) (c : Cluster)
    (source : Source) : .apply source name ∉ (runAddons s dirs env c).1.log := by
  have hQ := allows_noApply name
  rcases hrun : runAddons s dirs env c with ⟨w', r⟩
  have hensure : OnLog (NoApply name) { cluster := c } (ensure s dirs env { cluster := c }).1 :=
    relates_ensure hQ h.unselected (fun _ _ => trivial) _
  have hlog : OnLog (NoApply name) { cluster := c } w' := by
    rcases andThen_eq hrun with ⟨hfirst, -⟩ | ⟨t, hfirst, hrest⟩
    · rwa [hfirst] at hensure
    · rw [hfirst] at hensure
      exact hQ.onLog_trans _ _ _ hensure (h.user_noApply hrest)
  intro hin
  cases hlog source hin

theorem Deletable.ran (h : Deletable s dirs name)
    (hdeclared : ⟨name, true⟩ ∈ s.declaredAddonsOnly) (hsource : sourceOf s dirs name = some source)
    (hrun : runAddons s dirs env c = (w', .success)) : Ran env.digest source name w' := by
  have hsub := allows_subset
  obtain ⟨t, hensure, huser⟩ := of_andThen_success hrun
  rw [ensureUserAddons_eq] at huser
  obtain ⟨t₁, hgather, hrest⟩ := of_andThen_success huser
  obtain ⟨t₂, hcombine, hroot⟩ := of_andThen_success hrest
  have hblocked := not_blocked_of_gatherAddons hgather
  obtain ⟨hcombined, -⟩ := gatherAddons_success hgather
  have hincomplete := not_incomplete_of_combinedStage hcombined hcombine
  have hlog₁ : t.log ⊆ t₁.log := by
    have hlog : OnLog (· ⊆ ·) t (gatherAddons s dirs env t).1 :=
      relates_gatherAddons hsub (fun _ _ _ _ => trivial) t
    rwa [hgather] at hlog
  have hlog₂ : t₁.log ⊆ w'.log := by
    have hlog : OnLog (· ⊆ ·) t₁ (combinedStage s dirs env t₁).1 :=
      relates_combinedStage hsub fun _ _ _ => trivial
    have hlog' : OnLog (· ⊆ ·) t₂ (rootAddons s dirs env t₂).1 :=
      relates_rootAddons hsub (fun _ => trivial) t₂
    rw [hcombine] at hlog
    rw [hroot] at hlog'
    exact List.Subset.trans hlog hlog'
  by_cases hembedded : name ∈ embeddedAddons
  · have hclean := (h.cleanedUp.resolve_left hblocked).resolve_left hincomplete hembedded
    obtain ⟨source', hsource', hran⟩ := ran_of_ensure hclean hensure
    obtain rfl : source' = source := Option.some.inj (hsource'.symm.trans hsource)
    exact hran.mono (List.Subset.trans hlog₁ hlog₂)
  · cases source with
    | embeddedFS => exact (ran_of_gatherAddons hdeclared hembedded hgather).mono hlog₂
    | localFS =>
      exfalso
      refine h.userAddon.resolve_left hblocked ⟨⟨hembedded, .inl ?_⟩, by simp [hsource]⟩
      unfold sourceOf at hsource
      split_ifs at hsource with hlocal hembedded
      · simpa using hlocal
      · cases hsource

/-! ### The condition is needed -/

/-- All addons are empty but for one, and nothing fails. The client knows no kind. -/
def probe (name : String) : RunEnvironment where
  digest _ := ""
  render _ _ other :=
    .ok (if other = name then [⟨⟨"", "v1", "ConfigMap"⟩, "", "probe", [], []⟩] else [])
  newApplier _ := true
  readDir _ _ := true
  supports _ := true
  changes _ c := c
  client _ := some { server := ⟨fun _ => false, fun _ => false, by simp⟩ }
  order names := names.filter (· = name) ++ names.filter fun other => !decide (other = name)
  order_perm names := List.filter_append_perm _ names

theorem deleteAll_unserved {server : Server} (hserves : ∀ gvk, server.serves gvk = false)
    {opts : DeleteOptions} {removals : ℕ → Removal} {objs : List Unstructured}
    (hobjs : ∀ obj ∈ objs, obj.ns = "") (p : Deleting) :
    Applier.deleteAll server opts removals objs p = (p, .success) := by
  induction objs generalizing removals with
  | nil => rfl
  | cons obj objs ih =>
    have hone : Applier.deleteOne server opts (removals 0) obj p = (p, .success) := by
      simp [Applier.deleteOne, Server.withNamespace, hobjs obj mem_cons_self, hserves]
    rw [Applier.deleteAll, andThen_of_success hone]
    exact ih fun o ho => hobjs o (mem_cons_of_mem _ ho)

variable {other : String}

theorem probe_runDelete (hdir : (dirs.fs source).hasDir other = true) (w : World) :
    (runDelete dirs (probe name) source other w).2 = .success := by
  have hdelete : ∀ objs : List Unstructured, (∀ obj ∈ objs, obj.ns = "") →
      (Applier.delete ⟨fun _ => false, fun _ => false, by simp⟩ (deleteOptions (fun _ => "") other)
        {} objs w.cluster).2 = .success := by
    intro objs hobjs
    unfold Applier.delete
    rw [andThen_of_success (deleteAll_unserved (fun _ => rfl) (by simpa using hobjs) _)]
    rfl
  unfold runDelete load
  simp only [hdir, if_true, probe, loadAndDeleteAddon, getManifestsFromDirectory, Except.map]
  by_cases hname : other = name
  · simp only [hname, if_true]
    rw [if_neg (by simp [ensureAddonsLabelsOnResources])]
    rw [← hname, hdelete _ (by simp [ensureAddonsLabelsOnResources, withAddonLabel])]
  · simp [hname, ensureAddonsLabelsOnResources]

theorem probe_runApply (hdir : (dirs.fs source).hasDir other = true) (w : World) :
    (other ≠ name → (runApply dirs (probe name) source other w).2 = .success) ∧
      (other = name → .apply source name ∈ (runApply dirs (probe name) source other w).1.log) := by
  unfold runApply load
  constructor
  · intro hne
    simp [hdir, probe, hne, loadAndApplyAddon, getManifestsFromDirectory, Except.map,
      ensureAddonsLabelsOnResources]
  · rintro rfl
    simp [hdir, probe]

/-! ### Built-in addons exist -/

theorem hasDir_of_sourceOf (h : sourceOf s dirs name = some source) :
    (dirs.fs source).hasDir name = true := by
  unfold sourceOf at h
  split_ifs at h with hlocal hembedded
  · cases h
    exact FS.hasDir_of_lists (Bool.and_eq_true_iff.mp hlocal).2
  · cases h
    exact FS.hasDir_of_lists hembedded

theorem exists_source_of_builtIn (s : KubeOneCluster) (dirs : Directories)
    (h : name ∈ embeddedAddons ++ otherAddons) : ∃ source, sourceOf s dirs name = some source := by
  unfold sourceOf
  rw [if_pos (dirs.builtIn name h)]
  split_ifs
  · exact ⟨_, rfl⟩
  · exact ⟨_, rfl⟩

def BuiltIn (actions : List AddonAction) : Prop :=
  ∀ add ∈ actions, add.name ∈ embeddedAddons ++ otherAddons

instance (actions : List AddonAction) : Decidable (BuiltIn actions) :=
  inferInstanceAs (Decidable (∀ add ∈ actions, add.name ∈ embeddedAddons ++ otherAddons))

variable {first second : List AddonAction}

theorem BuiltIn.append (h : BuiltIn first) (h' : BuiltIn second) : BuiltIn (first ++ second) := by
  intro add hadd
  rcases mem_append.mp hadd with hadd | hadd
  · exact h add hadd
  · exact h' add hadd

theorem BuiltIn.ite {p : Prop} [Decidable p]
    (h : BuiltIn first) (h' : BuiltIn second) : BuiltIn (if p then first else second) := by
  split_ifs
  · exact h
  · exact h'

theorem builtIn_nil : BuiltIn [] := by simp [BuiltIn]

open BuiltIn

theorem builtIn_cniAddons (s : KubeOneCluster) : BuiltIn (cniAddons s) := by
  refine ite (by decide) (ite (by decide) ?_)
  split
  · intro add hadd
    rw [mem_singleton.mp hadd]
    show addonCNIWeavenet ∈ _
    decide
  · exact builtIn_nil

theorem builtIn_featureAddons (s : KubeOneCluster) : BuiltIn (featureAddons s) := by
  refine append (append (append (append (append
    (append (append ?_ ?_) (builtIn_cniAddons s)) ?_) ?_) ?_) ?_) ?_
  all_goals exact ite (by decide) builtIn_nil

variable {actions : List AddonAction}

theorem builtIn_ensureCSIAddons (h : BuiltIn actions) : BuiltIn (ensureCSIAddons s actions) := by
  refine ite h (append (append h ?_) (by decide))
  repeat refine ite (by decide) ?_
  exact builtIn_nil

theorem builtIn_ensureCCMAddons (h : BuiltIn actions) : BuiltIn (ensureCCMAddons s actions) := by
  refine append h ?_
  repeat refine ite (by decide) ?_
  exact builtIn_nil

theorem builtIn_collectAddons (s : KubeOneCluster) : BuiltIn (collectAddons s) := by
  have hcsi : BuiltIn (if !s.cloudProvider.disableBundledCSIDrivers then
      ensureCSIAddons s (featureAddons s) else featureAddons s) :=
    ite (builtIn_ensureCSIAddons (builtIn_featureAddons s)) (builtIn_featureAddons s)
  exact ite (builtIn_ensureCCMAddons hcsi) hcsi

theorem disabledAddons_builtIn (h : name ∈ disabledAddons s) :
    name ∈ embeddedAddons ++ otherAddons := by
  have hall : ∀ other ∈ [addonCoreDNSPDB, addonNodeLocalDNSCilium, addonNodeLocalDNS],
      other ∈ embeddedAddons ++ otherAddons := by decide
  refine hall name ?_
  unfold disabledAddons at h
  simp only [mem_append, mem_ite_nil_right, mem_singleton] at h
  rcases h with (⟨-, rfl⟩ | ⟨-, rfl⟩) | ⟨-, rfl⟩ <;> simp

/-! ### The probe -/

theorem probe_ensureAddonByName (name : String) (hsource : sourceOf s dirs other = some source)
    (w : World) :
    (other ≠ name → (ensureAddonByName s dirs (probe name) other w).2 = .success) ∧
      (other = name →
        .apply source name ∈ (ensureAddonByName s dirs (probe name) other w).1.log) := by
  rw [ensureAddonByName, addonByName_of_source s dirs _ _ _ _ _ hsource (fun _ => rfl)
    (fun _ _ => rfl)]
  exact probe_runApply (hasDir_of_sourceOf hsource) _

theorem probe_deleteAddonByName (h : other ∈ embeddedAddons ++ otherAddons) (w : World) :
    (deleteAddonByName s dirs (probe name) other w).2 = .success := by
  obtain ⟨source, hsource⟩ := exists_source_of_builtIn s dirs h
  rw [deleteAddonByName, addonByName_of_source s dirs _ _ _ _ _ hsource (fun _ => rfl)
    (fun _ _ => rfl)]
  exact probe_runDelete (hasDir_of_sourceOf hsource) _

theorem probe_support (f : Support) (w : World) :
    (support s dirs (probe name) other f w).2 = .success := by
  unfold support
  split
  · exact probe_deleteAddonByName (by decide) w
  · rfl
  · rfl
  · rfl

def Applied (name : String) (w : World) : Prop := ∃ source, .apply source name ∈ w.log

theorem Applied.mono (h : Applied name w) (hlog : w.log ⊆ w'.log) : Applied name w' := by
  obtain ⟨source, hin⟩ := h
  exact ⟨source, hlog hin⟩

theorem probe_addon {first : Stage World Failure} (hfirst : ∀ w, (first w).2 = .success)
    (hsource : sourceOf s dirs other = some source) (w : World) :
    (other ≠ name → (first.andThen (ensureAddonByName s dirs (probe name) other) w).2 = .success) ∧
      (other = name →
        Applied name (first.andThen (ensureAddonByName s dirs (probe name) other) w).1) := by
  rw [andThen_of_snd (hfirst w)]
  obtain ⟨hothers, hown⟩ := probe_ensureAddonByName name hsource (first w).1
  exact ⟨hothers, fun h => ⟨source, hown h⟩⟩

theorem probe_deployAddon {add : AddonAction} (hadd : add ∈ collectAddons s) (w : World) :
    (add.name ≠ name → (deployAddon s dirs (probe name) add w).2 = .success) ∧
      (add.name = name → Applied name (deployAddon s dirs (probe name) add w).1) := by
  obtain ⟨source, hsource⟩ := exists_source_of_builtIn s dirs (builtIn_collectAddons s add hadd)
  refine probe_addon (fun w => ?_) hsource w
  cases add.supportFn with
  | some f => exact probe_support f w
  | none => rfl

theorem probe_combinedAddon (hsource : sourceOf s dirs other = some source) (w : World) :
    (other ≠ name → (combinedAddon s dirs (probe name) other w).2 = .success) ∧
      (other = name → Applied name (combinedAddon s dirs (probe name) other w).1) := by
  refine probe_addon (fun w => ?_) hsource w
  split_ifs
  · exact probe_support _ w
  · rfl

theorem applied_andThen {first second : Stage World Failure}
    (hsecond : Stage.Relates (OnLog (· ⊆ ·)) second) (h : Applied name (first w).1) :
    Applied name (first.andThen second w).1 := by
  rcases hfirst : first w with ⟨t, r⟩
  rw [hfirst] at h
  by_cases hr : r = .success
  · subst hr
    rw [andThen_of_success hfirst]
    exact h.mono (hsecond t)
  · rw [andThen_of_ne hfirst hr]
    exact h

theorem relates_ensureUserAddons : Stage.Relates (OnLog (· ⊆ ·)) (ensureUserAddons s dirs env) := by
  have hsub := allows_subset
  rw [ensureUserAddons_eq]
  refine Stage.Relates.andThen hsub.onLog_trans (relates_gatherAddons hsub
    fun _ _ _ _ => trivial) (Stage.Relates.andThen hsub.onLog_trans (fun w => ?_)
      (relates_rootAddons hsub fun _ => trivial))
  exact relates_combinedStage hsub fun _ _ _ => trivial

theorem probe_applies_selected {add : AddonAction} (hadd : add ∈ collectAddons s)
    (hname : add.name = name) (c : Cluster) :
    Applied name (runAddons s dirs (probe name) c).1 := by
  have hsub := allows_subset
  have hdeploy : ∀ f ∈ (collectAddons s).map (deployAddon s dirs (probe name)), ∃ add,
      add ∈ collectAddons s ∧ f = deployAddon s dirs (probe name) add := by
    intro f hf
    obtain ⟨other, hother, rfl⟩ := mem_map.mp hf
    exact ⟨other, hother, rfl⟩
  refine applied_andThen relates_ensureUserAddons (applied_andThen ?_ ?_)
  · refine Stage.Relates.sequence hsub.onLog_refl hsub.onLog_trans fun f hf => ?_
    obtain ⟨other, -, rfl⟩ := mem_map.mp hf
    exact relates_deleteAddonByName hsub trivial
  · refine sequence_reaches (fun f hf w h => ?_) (fun f hf w => ?_)
      (mem_map_of_mem hadd) (fun w => (probe_deployAddon hadd w).2 hname) _
    · obtain ⟨other, hother, rfl⟩ := hdeploy f hf
      exact h.mono (relates_deployAddon hsub trivial (fun _ => trivial) w)
    · obtain ⟨other, hother, rfl⟩ := hdeploy f hf
      by_cases hsame : other.name = name
      · exact .inr ((probe_deployAddon hother w).2 hsame)
      · exact .inl ((probe_deployAddon hother w).1 hsame)

theorem probe_ensure (h : ∀ add ∈ collectAddons s, add.name ≠ name) (w : World) :
    (ensure s dirs (probe name) w).2 = .success := by
  have hcollect : (sequence ((collectAddons s).map (deployAddon s dirs (probe name))) w).2 =
      .success := by
    refine sequence_success (fun f hf w => ?_) w
    obtain ⟨add, hadd, rfl⟩ := mem_map.mp hf
    exact (probe_deployAddon hadd w).1 (h add hadd)
  rw [ensure, andThen_of_snd hcollect]
  refine sequence_success (fun f hf w => ?_) _
  obtain ⟨other, hother, rfl⟩ := mem_map.mp hf
  exact probe_deleteAddonByName (disabledAddons_builtIn hother) w

theorem probe_gatherAddons (name : String) (h : ¬ Blocked s dirs) (w : World) :
    (gatherAddons s dirs (probe name) w).2 = .success := by
  have hread : ∀ w, (readLocalAddons s dirs (probe name) w).2 = .success := by
    intro w
    simp only [readLocalAddons, probe]
    split_ifs <;> rfl
  have hdeclared : ∀ w, (sequence (s.declaredAddonsOnly.map
      (declaredAddon dirs (probe name))) w).2 = .success := by
    refine sequence_success fun f hf w => ?_
    obtain ⟨addon, haddon, rfl⟩ := mem_map.mp hf
    unfold declaredAddon
    split_ifs with hembedded hdelete
    · rfl
    · refine probe_runDelete ?_ w
      by_contra hdir
      exact h ⟨addon, haddon, hdelete, hembedded, Bool.eq_false_of_not_eq_true hdir⟩
    · rfl
  have happlier : ∀ w, (newAddonsApplier (probe name) w).2 = .success := fun _ => rfl
  rw [gatherAddons, andThen_of_snd (happlier w), andThen_of_snd rfl, andThen_of_snd (hread _)]
  exact hdeclared _

theorem probe_run (hselected : ∀ add ∈ collectAddons s, add.name ≠ name)
    (hblocked : ¬ Blocked s dirs) (c : Cluster) :
    ∃ w, (∀ other, other ∈ w.combinedAddons ↔ UserAddon s dirs other) ∧
      runAddons s dirs (probe name) c = (combinedStage s dirs (probe name)).andThen
        (rootAddons s dirs (probe name)) w := by
  set t := (ensure s dirs (probe name) { cluster := c }).1
  have hgather : gatherAddons s dirs (probe name) t =
      ((gatherAddons s dirs (probe name) t).1, .success) := by
    rw [← probe_gatherAddons name hblocked t]
  refine ⟨(gatherAddons s dirs (probe name) t).1, (gatherAddons_success hgather).1, ?_⟩
  rw [runAddons, andThen_of_snd (probe_ensure hselected _), ensureUserAddons_eq,
    andThen_of_success hgather]

theorem probe_applies_userAddon (hselected : ∀ add ∈ collectAddons s, add.name ≠ name)
    (hblocked : ¬ Blocked s dirs) (huser : UserAddon s dirs name)
    (hsource : sourceOf s dirs name = some source) (c : Cluster) :
    Applied name (runAddons s dirs (probe name) c).1 := by
  have hsub := allows_subset
  obtain ⟨w, hcombined, hrun⟩ := probe_run hselected hblocked c
  rw [hrun]
  refine applied_andThen (relates_rootAddons hsub fun _ => trivial) ?_
  have hmem : name ∈ w.combinedAddons.filter (· = name) := by
    simpa using (hcombined name).mpr huser
  obtain ⟨rest, hfilter⟩ : ∃ rest, w.combinedAddons.filter (· = name) = name :: rest := by
    cases hfilter : w.combinedAddons.filter (· = name) with
    | nil =>
      rw [hfilter] at hmem
      cases hmem
    | cons first rest =>
      have hfirst : first ∈ w.combinedAddons.filter (· = name) := by
        rw [hfilter]
        exact mem_cons_self
      obtain rfl : first = name := by simpa using (mem_filter.mp hfirst).2
      exact ⟨rest, rfl⟩
  obtain ⟨rest', horder⟩ : ∃ rest', (probe name).order w.combinedAddons = name :: rest' := by
    refine ⟨rest ++ w.combinedAddons.filter fun other => !decide (other = name), ?_⟩
    show w.combinedAddons.filter (· = name) ++ _ = _
    rw [hfilter, cons_append]
  unfold combinedStage
  rw [horder, map_cons, Stage.sequence]
  refine applied_andThen ?_ ((probe_combinedAddon hsource w).2 rfl)
  refine Stage.Relates.sequence hsub.onLog_refl hsub.onLog_trans fun f hf => ?_
  obtain ⟨other, -, rfl⟩ := mem_map.mp hf
  exact relates_combinedAddon hsub fun _ => trivial

theorem probe_combinedStage (hcombined : ∀ other, other ∈ w.combinedAddons ↔ UserAddon s dirs other)
    (hincomplete : ¬ Incomplete s dirs) (huser : ¬ UserAddon s dirs name) :
    (combinedStage s dirs (probe name) w).2 = .success := by
  refine sequence_success (fun f hf w' => ?_) w
  obtain ⟨other, hother, rfl⟩ := mem_map.mp hf
  replace hother : UserAddon s dirs other :=
    (hcombined other).mp (((probe name).order_perm _).mem_iff.mp hother)
  obtain ⟨source, hsource⟩ : ∃ source, sourceOf s dirs other = some source := by
    cases hsource : sourceOf s dirs other with
    | none => exact absurd ⟨other, hother, hsource⟩ hincomplete
    | some source => exact ⟨source, rfl⟩
  refine (probe_combinedAddon hsource w').1 ?_
  rintro rfl
  exact huser hother

theorem probe_applies_root (hselected : ∀ add ∈ collectAddons s, add.name ≠ "")
    (hblocked : ¬ Blocked s dirs) (hincomplete : ¬ Incomplete s dirs)
    (huser : ¬ UserAddon s dirs "") (hlocal : s.hasLocalFS = true) (c : Cluster) :
    Applied "" (runAddons s dirs (probe "") c).1 := by
  obtain ⟨w, hcombined, hrun⟩ := probe_run hselected hblocked c
  rw [hrun, andThen_of_snd (probe_combinedStage hcombined hincomplete huser), rootAddons,
    if_pos hlocal]
  have hroot : (dirs.fs .localFS).hasDir "" = true := dirs.localDir.root
  exact ⟨.localFS, (probe_runApply hroot _).2 rfl⟩

theorem probe_keeps_embedded (source : Source)
    (hselected : ∀ add ∈ collectAddons s, add.name ≠ name)
    (hblocked : ¬ Blocked s dirs) (hincomplete : ¬ Incomplete s dirs)
    (hembedded : name ∈ embeddedAddons) (hclean : ¬ CleanedUp s name) (c : Cluster) :
    (runAddons s dirs (probe name) c).2 = .success ∧
      ∀ d, .delete source name d ∉ (runAddons s dirs (probe name) c).1.log := by
  have hQ := allows_noDelete name
  have huser : ¬ UserAddon s dirs name := fun h => h.1 hembedded
  obtain ⟨w, hcombined, hrun⟩ := probe_run hselected hblocked c
  constructor
  · have hne : "" ≠ name := by
      rintro rfl
      revert hembedded
      decide
    rw [hrun, andThen_of_snd (probe_combinedStage hcombined hincomplete huser), rootAddons]
    split_ifs
    · have hroot : (dirs.fs .localFS).hasDir "" = true := dirs.localDir.root
      exact (probe_runApply hroot _).1 hne
    · rfl
  · have hensure : Stage.Relates (OnLog (NoDelete name)) (ensure s dirs (probe name)) := by
      refine relates_ensure hQ (fun _ _ => trivial) fun other hother => ?_
      rintro rfl
      exact hclean hother
    have hgather : Stage.Relates (OnLog (NoDelete name)) (gatherAddons s dirs (probe name)) := by
      refine relates_gatherAddons hQ fun addon _ _ hother => ?_
      rintro rfl
      exact hother hembedded
    have hlog : Stage.Relates (OnLog (NoDelete name))
        ((ensure s dirs (probe name)).andThen (ensureUserAddons s dirs (probe name))) := by
      rw [ensureUserAddons_eq]
      refine Stage.Relates.andThen hQ.onLog_trans hensure (Stage.Relates.andThen hQ.onLog_trans
        hgather (Stage.Relates.andThen hQ.onLog_trans (fun w => ?_)
          (relates_rootAddons hQ fun _ => trivial)))
      exact relates_combinedStage hQ fun _ _ _ => trivial
    intro d hin
    cases hlog { cluster := c } _ _ hin

/-- For an addon that is declared to be deleted: no run applies it and every run that succeeds has
deleted its objects, exactly under the condition. -/
theorem declared_delete_honoured_iff (s : KubeOneCluster) (dirs : Directories) (name : String)
    (hdeclared : ⟨name, true⟩ ∈ s.declaredAddonsOnly) :
    Honoured s dirs name ↔ Deletable s dirs name := by
  constructor
  · intro h
    have hnot : ∀ c, ¬ Applied name (runAddons s dirs (probe name) c).1 := by
      rintro c ⟨source, hin⟩
      exact (h (probe name) c).1 source hin
    have hselected : ∀ add ∈ collectAddons s, add.name ≠ name := fun add hadd hname =>
      hnot empty (probe_applies_selected hadd hname _)
    have huser : Blocked s dirs ∨ ¬ (UserAddon s dirs name ∧ sourceOf s dirs name ≠ none) := by
      by_contra hno
      obtain ⟨hblocked, hno⟩ := not_or.mp hno
      obtain ⟨huser, hsome⟩ := not_not.mp hno
      obtain ⟨source, hsource⟩ := Option.ne_none_iff_exists'.mp hsome
      exact hnot empty
        (probe_applies_userAddon hselected hblocked huser hsource _)
    refine ⟨hselected, huser, ?_, ?_⟩
    · by_contra hno
      obtain ⟨hblocked, hno⟩ := not_or.mp hno
      obtain ⟨hincomplete, hno⟩ := not_or.mp hno
      obtain ⟨rfl, hlocal⟩ := Classical.not_imp.mp hno
      have hroot : ¬ UserAddon s dirs "" := fun hin => huser.resolve_left hblocked
        ⟨hin, fun hnone => hincomplete ⟨"", hin, hnone⟩⟩
      exact hnot empty
        (probe_applies_root hselected hblocked hincomplete hroot (by simpa using hlocal) _)
    · by_contra hno
      obtain ⟨hblocked, hno⟩ := not_or.mp hno
      obtain ⟨hincomplete, hno⟩ := not_or.mp hno
      obtain ⟨hembedded, hclean⟩ := Classical.not_imp.mp hno
      obtain ⟨source, hsource⟩ := exists_source_of_builtIn s dirs (mem_append_left _ hembedded)
      obtain ⟨hsuccess, hkept⟩ := probe_keeps_embedded source hselected hblocked
        hincomplete hembedded hclean empty
      have hloads : load dirs (probe name) 0 source name =
          .ok [⟨⟨"", "v1", "ConfigMap"⟩, "", "probe", [], []⟩] := by
        simp [load, hasDir_of_sourceOf hsource, probe]
      obtain ⟨d, hin, -⟩ := (h (probe name) empty).2 hsuccess source hsource
        ⟨0, _, hloads, by simp⟩ fun d hin => absurd hin (hkept d)
      exact hkept d hin
  · intro h env c
    refine ⟨h.not_applied env c, fun hsuccess source hsource _ hreached => ?_⟩
    exact (h.ran hdeclared hsource (Prod.ext rfl hsuccess)).deleted hreached

/-! ### Runs -/

namespace Defrag

open NativeClient.Addon

def directory (names : List String) : FS where
  entries := names.map fun name => ⟨name, true⟩
  hasDir name := name = "" || name ∈ names
  root := by simp
  listed := by
    simp only [List.mem_map, Bool.or_eq_true, decide_eq_true_eq]
    rintro e ⟨name, hname, rfl⟩ -
    exact .inr hname

def directories : Directories where
  localDir := directory ["etcd-defrag"]
  embeddedDir := directory (embeddedAddons ++ otherAddons ++ ["etcd-defrag"])
  builtIn := by decide

def cluster (path : String) : KubeOneCluster where
  cni := { canal := true }
  addons := some ⟨path, [⟨some ⟨"etcd-defrag", true⟩⟩]⟩

def environment : RunEnvironment where
  digest _ := ""
  render _ _ name := .ok (if name = "etcd-defrag" then
    [⟨configMap, "kube-system", "etcd-defrag", [], []⟩] else [])
  newApplier _ := true
  readDir _ _ := true
  supports _ := true
  changes _ c := c
  client _ := some { server := apiServer, apply := { rest := inTurn 1 } }
  order names := names
  order_perm names := .refl names

def config : ObjectRef := ⟨configMap.groupKind, "kube-system", "etcd-defrag"⟩

/-- The embedded version is deleted, and then the local version is applied. -/
theorem local_version_is_applied :
    ⟨"etcd-defrag", true⟩ ∈ (cluster "./addons").declaredAddonsOnly ∧
      (runAddons (cluster "./addons") directories environment empty).2 = .success ∧
      ((runAddons (cluster "./addons") directories environment empty).1.cluster.find?
        config).isSome ∧
      ¬ Honoured (cluster "./addons") directories "etcd-defrag" := by
  have happlied : (runAddons (cluster "./addons") directories environment empty).1.log.any
      (fun op => match op with
        | .apply _ name => name = "etcd-defrag"
        | .delete .. => false) = true := by decide +kernel
  refine ⟨by decide, by decide +kernel, by decide +kernel, fun h => ?_⟩
  obtain ⟨op, hop, hname⟩ := any_eq_true.mp happlied
  cases op with
  | apply source name =>
    obtain rfl : name = "etcd-defrag" := of_decide_eq_true hname
    exact (h environment empty).1 source hop
  | delete => cases hname

/-- Without a directory of the user the addon is deleted. -/
theorem embedded_version_is_deleted : Honoured (cluster "") directories "etcd-defrag" := by
  refine (declared_delete_honoured_iff _ _ _ (by decide)).mpr ⟨by decide, .inr ?_, ?_, ?_⟩
  · rintro ⟨⟨-, ⟨hlocal, -⟩ | hdeclared⟩, -⟩
    · revert hlocal
      decide
    · revert hdeclared
      decide
  · exact .inr (.inr (by decide))
  · exact .inr (.inr fun hembedded => absurd hembedded (by decide))

end Defrag

end KubeOne.Addons
