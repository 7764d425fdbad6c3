import KubeOne.Addons.Ensure

/-! What becomes of an addon that is declared to be deleted. Features select addons without a look
at the declaration, a local directory of the name is applied whatever is declared, and addons that
are skipped among those of the user are not deleted either. -/

namespace KubeOne.Addons

open Process NativeClient Resources List Stage

variable {s : KubeOneCluster} {dirs : Directories} {env : RunEnvironment} {w w' : World}
  {r : Status Failure} {name : String} {source : Source}

section ByName

variable (s dirs env) (operation : String) (run : Source → String → Stage World Failure)
  (name : String) (w : World)

theorem addonByName_eq :
    (∃ errors, addonByName s dirs env operation run name w = (w.tick, .failed errors)) ∨
      ∃ source, sourceOf s dirs name = some source ∧
        addonByName s dirs env operation run name w = run source name w.tick := by
  unfold addonByName newAddonsApplier andThen
  by_cases happlier : env.newApplier w.clock = true
  · simp only [happlier, if_true]
    by_cases hread : (s.hasLocalFS && !env.readDir w.tick.clock .localFS) = true
    · simp only [hread, if_true]
      exact .inl ⟨_, rfl⟩
    · simp only [hread]
      rcases hsource : sourceOf s dirs name with _ | _ | _ <;>
        by_cases hembedded : env.readDir w.tick.clock .embeddedFS = true <;>
        simp [hembedded]
  · simp only [happlier]
    exact .inl ⟨_, rfl⟩

theorem addonByName_of_source {source : Source} (hsource : sourceOf s dirs name = some source)
    (happlier : ∀ step, env.newApplier step = true)
    (hread : ∀ step source, env.readDir step source = true) :
    addonByName s dirs env operation run name w = run source name w.tick := by
  unfold addonByName newAddonsApplier andThen
  cases source <;> simp [happlier, hread, hsource]

end ByName

/-- The addon is deleted since its feature is off, or by a migration. -/
def CleanedUp (s : KubeOneCluster) (name : String) : Prop :=
  name ∈ disabledAddons s ∨ name = addonCCMPacket ∧
    ∃ add ∈ collectAddons s, add.supportFn = some .migratePacketToEquinixCCM

def OnLog (Q : List Operation → List Operation → Prop) (w w' : World) : Prop := Q w.log w'.log

/-- A relation that allows for the applies of some addons and for the deletes of some. -/
structure Allows (Q : List Operation → List Operation → Prop) (P D : String → Prop) : Prop where
  refl : ∀ log, Q log log
  trans : ∀ log log' log'', Q log log' → Q log' log'' → Q log log''
  apply : ∀ log source name, P name → Q log (log ++ [.apply source name])
  delete : ∀ log source name deletion, D name → Q log (log ++ [.delete source name deletion])

theorem allows_subset : Allows (· ⊆ ·) (fun _ => True) fun _ => True where
  refl log := List.Subset.refl log
  trans _ _ _ h h' := List.Subset.trans h h'
  apply _ _ _ _ := subset_append_left _ _
  delete _ _ _ _ _ := subset_append_left _ _

def NoApply (name : String) (log log' : List Operation) : Prop :=
  ∀ source, .apply source name ∈ log' → .apply source name ∈ log

theorem allows_noApply (name : String) : Allows (NoApply name) (· ≠ name) (fun _ => True) where
  refl _ _ h := h
  trans _ _ _ h h' source hin := h source (h' source hin)
  apply log source other hne source' hin := by
    rcases mem_append.mp hin with hin | hin
    · exact hin
    · simp only [mem_singleton, Operation.apply.injEq] at hin
      exact absurd hin.2.symm hne
  delete log source other deletion _ source' hin := by
    rcases mem_append.mp hin with hin | hin
    · exact hin
    · simp at hin

def NoDelete (name : String) (log log' : List Operation) : Prop :=
  ∀ source deletion, .delete source name deletion ∈ log' → .delete source name deletion ∈ log

theorem allows_noDelete (name : String) : Allows (NoDelete name) (fun _ => True) (· ≠ name) where
  refl _ _ _ h := h
  trans _ _ _ h h' _ _ hin := h _ _ (h' _ _ hin)
  apply log source other _ _ _ hin := by
    rcases mem_append.mp hin with hin | hin
    · exact hin
    · simp at hin
  delete log source other deletion hne _ _ hin := by
    rcases mem_append.mp hin with hin | hin
    · exact hin
    · simp only [mem_singleton, Operation.delete.injEq] at hin
      exact absurd hin.2.1.symm hne

section Allows

variable {Q : List Operation → List Operation → Prop} {P D : String → Prop} (hQ : Allows Q P D)

include hQ

theorem Allows.of_log_eq (h : w'.log = w.log) : OnLog Q w w' := by
  rw [OnLog, h]
  exact hQ.refl _

theorem Allows.onLog_refl (w : World) : OnLog Q w w := hQ.refl _

theorem Allows.onLog_trans : ∀ w w' w'' : World, OnLog Q w w' → OnLog Q w' w'' → OnLog Q w w'' :=
  fun _ _ _ h h' => hQ.trans _ _ _ h h'

theorem relates_runApply (hname : P name) : Relates (OnLog Q) (runApply dirs env source name) := by
  intro w
  simp only [runApply, OnLog]
  split
  · exact hQ.apply _ _ _ hname
  · rw [append_nil]
    exact hQ.refl _

theorem relates_runDelete (hname : D name) :
    Relates (OnLog Q) (runDelete dirs env source name) := by
  intro w
  simp only [runDelete, OnLog]
  split
  · exact hQ.delete _ _ _ _ hname
  · rw [append_nil]
    exact hQ.refl _

theorem relates_newAddonsApplier : Relates (OnLog Q) (newAddonsApplier env) :=
  fun _ => hQ.of_log_eq rfl

theorem relates_addonByName {operation : String} {run : Source → String → Stage World Failure}
    (h : ∀ source, sourceOf s dirs name = some source → Relates (OnLog Q) (run source name)) :
    Relates (OnLog Q) (addonByName s dirs env operation run name) := by
  intro w
  rcases addonByName_eq s dirs env operation run name w with ⟨errors, heq⟩ | ⟨source, hsource, heq⟩
  · rw [heq]
    exact hQ.of_log_eq rfl
  · rw [heq]
    exact h source hsource w.tick

theorem relates_ensureAddonByName (h : sourceOf s dirs name ≠ none → P name) :
    Relates (OnLog Q) (ensureAddonByName s dirs env name) := by
  refine relates_addonByName hQ fun source hsource => ?_
  exact relates_runApply hQ (h (by simp [hsource]))

theorem relates_deleteAddonByName (hname : D name) :
    Relates (OnLog Q) (deleteAddonByName s dirs env name) :=
  relates_addonByName hQ fun _ _ => relates_runDelete hQ hname

theorem relates_support {f : Support} (h : f = .migratePacketToEquinixCCM → D addonCCMPacket) :
    Relates (OnLog Q) (support s dirs env name f) := by
  unfold support
  split
  · exact relates_deleteAddonByName hQ (h rfl)
  · exact fun _ => hQ.of_log_eq rfl
  · exact fun _ => hQ.of_log_eq rfl
  · exact fun _ => hQ.of_log_eq rfl

theorem relates_deployAddon {add : AddonAction} (h : P add.name)
    (hpacket : add.supportFn = some .migratePacketToEquinixCCM → D addonCCMPacket) :
    Relates (OnLog Q) (deployAddon s dirs env add) := by
  refine Relates.andThen hQ.onLog_trans ?_ (relates_ensureAddonByName hQ fun _ => h)
  cases hsupport : add.supportFn with
  | some f => exact relates_support hQ fun hf => hpacket (by rw [hsupport, hf])
  | none => exact fun _ => hQ.of_log_eq rfl

theorem relates_ensure (h : ∀ add ∈ collectAddons s, P add.name)
    (hclean : ∀ name, CleanedUp s name → D name) :
    Relates (OnLog Q) (ensure s dirs env) := by
  refine Relates.andThen hQ.onLog_trans ?_ ?_
  · refine Relates.sequence hQ.onLog_refl hQ.onLog_trans fun f hf => ?_
    obtain ⟨add, hadd, rfl⟩ := mem_map.mp hf
    exact relates_deployAddon hQ (h add hadd) fun hpacket =>
      hclean _ (.inr ⟨rfl, add, hadd, hpacket⟩)
  · refine Relates.sequence hQ.onLog_refl hQ.onLog_trans fun f hf => ?_
    obtain ⟨name, hname, rfl⟩ := mem_map.mp hf
    exact relates_deleteAddonByName hQ (hclean name (.inl hname))

theorem relates_declaredAddon {addon : Addon}
    (h : addon.delete = true → addon.name ∉ embeddedAddons → D addon.name) :
    Relates (OnLog Q) (declaredAddon dirs env addon) := by
  unfold declaredAddon
  split_ifs with hembedded hdelete
  · exact fun _ => hQ.of_log_eq rfl
  · exact relates_runDelete hQ (h hdelete hembedded)
  · intro w
    refine hQ.of_log_eq ?_
    simp only [World.combine]
    split_ifs <;> rfl

theorem relates_combinedAddon (h : sourceOf s dirs name ≠ none → P name) :
    Relates (OnLog Q) (combinedAddon s dirs env name) := by
  refine Relates.andThen hQ.onLog_trans ?_ (relates_ensureAddonByName hQ h)
  split_ifs
  · exact relates_support hQ (by simp)
  · exact fun _ => hQ.of_log_eq rfl

theorem relates_rootAddons (h : s.hasLocalFS = true → P "") :
    Relates (OnLog Q) (rootAddons s dirs env) := by
  unfold rootAddons
  split_ifs with hlocal
  · exact relates_runApply hQ (h hlocal)
  · exact fun _ => hQ.of_log_eq rfl

end Allows

/-- The addons that a run applies for the user. -/
def UserAddon (s : KubeOneCluster) (dirs : Directories) (name : String) : Prop :=
  name ∉ embeddedAddons ∧
    (s.hasLocalFS = true ∧ dirs.localDir.lists name = true ∨ ⟨name, false⟩ ∈ s.declaredAddonsOnly)

def Blocked (s : KubeOneCluster) (dirs : Directories) : Prop :=
  ∃ addon ∈ s.declaredAddonsOnly, addon.delete = true ∧ addon.name ∉ embeddedAddons ∧
    dirs.embeddedDir.hasDir addon.name = false

def Incomplete (s : KubeOneCluster) (dirs : Directories) : Prop :=
  ∃ name, UserAddon s dirs name ∧ sourceOf s dirs name = none

theorem mem_combine {other : String} : other ∈ (w.combine name).combinedAddons ↔
    other ∈ w.combinedAddons ∨ other = name := by
  unfold World.combine
  split_ifs with hin
  · refine (or_iff_left_of_imp ?_).symm
    rintro rfl
    exact hin
  · rw [mem_append, mem_singleton]

@[simp] theorem combine_log (w : World) (name : String) : (w.combine name).log = w.log := by
  unfold World.combine
  split_ifs <;> rfl

theorem mem_foldl_collectLocal {entries : List DirEntry} :
    name ∈ (entries.foldl collectLocal w).combinedAddons ↔ name ∈ w.combinedAddons ∨
      name ∉ embeddedAddons ∧ entries.any (fun e => e.isDir && e.name = name) = true := by
  induction entries generalizing w with
  | nil => simp
  | cons e entries ih =>
    rw [foldl_cons, ih, any_cons, Bool.or_eq_true, Bool.and_eq_true, decide_eq_true_eq]
    unfold collectLocal
    split_ifs with hdir hembedded
    · have hfile : e.isDir ≠ true := by simpa using hdir
      simp [hfile]
    · constructor
      · rintro (hin | ⟨hnot, hany⟩)
        · exact .inl hin
        · exact .inr ⟨hnot, .inr hany⟩
      · rintro (hin | ⟨hnot, ⟨-, rfl⟩ | hany⟩)
        · exact .inl hin
        · exact absurd hembedded hnot
        · exact .inr ⟨hnot, hany⟩
    · have hdir : e.isDir = true := by simpa using hdir
      rw [mem_combine]
      constructor
      · rintro ((hin | rfl) | ⟨hnot, hany⟩)
        · exact .inl hin
        · exact .inr ⟨hembedded, .inl ⟨hdir, rfl⟩⟩
        · exact .inr ⟨hnot, .inr hany⟩
      · rintro (hin | ⟨hnot, ⟨-, rfl⟩ | hany⟩)
        · exact .inl (.inl hin)
        · exact .inl (.inr rfl)
        · exact .inr ⟨hnot, hany⟩

theorem foldl_collectLocal_log (entries : List DirEntry) (w : World) :
    (entries.foldl collectLocal w).log = w.log := by
  induction entries generalizing w with
  | nil => rfl
  | cons e entries ih =>
    rw [foldl_cons, ih, collectLocal]
    split_ifs
    · rfl
    · rfl
    · rw [combine_log]

@[simp] theorem runDelete_combinedAddons (dirs : Directories) (env : RunEnvironment)
    (source : Source) (name : String) (w : World) :
    (runDelete dirs env source name w).1.combinedAddons = w.combinedAddons := rfl

theorem declaredAddons_combined {addons : List Addon}
    (h : sequence (addons.map (declaredAddon dirs env)) w = (w', .success)) :
    name ∈ w'.combinedAddons ↔ name ∈ w.combinedAddons ∨
      name ∉ embeddedAddons ∧ ⟨name, false⟩ ∈ addons := by
  induction addons generalizing w with
  | nil =>
    cases h
    simp
  | cons addon addons ih =>
    obtain ⟨t, hfirst, hrest⟩ := of_andThen_success h
    have hstep : name ∈ t.combinedAddons ↔ name ∈ w.combinedAddons ∨
        name ∉ embeddedAddons ∧ ⟨name, false⟩ = addon := by
      unfold declaredAddon at hfirst
      obtain ⟨other, delete⟩ := addon
      split_ifs at hfirst with hembedded hdelete
      · cases hfirst
        refine (or_iff_left_of_imp ?_).symm
        rintro ⟨hnot, heq⟩
        cases heq
        exact absurd hembedded hnot
      · have hsame : t.combinedAddons = w.combinedAddons := by
          rw [← runDelete_combinedAddons dirs env .embeddedFS other w, hfirst]
        rw [hsame]
        refine (or_iff_left_of_imp ?_).symm
        rintro ⟨-, heq⟩
        cases heq
        cases hdelete
      · cases hfirst
        have hkept : delete = false := by simpa using hdelete
        rw [mem_combine]
        refine or_congr_right ?_
        constructor
        · rintro rfl
          exact ⟨hembedded, by rw [hkept]⟩
        · rintro ⟨-, heq⟩
          cases heq
          rfl
    rw [ih hrest, hstep, mem_cons, or_assoc, ← and_or_left]

def gatherAddons (s : KubeOneCluster) (dirs : Directories) (env : RunEnvironment) :
    Stage World Failure :=
  (newAddonsApplier env).andThen <|
  Stage.andThen (fun w => ({ w with combinedAddons := [] }, .success)) <|
  (readLocalAddons s dirs env).andThen <|
  Stage.sequence (s.declaredAddonsOnly.map (declaredAddon dirs env))

def combinedStage (s : KubeOneCluster) (dirs : Directories) (env : RunEnvironment) :
    Stage World Failure := fun w =>
  Stage.sequence ((env.order w.combinedAddons).map (combinedAddon s dirs env)) w

theorem ensureUserAddons_eq : ensureUserAddons s dirs env = (gatherAddons s dirs env).andThen
    ((combinedStage s dirs env).andThen (rootAddons s dirs env)) := by
  simp only [gatherAddons, andThen_assoc]
  rfl

variable {Q : List Operation → List Operation → Prop}

theorem relates_gatherAddons {P D : String → Prop}
    (hQ : Allows Q P D) (h : ∀ addon ∈ s.declaredAddonsOnly, addon.delete = true →
      addon.name ∉ embeddedAddons → D addon.name) :
    Relates (OnLog Q) (gatherAddons s dirs env) := by
  refine Relates.andThen hQ.onLog_trans (relates_newAddonsApplier hQ) <|
    Relates.andThen hQ.onLog_trans (fun _ => hQ.of_log_eq rfl) <|
    Relates.andThen hQ.onLog_trans (fun w => hQ.of_log_eq ?_) <|
    Relates.sequence hQ.onLog_refl hQ.onLog_trans fun f hf => ?_
  · unfold readLocalAddons
    split_ifs
    · exact foldl_collectLocal_log _ _
    · rfl
    · rfl
  · obtain ⟨addon, haddon, rfl⟩ := mem_map.mp hf
    exact relates_declaredAddon hQ (h addon haddon)

theorem gatherAddons_success (h : gatherAddons s dirs env w = (w', .success)) :
    (∀ name, name ∈ w'.combinedAddons ↔ UserAddon s dirs name) ∧
      ∃ t, sequence (s.declaredAddonsOnly.map (declaredAddon dirs env)) t = (w', .success) := by
  obtain ⟨w₁, -, h⟩ := of_andThen_success h
  obtain ⟨w₂, hreset, h⟩ := of_andThen_success h
  obtain ⟨w₃, hread, h⟩ := of_andThen_success h
  refine ⟨fun name => ?_, w₃, h⟩
  have hlocal : name ∈ w₃.combinedAddons ↔
      name ∉ embeddedAddons ∧ s.hasLocalFS = true ∧ dirs.localDir.lists name = true := by
    cases hreset
    unfold readLocalAddons at hread
    by_cases hfs : s.hasLocalFS = true
    · rw [if_pos hfs] at hread
      split_ifs at hread
      · cases hread
        rw [mem_foldl_collectLocal]
        simp [FS.lists, hfs]
      · cases hread
    · rw [if_neg hfs] at hread
      cases hread
      simp [hfs]
  rw [declaredAddons_combined h, hlocal, UserAddon, ← and_or_left]

theorem not_blocked_of_gatherAddons (h : gatherAddons s dirs env w = (w', .success)) :
    ¬ Blocked s dirs := by
  rintro ⟨addon, haddon, hdelete, hembedded, hdir⟩
  obtain ⟨-, t, h⟩ := gatherAddons_success h
  obtain ⟨t₁, t₂, hsuccess, -⟩ := exists_of_mem_sequence (R := fun _ _ => True)
    (fun _ => trivial) (fun _ _ _ _ _ => trivial) (fun _ _ _ => trivial)
    (mem_map_of_mem haddon) h
  rw [declaredAddon, if_neg hembedded, if_pos hdelete] at hsuccess
  simp [runDelete, load, Directories.fs, hdir, loadAndDeleteAddon, getManifestsFromDirectory,
    Except.map] at hsuccess

namespace Deletion

/-- The reference is that of an object of the manifests. -/
def Describes (d : Deletion) (ref : ObjectRef) : Prop :=
  ∃ client, d.client = some client ∧ client.server.Targets d.manifests ref

/-- The client finds the kinds of the objects, and where there is an object under one of their
references, it has the label of the addon. -/
def Reaches (digest : String → String) (name : String) (d : Deletion) : Prop :=
  ∀ ref, d.Describes ref → Deletes digest d.client (.ok d.manifests) name ref ∧
    ∀ o ∈ d.before.objects, o.ref = ref → addonSelector name o.labels = true

end Deletion

def Reached (digest : String → String) (source : Source) (name : String) (w : World) : Prop :=
  ∀ d, .delete source name d ∈ w.log → d.Reaches digest name

/-- A delete has succeeded and no object of its manifests is left, other than on its way out. -/
def Deleted (source : Source) (name : String) (w : World) : Prop :=
  ∃ d, .delete source name d ∈ w.log ∧ d.status = .success ∧
    ∀ ref, d.Describes ref → ∀ o ∈ d.after.objects, o.ref = ref → o.deleting = true

/-- A delete that has succeeded, with what it does to the objects it reaches. -/
def Ran (digest : String → String) (source : Source) (name : String) (w : World) : Prop :=
  ∃ d, .delete source name d ∈ w.log ∧ d.status = .success ∧
    loadAndDeleteAddon digest d.client (.ok d.manifests) name d.before = (d.after, d.status)

theorem Ran.mono (h : Ran env.digest source name w) (hlog : w.log ⊆ w'.log) :
    Ran env.digest source name w' := by
  obtain ⟨d, hin, hd⟩ := h
  exact ⟨d, hlog hin, hd⟩

theorem Ran.deleted {digest : String → String} (h : Ran digest source name w)
    (hreached : Reached digest source name w) : Deleted source name w := by
  obtain ⟨d, hin, hsuccess, hd⟩ := h
  obtain ⟨hreaped, hgone⟩ := loadAndDeleteAddon_eq hd
  refine ⟨d, hin, hsuccess, fun ref href o ho horef => ?_⟩
  obtain ⟨hdeletes, hlabels⟩ := hreached d hin ref href
  rcases hreaped.survivors o ho with hold | hdeleting
  · exact hgone hsuccess ref hdeletes o ho horef (hlabels o hold horef)
  · exact hdeleting

theorem ran_of_runDelete (h : runDelete dirs env source name w = (w', .success)) :
    Ran env.digest source name w' := by
  unfold runDelete at h
  rcases hload : load dirs env w.clock source name with e | manifests
  · rw [hload] at h
    cases h
  · rw [hload] at h
    rcases hdone : loadAndDeleteAddon env.digest (env.client w.clock) (.ok manifests) name
      w.cluster with ⟨after, status⟩
    simp only [hdone, Prod.mk.injEq] at h
    obtain ⟨rfl, rfl⟩ := h
    exact ⟨_, mem_append_right _ (mem_singleton_self _), rfl, hdone⟩

theorem ran_of_deleteAddonByName
    (h : deleteAddonByName s dirs env name w = (w', .success)) :
    ∃ source, sourceOf s dirs name = some source ∧ Ran env.digest source name w' := by
  rcases addonByName_eq s dirs env "deleting" (runDelete dirs env) name w with
    ⟨errors, heq⟩ | ⟨source, hsource, heq⟩
  · rw [deleteAddonByName, heq] at h
    cases h
  · rw [deleteAddonByName, heq] at h
    exact ⟨source, hsource, ran_of_runDelete h⟩

theorem ran_of_ensure (hclean : CleanedUp s name)
    (h : ensure s dirs env w = (w', .success)) :
    ∃ source, sourceOf s dirs name = some source ∧ Ran env.digest source name w' := by
  have hsub := allows_subset
  obtain ⟨t, hcollect, hcleanup⟩ := of_andThen_success h
  have hlater : ∀ {t₁}, (∃ source, sourceOf s dirs name = some source ∧
      Ran env.digest source name t₁) → t₁.log ⊆ w'.log →
        ∃ source, sourceOf s dirs name = some source ∧ Ran env.digest source name w' := by
    rintro t₁ ⟨source, hsource, hran⟩ hlog
    exact ⟨source, hsource, hran.mono hlog⟩
  have hstages : ∀ f ∈ (disabledAddons s).map (deleteAddonByName s dirs env),
      Relates (OnLog (· ⊆ ·)) f := by
    intro f hf
    obtain ⟨other, -, rfl⟩ := mem_map.mp hf
    exact relates_deleteAddonByName hsub trivial
  rcases hclean with hdisabled | ⟨rfl, add, hadd, hsupport⟩
  · obtain ⟨t₁, t₂, hdelete, hlog⟩ := exists_of_mem_sequence hsub.onLog_refl
      hsub.onLog_trans hstages (mem_map_of_mem hdisabled) hcleanup
    exact hlater (ran_of_deleteAddonByName hdelete) hlog
  · obtain ⟨t₁, t₂, hdeploy, hlog⟩ := exists_of_mem_sequence (R := OnLog (· ⊆ ·))
      hsub.onLog_refl hsub.onLog_trans (fun f hf => by
        obtain ⟨other, -, rfl⟩ := mem_map.mp hf
        exact relates_deployAddon hsub trivial fun _ => trivial) (mem_map_of_mem hadd) hcollect
    obtain ⟨t₃, hsupported, happly⟩ := of_andThen_success hdeploy
    rw [hsupport] at hsupported
    have hensure : Relates (OnLog (· ⊆ ·)) (ensureAddonByName s dirs env add.name) :=
      relates_ensureAddonByName hsub fun _ => trivial
    have hlog₁ := hensure t₃
    rw [happly] at hlog₁
    have hlog₂ := Relates.sequence hsub.onLog_refl hsub.onLog_trans hstages t
    rw [show sequence _ t = _ from hcleanup] at hlog₂
    exact hlater (ran_of_deleteAddonByName hsupported)
      (List.Subset.trans hlog₁ (List.Subset.trans hlog hlog₂))

theorem ran_of_gatherAddons (hdeclared : ⟨name, true⟩ ∈ s.declaredAddonsOnly)
    (hembedded : name ∉ embeddedAddons) (h : gatherAddons s dirs env w = (w', .success)) :
    Ran env.digest .embeddedFS name w' := by
  have hsub := allows_subset
  obtain ⟨-, t, h⟩ := gatherAddons_success h
  obtain ⟨t₁, t₂, hdelete, hlog⟩ := exists_of_mem_sequence (R := OnLog (· ⊆ ·))
    hsub.onLog_refl hsub.onLog_trans (fun f hf => by
      obtain ⟨addon, -, rfl⟩ := mem_map.mp hf
      exact relates_declaredAddon hsub fun _ _ => trivial) (mem_map_of_mem hdeclared) h
  rw [declaredAddon, if_neg hembedded, if_pos rfl] at hdelete
  exact (ran_of_runDelete hdelete).mono hlog

theorem not_incomplete_of_combinedStage {t : World}
    (hcombined : ∀ name, name ∈ w.combinedAddons ↔ UserAddon s dirs name)
    (h : combinedStage s dirs env w = (t, .success)) : ¬ Incomplete s dirs := by
  rintro ⟨name, huser, hnone⟩
  have hmem : combinedAddon s dirs env name ∈
      (env.order w.combinedAddons).map (combinedAddon s dirs env) :=
    mem_map_of_mem ((env.order_perm _).mem_iff.mpr ((hcombined name).mpr huser))
  obtain ⟨t₁, t₂, happly, -⟩ := exists_of_mem_sequence (R := fun _ _ => True)
    (fun _ => trivial) (fun _ _ _ _ _ => trivial) (fun _ _ _ => trivial) hmem h
  obtain ⟨t₃, -, happly⟩ := of_andThen_success happly
  rcases addonByName_eq s dirs env "installing" (runApply dirs env) name t₃ with
    ⟨errors, heq⟩ | ⟨source, hsource, -⟩
  · rw [ensureAddonByName, heq] at happly
    cases happly
  · rw [hnone] at hsource
    cases hsource

theorem relates_combinedStage {P D : String → Prop}
    (hQ : Allows Q P D) (hname : ∀ name ∈ w.combinedAddons, sourceOf s dirs name ≠ none → P name) :
    OnLog Q w (combinedStage s dirs env w).1 := by
  refine Relates.sequence hQ.onLog_refl hQ.onLog_trans (fun f hf => ?_) w
  obtain ⟨name, hmem, rfl⟩ := mem_map.mp hf
  exact relates_combinedAddon hQ (hname name ((env.order_perm _).mem_iff.mp hmem))

end KubeOne.Addons
