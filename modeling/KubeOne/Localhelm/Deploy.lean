import KubeOne.Localhelm.Release
import KubeOne.Process.Stage

/-! The deployment of the declared Helm releases: collect the revisions to uninstall, install or
upgrade, then uninstall. The first call that fails ends the run. Helm is a parameter that comes
with what it promises. -/

namespace KubeOne.Localhelm

open Process (bind_eq_ok)

/-- A successful install or upgrade of one release: the new revision and the storage. -/
structure Change (k : Key) where
  run : Storage → Revision × Storage
  newest : ∀ s, IsNewest (run s).1 ((run s).2.history k)
  deployed : ∀ s, (run s).1.status = .deployed
  frame : ∀ s k', k' ≠ k → (run s).2.history k' = s.history k'

structure Removal (k : Key) where
  run : Storage → Storage
  gone : ∀ s, (run s).history k = []
  frame : ∀ s k', k' ≠ k → (run s).history k' = s.history k'

structure Helm where
  install : (hr : HelmRelease) → Change hr.key
  upgrade : (hr : HelmRelease) → Change hr.key
  uninstall : (k : Key) → Removal k

/-- The errors of a run: an error that is passed on, or one with the operation that failed and
the arguments of its message. -/
inductive Failure
  | plain (err : String)
  | config (err op : String)
  | runtime (err op : String) (args : List String)

inductive ReleaseCall
  | createValues (i : ℕ)
  | copyValues (i : ℕ)
  | mergeValues
  | registryClient
  | init
  | history
  | getDryRunChart
  | dryRun
  | getChart
  | change
  | accessor
  | getSecret
  | patchSecret

inductive Call
  | download
  | createTemp
  | write
  | writeShort
  | actionConfiguration
  | client
  | list
  | release (i : ℕ) (call : ReleaseCall)
  | uninstallAccessor (i : ℕ)
  | uninstallInit (i : ℕ)
  | uninstall (i : ℕ)

abbrev Failures := Call → Option String

def attempt (fails : Failures) (call : Call) (wrap : String → Failure) : Except Failure Unit :=
  match fails call with
  | none => .ok ()
  | some err => .error (wrap err)

variable {wrap : String → Failure}

theorem attempt_eq_ok {fails : Failures} {call : Call} {u : Unit} :
    attempt fails call wrap = .ok u ↔ fails call = none := by
  unfold attempt
  cases fails call <;> simp

theorem attempt_bind_eq_ok {α : Type} {fails : Failures} {call : Call}
    {f : Unit → Except Failure α} {a : α} :
    (attempt fails call wrap >>= f) = .ok a ↔ fails call = none ∧ f () = .ok a := by
  rw [bind_eq_ok]
  exact ⟨fun ⟨_, h, hf⟩ => ⟨attempt_eq_ok.1 h, hf⟩, fun ⟨h, hf⟩ => ⟨(), attempt_eq_ok.2 h, hf⟩⟩

/-- A declared release, with what Helm renders for it when its turn comes. -/
structure Declaration where
  release : HelmRelease
  rendered : Rendered

abbrev Declaration.key (d : Declaration) : Key := d.release.key

inductive Event
  | installed (k : Key)
  | upgraded (k : Key)
  | skipped (k : Key)
  | uninstalled (k : Key)
  deriving DecidableEq

def Storage.setLabel (s : Storage) (k : Key) (version : ℕ) : Storage where
  revisions := s.revisions.map fun r =>
    if r.key = k ∧ r.version = version then { r with labelled := true } else r
  distinct := by
    have h : ∀ r ∈ s.revisions,
        (fun r : Revision => (r.key, r.version))
          (if r.key = k ∧ r.version = version then { r with labelled := true } else r) =
        (r.key, r.version) := by
      intro r _
      split <;> rfl
    rw [List.map_map]
    exact (List.map_congr_left h) ▸ s.distinct

def addReleaseSecretLabels (fails : Failures) (i : ℕ) (k : Key) (version : ℕ) (s : Storage) :
    Except Failure Storage := do
  attempt fails (.release i .getSecret)
    (.runtime · "getting secret object for the %s secret" [k.ns, k.name, toString version])
  if (s.history k).any (·.version = version) then
    attempt fails (.release i .patchSecret)
      (.runtime · "patching labels of helm release secret %s" [k.ns, k.name, toString version])
    return s.setLabel k version
  else
    .error (.runtime "not found" "getting secret object for the %s secret"
      [k.ns, k.name, toString version])

def installRelease (helm : Helm) (fails : Failures) (i : ℕ) (d : Declaration) (s : Storage) :
    Except Failure (Storage × Event) := do
  attempt fails (.release i .getChart) .plain
  attempt fails (.release i .change)
    (.runtime · "installing helm release %q from chart %q"
      [d.release.chart, d.release.releaseName])
  let changed := (helm.install d.release).run s
  attempt fails (.release i .accessor) (.runtime · "creating helm release accessor" [])
  let s' ← addReleaseSecretLabels fails i d.key changed.1.version changed.2
  return (s', .installed d.key)

/-- The chart is rendered in a dry run first, and nothing is done when the result equals the
newest stored revision. -/
def upgradeRelease (helm : Helm) (fails : Failures) (i : ℕ) (d : Declaration)
    (existingHelmReleases : List Revision) (s : Storage) : Except Failure (Storage × Event) := do
  attempt fails (.release i .getDryRunChart) .plain
  attempt fails (.release i .dryRun)
    (.runtime · "installing helm release %q from chart %q"
      [d.release.chart, d.release.releaseName])
  if helmReleasesEqual d.rendered existingHelmReleases then
    return (s, .skipped d.key)
  else
    attempt fails (.release i .getChart) .plain
    attempt fails (.release i .change)
      (.runtime · "upgrading helm release %q from chart %q"
        [d.release.chart, d.release.releaseName])
    let changed := (helm.upgrade d.release).run s
    attempt fails (.release i .accessor) (.runtime · "creating helm release accessor" [])
    let s' ← addReleaseSecretLabels fails i d.key changed.1.version changed.2
    return (s', .upgraded d.key)

def writeValues (fails : Failures) (i : ℕ) : ℕ → List HelmValues → Except Failure Unit
  | _, [] => .ok ()
  | j, v :: rest => do
    if v.inline.isSome then
      attempt fails (.release i (.createValues j))
        (.runtime · "creating temp file for helm inline values" [])
      attempt fails (.release i (.copyValues j))
        (.runtime · "copying helm inline values to the temp file" [])
      writeValues fails i (j + 1) rest
    else writeValues fails i (j + 1) rest

def deployRelease (helm : Helm) (fails : Failures) (i : ℕ) (d : Declaration) (s : Storage) :
    Except Failure (Storage × Event) := do
  writeValues fails i 0 d.release.values
  attempt fails (.release i .mergeValues) (.runtime · "merging helm values" [])
  attempt fails (.release i .registryClient) .plain
  attempt fails (.release i .init) (.runtime · "initializing helm action configuration" [])
  attempt fails (.release i .history) (.runtime · "helm releases history" [])
  if s.history d.key = [] then installRelease helm fails i d s
  else upgradeRelease helm fails i d (s.history d.key) s

def deployReleases (helm : Helm) (fails : Failures) :
    ℕ → List Declaration → Storage → Except Failure (Storage × List Event)
  | _, [], s => .ok (s, [])
  | i, d :: ds, s => do
    let turn ← deployRelease helm fails i d s
    let rest ← deployReleases helm fails (i + 1) ds turn.1
    return (rest.1, turn.2 :: rest.2)

/-- Helm does not find a release that has no revision. -/
def uninstallReleases (helm : Helm) (fails : Failures) :
    ℕ → List Revision → Storage → Except Failure (Storage × List Event)
  | _, [], s => .ok (s, [])
  | i, r :: toUninstall, s => do
    attempt fails (.uninstallAccessor i) (.runtime · "creating helm release accessor" [])
    attempt fails (.uninstallInit i) (.runtime · "initializing helm action configuration" [])
    attempt fails (.uninstall i)
      (.runtime · "uninstalling helm release %s/%s" [r.key.ns, r.key.name])
    if s.history r.key = [] then
      .error (.runtime "release: not found" "uninstalling helm release %s/%s"
        [r.key.ns, r.key.name])
    else
      let rest ← uninstallReleases helm fails (i + 1) toUninstall ((helm.uninstall r.key).run s)
      return (rest.1, .uninstalled r.key :: rest.2)

/-- The revisions that are collected for uninstalling, before anything is changed. -/
def releasesToUninstall (files : LocalFiles) (ds : List Declaration) (s : Storage) :
    List Revision :=
  s.revisions.filter (releasesFilterFn files (ds.map (·.release)))

/-- The run up to the loop over the collected revisions. -/
def deployDeclared (helm : Helm) (fails : Failures) (ds : List Declaration) (s : Storage) :
    Except Failure (Storage × List Event) := do
  attempt fails .download .plain
  attempt fails .createTemp (.runtime · "creating temp file for helm kubeconfig" [])
  attempt fails .write (.runtime · "wring temp file for helm kubeconfig" [])
  attempt fails .writeShort fun _ =>
    .runtime "incorrect number of bytes written to temp kubeconfig" "" []
  attempt fails .actionConfiguration .plain
  attempt fails .client (.config · "init new kubernetes client")
  attempt fails .list .plain
  deployReleases helm fails 0 ds s

def deploy (files : LocalFiles) (helm : Helm) (fails : Failures) (ds : List Declaration)
    (s : Storage) : Except Failure (Storage × List Event) := do
  let toUninstall := releasesToUninstall files ds s
  let deployed ← deployDeclared helm fails ds s
  let uninstalled ← uninstallReleases helm fails 0 toUninstall deployed.1
  return (uninstalled.1, deployed.2 ++ uninstalled.2)

/-- The effect of a change that succeeds, with the label on the new revision. -/
def Change.effect {k : Key} (c : Change k) (s : Storage) : Storage :=
  (c.run s).2.setLabel k (c.run s).1.version

def turn (helm : Helm) (d : Declaration) (s : Storage) : Storage × Event :=
  if s.history d.key = [] then ((helm.install d.release).effect s, .installed d.key)
  else if helmReleasesEqual d.rendered (s.history d.key) then (s, .skipped d.key)
  else ((helm.upgrade d.release).effect s, .upgraded d.key)

variable {files : LocalFiles} {helm : Helm} {fails : Failures} {i : ℕ} {d : Declaration}
  {s s' : Storage} {k : Key}

theorem any_version_of_change {k : Key} (c : Change k) (s : Storage) :
    (((c.run s).2.history k).any (·.version = (c.run s).1.version)) = true := by
  rw [List.any_eq_true]
  exact ⟨_, (c.newest s).1, by simp⟩

theorem addReleaseSecretLabels_ok {c : Change k}
    (h : addReleaseSecretLabels fails i k (c.run s).1.version (c.run s).2 = .ok s') :
    s' = c.effect s := by
  unfold addReleaseSecretLabels at h
  rw [attempt_bind_eq_ok, if_pos (any_version_of_change c s), attempt_bind_eq_ok] at h
  exact (Except.ok.inj h.2.2).symm

variable {r : Storage × Event}

theorem upgradeRelease_ok (h : upgradeRelease helm fails i d (s.history d.key) s = .ok r) :
    r = if helmReleasesEqual d.rendered (s.history d.key) then (s, .skipped d.key)
      else ((helm.upgrade d.release).effect s, .upgraded d.key) := by
  unfold upgradeRelease at h
  rw [attempt_bind_eq_ok, attempt_bind_eq_ok] at h
  obtain ⟨-, -, h⟩ := h
  by_cases heq : helmReleasesEqual d.rendered (s.history d.key) = true
  · rw [if_pos heq] at h ⊢
    exact (Except.ok.inj h).symm
  · rw [if_neg heq] at h ⊢
    simp only [bind_eq_ok, attempt_eq_ok, exists_const] at h
    obtain ⟨-, -, -, s', hlabel, h⟩ := h
    rw [← Except.ok.inj h, addReleaseSecretLabels_ok hlabel]

theorem installRelease_ok (h : installRelease helm fails i d s = .ok r) :
    r = ((helm.install d.release).effect s, .installed d.key) := by
  unfold installRelease at h
  simp only [bind_eq_ok, attempt_eq_ok, exists_const] at h
  obtain ⟨-, -, -, s', hlabel, h⟩ := h
  rw [← Except.ok.inj h, addReleaseSecretLabels_ok hlabel]

theorem deployRelease_ok (h : deployRelease helm fails i d s = .ok r) : r = turn helm d s := by
  unfold deployRelease at h
  rw [bind_eq_ok] at h
  simp only [attempt_bind_eq_ok] at h
  obtain ⟨_, -, -, -, -, -, h⟩ := h
  unfold turn
  by_cases hnew : s.history d.key = []
  · rw [if_pos hnew] at h ⊢
    exact installRelease_ok h
  · rw [if_neg hnew] at h ⊢
    exact upgradeRelease_ok h

def noFailure : Failures := fun _ => none

theorem writeValues_noFailure (values : List HelmValues) (i j : ℕ) :
    writeValues noFailure i j values = .ok () := by
  induction values generalizing j with
  | nil => rfl
  | cons v rest ih =>
    unfold writeValues
    split
    · rw [attempt_bind_eq_ok, attempt_bind_eq_ok]
      exact ⟨rfl, rfl, ih (j + 1)⟩
    · exact ih (j + 1)

theorem addReleaseSecretLabels_noFailure (c : Change k) (i : ℕ) (s : Storage) :
    addReleaseSecretLabels noFailure i k (c.run s).1.version (c.run s).2 = .ok (c.effect s) := by
  unfold addReleaseSecretLabels
  rw [attempt_bind_eq_ok, if_pos (any_version_of_change c s), attempt_bind_eq_ok]
  exact ⟨rfl, rfl, rfl⟩

theorem deployRelease_noFailure (helm : Helm) (i : ℕ) (d : Declaration) (s : Storage) :
    deployRelease helm noFailure i d s = .ok (turn helm d s) := by
  unfold deployRelease turn
  simp only [bind_eq_ok, attempt_eq_ok, exists_const]
  refine ⟨(), writeValues_noFailure .., rfl, rfl, rfl, rfl, ?_⟩
  split
  · unfold installRelease
    simp only [bind_eq_ok, attempt_eq_ok, exists_const]
    exact ⟨rfl, rfl, rfl, _, addReleaseSecretLabels_noFailure .., rfl⟩
  · unfold upgradeRelease
    simp only [attempt_bind_eq_ok]
    refine ⟨rfl, rfl, ?_⟩
    split
    · rfl
    · simp only [bind_eq_ok, attempt_eq_ok, exists_const]
      exact ⟨rfl, rfl, rfl, _, addReleaseSecretLabels_noFailure .., rfl⟩

def turns (helm : Helm) : List Declaration → Storage → Storage × List Event
  | [], s => (s, [])
  | d :: ds, s =>
    let rest := turns helm ds (turn helm d s).1
    (rest.1, (turn helm d s).2 :: rest.2)

variable {ds : List Declaration} {r : Storage × List Event}

theorem deployReleases_ok (h : deployReleases helm fails i ds s = .ok r) : r = turns helm ds s := by
  induction ds generalizing i s r with
  | nil => exact (Except.ok.inj h).symm
  | cons d ds ih =>
    unfold deployReleases at h
    simp only [bind_eq_ok] at h
    obtain ⟨t, ht, rest, hrest, h⟩ := h
    rw [← Except.ok.inj h, ih hrest, deployRelease_ok ht]
    rfl

theorem deployReleases_noFailure (helm : Helm) (ds : List Declaration) (i : ℕ) (s : Storage) :
    deployReleases helm noFailure i ds s = .ok (turns helm ds s) := by
  induction ds generalizing i s with
  | nil => rfl
  | cons d ds ih =>
    unfold deployReleases
    simp only [bind_eq_ok]
    exact ⟨_, deployRelease_noFailure .., _, ih .., rfl⟩

theorem deployDeclared_ok {deployed : Storage × List Event}
    (h : deployDeclared helm fails ds s = .ok deployed) : deployed = turns helm ds s := by
  unfold deployDeclared at h
  simp only [bind_eq_ok, attempt_eq_ok, exists_const] at h
  obtain ⟨-, -, -, -, -, -, -, hd⟩ := h
  exact deployReleases_ok hd

theorem deploy_eq_ok_iff : deploy files helm fails ds s = .ok r ↔
    ∃ deployed, deployDeclared helm fails ds s = .ok deployed ∧
      ∃ u, uninstallReleases helm fails 0 (releasesToUninstall files ds s) deployed.1 = .ok u ∧
        (u.1, deployed.2 ++ u.2) = r := by
  simp only [deploy, bind_eq_ok, pure, Except.pure, Except.ok.injEq]

theorem deploy_ok (h : deploy files helm fails ds s = .ok r) :
    ∃ u, uninstallReleases helm fails 0 (releasesToUninstall files ds s) (turns helm ds s).1 =
        .ok u ∧ r = (u.1, (turns helm ds s).2 ++ u.2) := by
  obtain ⟨deployed, hd, u, hu, rfl⟩ := deploy_eq_ok_iff.1 h
  rw [deployDeclared_ok hd] at hu ⊢
  exact ⟨u, hu, rfl⟩

theorem deploy_noFailure {u : Storage × List Event}
    (h : uninstallReleases helm noFailure 0 (releasesToUninstall files ds s) (turns helm ds s).1 =
      .ok u) :
    deploy files helm noFailure ds s = .ok (u.1, (turns helm ds s).2 ++ u.2) := by
  refine deploy_eq_ok_iff.2 ⟨_, ?_, u, h, rfl⟩
  simp only [deployDeclared, bind_eq_ok, attempt_eq_ok, exists_const]
  exact ⟨rfl, rfl, rfl, rfl, rfl, rfl, rfl, deployReleases_noFailure ..⟩

end KubeOne.Localhelm
