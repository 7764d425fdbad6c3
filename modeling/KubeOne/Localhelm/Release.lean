import KubeOne.Text.Pairs
import Mathlib.Data.List.Sort

/-! Declared and stored Helm releases. A chart is named by a repository and a chart, a local
directory, or a URL. Helm keeps one Secret per revision of a release, and the label of KubeOne is
on the Secret. -/

namespace KubeOne.Localhelm

open List

structure HelmAuth where
  username : String := ""
  password : String := ""

structure HelmValues where
  valuesFile : String := ""
  inline : Option String := none

structure HelmRelease where
  chart : String := ""
  repoURL : String := ""
  chartURL : String := ""
  releaseName : String
  ns : String
  values : List HelmValues := []
  auth : Option HelmAuth := none

structure Key where
  ns : String
  name : String
  deriving DecidableEq

def HelmRelease.key (hr : HelmRelease) : Key := ⟨hr.ns, hr.releaseName⟩

/-- What the machine that runs KubeOne answers: the `Chart.yaml` under a chart path, the name
in such a file, the error of opening a values file, and the error of parsing inline values. -/
structure LocalFiles where
  readChart : String → Except String String
  chartName : String → Except String String
  openError : String → Option String
  parseError : String → Option String

def getChartNameFromChartYAML (files : LocalFiles) (chartPath : String) : Except String String :=
  match files.readChart chartPath with
  | .error err => .error ("failed to read Chart.yaml: " ++ err)
  | .ok yamlFile =>
    match files.chartName yamlFile with
    | .error err => .error ("failed to unmarshal Chart.yaml: " ++ err)
    | .ok name => .ok name

inductive Segment
  | child (name : String)
  | index (i : ℕ)

abbrev Path := List Segment

inductive FieldError
  | required (path : Path) (detail : String)
  | invalid (path : Path) (value detail : String)

def validateAuth (auth : HelmAuth) (fldPath : Path) : List FieldError :=
  (if auth.username ≠ "" ∧ auth.password = "" then
    [.required (fldPath ++ [.child "auth", .child "password"])
      "password is required when username is set"] else []) ++
  (if auth.password ≠ "" ∧ auth.username = "" then
    [.required (fldPath ++ [.child "auth", .child "username"])
      "username is required when password is set"] else [])

def validateValues (files : LocalFiles) (v : HelmValues) (fldIdentity : Path) : List FieldError :=
  (if v.valuesFile ≠ "" then
    match files.openError v.valuesFile with
    | some err => [.invalid (fldIdentity ++ [.child "valuesFile"]) v.valuesFile
        ("file is invalid: " ++ err)]
    | none => [] else []) ++
  (match v.inline with
    | none => []
    | some inline =>
      match files.parseError inline with
      | some err => [.invalid (fldIdentity ++ [.child "inline"]) inline
          ("inline is not a valid YAML: " ++ err)]
      | none => [])

def validateHelmRelease (files : LocalFiles) (hr : HelmRelease) (fldPath : Path) :
    List FieldError :=
  (if hr.chart = "" ∧ hr.chartURL = "" then
    [.required (fldPath ++ [.child "chart"]) hr.chart] else []) ++
  (match hr.auth with
    | none => []
    | some auth => validateAuth auth fldPath) ++
  (if hr.ns = "" then
    [.required (fldPath ++ [.child "namespace"]) hr.ns] else []) ++
  (if hr.repoURL = "" ∧ hr.chartURL = "" then
    match getChartNameFromChartYAML files hr.chart with
    | .error err => [.invalid (fldPath ++ [.child "chart"]) hr.chart
        ("invalid local chart: " ++ err)]
    | .ok _ => [] else []) ++
  (if hr.chartURL ≠ "" ∧ hr.releaseName = "" then
    [.required (fldPath ++ [.child "releaseName"])
      "since chartURL is given directly, releaseName is required"] else []) ++
  (hr.values.zipIdx.flatMap fun (v, idx) =>
    validateValues files v (fldPath ++ [.child "values", .index idx]))

def validateHelmReleases (files : LocalFiles) (helmReleases : List HelmRelease)
    (fldPath : Path) : List FieldError :=
  helmReleases.zipIdx.flatMap fun (hr, i) => validateHelmRelease files hr (fldPath ++ [.index i])

/-- The manifest of a release is handled as the sequence of its characters. -/
abbrev Text := List Char

inductive Status
  | unknown
  | deployed
  | uninstalled
  | superseded
  | failed
  | uninstalling
  | pendingInstall
  | pendingUpgrade
  | pendingRollback

/-- What rendering a chart gives: the metadata of the chart, also the texts in the map that Helm
makes of them under keys of its own, the objects of the release, and its hooks, which Helm keeps
apart from the other objects. -/
structure Rendered where
  chartName : String
  chartVersion : String
  metadataAsMap : List (String × String)
  manifest : Text
  hooks : List Text

/-- A stored revision; `labelled` says whether its Secret has the label
`kubeone.k8c.io/released-by-kubeone`. -/
structure Revision where
  key : Key
  version : ℕ
  status : Status
  content : Rendered
  labelled : Bool

/-- All stored revisions. The name of a Secret is made of the name and the version, so that
there is at most one of each version of a release. -/
structure Storage where
  revisions : List Revision
  distinct : (revisions.map fun r => (r.key, r.version)).Nodup

variable {r : Revision}

namespace Storage

variable (s : Storage) (k : Key)

def history : List Revision := s.revisions.filter (·.key = k)

def Labelled : Prop := ∃ r ∈ s.history k, r.labelled = true

variable {s k}

theorem mem_history : r ∈ s.history k ↔ r ∈ s.revisions ∧ r.key = k := by
  simp [history]

theorem nodup_versions (s : Storage) (k : Key) : ((s.history k).map (·.version)).Nodup := by
  have h := s.distinct
  rw [List.Nodup, pairwise_map] at h ⊢
  refine ((h.filter _).imp_of_mem ?_)
  intro a b ha hb hne hv
  have hka := (mem_history.1 ha).2
  have hkb := (mem_history.1 hb).2
  exact hne (by rw [hka, hkb, hv])

end Storage

def IsNewest (r : Revision) (history : List Revision) : Prop :=
  r ∈ history ∧ ∀ x ∈ history, x.version ≤ r.version

/-- The name that the chart of a stored revision is compared with. A release without a
repository is taken for a local chart, unless its URL is one of a registry; an error of
reading `Chart.yaml` gives the empty name. -/
def HelmRelease.expectedChart (files : LocalFiles) (hr : HelmRelease) : String :=
  if hr.repoURL = "" ∧ ¬ "oci://".toList <+: hr.chartURL.toList then
    ((getChartNameFromChartYAML files hr.chart).toOption).getD ""
  else hr.chart

def releasesFilterFn (files : LocalFiles) (helmReleases : List HelmRelease) (r : Revision) : Bool :=
  if helmReleases.any fun hr => r.key = hr.key && hr.expectedChart files = r.content.chartName then
    false
  else r.labelled

theorem labelled_of_releasesFilterFn {files : LocalFiles} {hrs : List HelmRelease}
    (h : releasesFilterFn files hrs r = true) : r.labelled = true := by
  unfold releasesFilterFn at h
  split at h
  · cases h
  · exact h

theorem releasesFilterFn_of_undeclared {files : LocalFiles} {hrs : List HelmRelease}
    (h : ∀ hr ∈ hrs, hr.key ≠ r.key) : releasesFilterFn files hrs r = r.labelled := by
  unfold releasesFilterFn
  rw [if_neg]
  simp only [any_eq_true, Bool.and_eq_true, decide_eq_true_eq, not_exists, not_and]
  intro hr hmem hkey
  exact absurd hkey.symm (h hr hmem)

def lines : Text → List Text
  | [] => []
  | c :: cs =>
    if c = '\n' then ['\n'] :: lines cs
    else match lines cs with
      | [] => [[c]]
      | line :: rest => (c :: line) :: rest

/-- Only lines whose first character is `#` are dropped; every line that stays gets one more
line break. -/
def cleanManifest (manifest : Text) : Text :=
  if manifest = [] then []
  else
    Text.trimSpace
      (((lines manifest).filter fun line => line.head? ≠ some '#').flatMap (· ++ ['\n']))

def latest (oldRels : List Revision) : Option Revision :=
  (oldRels.insertionSort fun a b => b.version ≤ a.version).head?

/-- A key that the map does not have is read as the empty text. -/
def Rendered.version (rel : Rendered) : String := (rel.metadataAsMap.lookup "version").getD ""

def helmReleasesEqual (rel : Rendered) (oldRels : List Revision) : Bool :=
  match latest oldRels with
  | none => false
  | some r =>
    if rel.version ≠ r.content.version then false
    else cleanManifest rel.manifest = cleanManifest r.content.manifest

theorem isNewest_of_latest {h : List Revision} (hr : latest h = some r) : IsNewest r h := by
  have hsorted := pairwise_insertionSort (fun a b : Revision => b.version ≤ a.version) h
  have hperm := perm_insertionSort (fun a b : Revision => b.version ≤ a.version) h
  unfold latest at hr
  cases hs : h.insertionSort fun a b => b.version ≤ a.version with
  | nil => simp [hs] at hr
  | cons x xs =>
    rw [hs] at hr hsorted hperm
    simp only [head?_cons, Option.some.injEq] at hr
    subst hr
    refine ⟨hperm.mem_iff.1 mem_cons_self, ?_⟩
    intro y hy
    rcases mem_cons.1 (hperm.mem_iff.2 hy) with rfl | hy
    · exact Nat.le_refl _
    · exact (pairwise_cons.1 hsorted).1 y hy

theorem latest_eq_none {h : List Revision} : latest h = none ↔ h = [] := by
  have hperm := perm_insertionSort (fun a b : Revision => b.version ≤ a.version) h
  unfold latest
  rw [head?_eq_none_iff]
  constructor
  · intro hnil
    rw [hnil] at hperm
    exact hperm.nil_eq.symm
  · rintro rfl
    rfl

/-- Versions are distinct within a release, so that its newest revision is unique and the
sort finds it. -/
theorem Storage.latest_history {s : Storage} {k : Key} :
    latest (s.history k) = some r ↔ IsNewest r (s.history k) := by
  refine ⟨isNewest_of_latest, ?_⟩
  intro hr
  cases hl : latest (s.history k) with
  | none =>
    rw [latest_eq_none.1 hl] at hr
    cases hr.1
  | some r' =>
    have hr' := isNewest_of_latest hl
    have hv : r'.version = r.version := Nat.le_antisymm (hr.2 r' hr'.1) (hr'.2 r hr.1)
    exact congrArg some (inj_on_of_nodup_map (s.nodup_versions k) hr'.1 hr.1 hv)

end KubeOne.Localhelm
