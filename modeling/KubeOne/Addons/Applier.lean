import KubeOne.NativeClient.Delete
import KubeOne.NativeClient.Written

/-! Applying and deleting one addon. Its manifests are rendered and labelled with its name; an
apply prunes the objects with the label that are not rendered any more, a delete removes the
rendered ones. Both do nothing for an addon without objects. -/

namespace KubeOne.Addons

open Process NativeClient

def addonLabel : String := "kubeone.io/addon"

def withAddonLabel (addonName : String) (obj : Unstructured) : Unstructured :=
  { obj with labels := (addonLabel, addonName) :: obj.labels.filter (·.1 ≠ addonLabel) }

def ensureAddonsLabelsOnResources (manifests : List Unstructured) (addonName : String) :
    List Unstructured :=
  manifests.map (withAddonLabel addonName)

def addonSelector (addonName : String) : Selector :=
  fun labels => labels.lookup addonLabel = some addonName

@[simp] theorem ensureAddonsLabelsOnResources_eq_nil {manifests : List Unstructured}
    {addonName : String} :
    ensureAddonsLabelsOnResources manifests addonName = [] ↔ manifests = [] :=
  List.map_eq_nil_iff

/-- Lower case. Two letters outside of ASCII have a lower case in it. -/
def lower (c : Char) : Char :=
  if c.toNat = 0x130 then 'i' else if c.toNat = 0x212A then 'k' else c.toLower

def validInventoryNameChar (c : Char) : Bool :=
  ('a' ≤ c && c ≤ 'z') || ('0' ≤ c && c ≤ '9') || c = '.' || c = '-'

/-- Each run of other characters becomes a dash. The flag says that one is under way. -/
def replaceInvalid : Bool → List Char → List Char
  | _, [] => []
  | inRun, c :: cs =>
    if validInventoryNameChar c then c :: replaceInvalid false cs
    else if inRun then replaceInvalid true cs
    else '-' :: replaceInvalid true cs

def trimEnds (name : List Char) : List Char :=
  (name.dropWhile (· ∈ ['.', '-'])).rdropWhile (· ∈ ['.', '-'])

def dns1123SubdomainMaxLength : ℕ := 253

/-- The ConfigMap that records the kinds of an addon. The first bytes of the digest of a name keep
apart the names that are not object names themselves. -/
def addonInventoryKey (digest : String → String) (addonName : String) : ObjectKey :=
  if addonName = "" then ⟨"kube-system", "kubeone-addons-root"⟩
  else
    let name := "kubeone-addon-".toList ++ replaceInvalid false (addonName.toList.map lower)
    let name :=
      if name ≠ "kubeone-addon-".toList ++ addonName.toList ∨
          dns1123SubdomainMaxLength < name.length then
        name.take (min name.length (dns1123SubdomainMaxLength - 9)) ++
          '-' :: (digest addonName).toList
      else name
    ⟨"kube-system", String.ofList (trimEnds name)⟩

inductive LoadFailure where
  | readingDirectory
  | rendering
  deriving DecidableEq

inductive Failure where
  | creatingApplier
  | readingLocalDirectory
  | readingEmbeddedDirectory
  | doesNotExist (operation addonName : String)
  | supporting (addonName : String)
  | loading (e : LoadFailure)
  | noKubeClient
  | applying (errors : List NativeClient.Failure)
  | deleting (errors : List DeleteFailure)
  deriving DecidableEq

/-- A client of the cluster, with what its requests meet in one call. -/
structure Client where
  server : Server
  apply : Environment := {}
  delete : DeleteEnvironment := {}

abbrev Rendered := Except LoadFailure (List Unstructured)

def getManifestsFromDirectory (rendered : Rendered) (addonName : String) : Rendered :=
  rendered.map (ensureAddonsLabelsOnResources · addonName)

section Definitions

variable (digest : String → String) (client : Option Client) (rendered : Rendered)
  (addonName : String)

def applyOptions : ApplyOptions :=
  ⟨some (addonSelector addonName), [], some (addonInventoryKey digest addonName), false⟩

def deleteOptions : DeleteOptions :=
  ⟨some (addonSelector addonName), some (addonInventoryKey digest addonName)⟩

def loadAndApplyAddon : Stage Cluster Failure := fun c =>
  match getManifestsFromDirectory rendered addonName with
  | .error e => (c, .failed [.loading e])
  | .ok objs =>
    if objs = [] then (c, .success)
    else
      match client with
      | none => (c, .failed [.noKubeClient])
      | some client =>
        let call := Applier.new.apply client.server client.apply objs
          (applyOptions digest addonName) c
        (call.1.cluster,
          match call.2 with
          | .success => .success
          | .failed errors => .failed [.applying errors]
          | .stopped => .stopped)

def loadAndDeleteAddon : Stage Cluster Failure := fun c =>
  match getManifestsFromDirectory rendered addonName with
  | .error e => (c, .failed [.loading e])
  | .ok objs =>
    if objs = [] then (c, .success)
    else
      match client with
      | none => (c, .failed [.noKubeClient])
      | some client =>
        let call := Applier.delete client.server (deleteOptions digest addonName) client.delete
          objs c
        (call.1.cluster,
          match call.2 with
          | .success => .success
          | .failed errors => .failed [.deleting errors]
          | .stopped => .stopped)

def appliedRefs (c : Cluster) : List ObjectRef :=
  match getManifestsFromDirectory rendered addonName, client with
  | .ok objs, some client =>
    Applier.new.writes client.server client.apply objs (applyOptions digest addonName) c
  | _, _ => []

/-- A delete of the addon deletes the object of the reference: it is in the manifest and its kind
is found, or it is the inventory. -/
def Deletes (ref : ObjectRef) : Prop :=
  ∃ client' manifests, client = some client' ∧ rendered = .ok manifests ∧ manifests ≠ [] ∧
    (deleteOptions digest addonName).Hits client'.server client'.delete
      (ensureAddonsLabelsOnResources manifests addonName) ref

end Definitions

variable {digest : String → String} {client : Option Client} {rendered : Rendered}
  {addonName : String} {c c' : Cluster} {r : Status Failure}

theorem loadAndDeleteAddon_eq
    (h : loadAndDeleteAddon digest client rendered addonName c = (c', r)) :
    c.Reaped (Deletes digest client rendered addonName) c' ∧
      (r = .success → ∀ ref, Deletes digest client rendered addonName ref →
        ∀ o ∈ c'.objects, o.ref = ref → addonSelector addonName o.labels = true →
          o.deleting = true) := by
  unfold loadAndDeleteAddon at h
  cases rendered with
  | error e =>
    cases h
    exact ⟨.refl _ _, by simp⟩
  | ok manifests =>
    simp only [getManifestsFromDirectory, Except.map, ensureAddonsLabelsOnResources_eq_nil] at h
    split_ifs at h with hempty
    · cases h
      refine ⟨.refl _ _, fun _ ref hdeletes => ?_⟩
      obtain ⟨-, _, -, hrendered, hne, -⟩ := hdeletes
      cases hrendered
      exact absurd hempty hne
    cases client with
    | none =>
      cases h
      exact ⟨.refl _ _, by simp⟩
    | some client =>
      rcases hcall : Applier.delete client.server (deleteOptions digest addonName) client.delete
        (ensureAddonsLabelsOnResources manifests addonName) c with ⟨p, status⟩
      simp only [hcall, Prod.mk.injEq] at h
      obtain ⟨rfl, hr⟩ := h
      obtain ⟨hreaped, hgone⟩ := delete_eq hcall
      refine ⟨hreaped.mono fun ref hhits => ⟨client, manifests, rfl, rfl, hempty, hhits⟩, ?_⟩
      rintro rfl ref ⟨_, _, ⟨⟩, ⟨⟩, -, hhits⟩ o ho href hsel
      have hstatus : status = .success := by
        cases status with
        | success => rfl
        | failed errors => cases hr
        | stopped => cases hr
      exact hgone hstatus ref hhits o ho href (by simpa [deleteOptions, DeleteOptions.selects])

end KubeOne.Addons
