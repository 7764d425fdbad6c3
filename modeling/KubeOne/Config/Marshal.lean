import KubeOne.Config.Manifest

/-! The addons of a migrated manifest. They are printed from the converted cluster, cleaned up, and
decoded again. What comes back is what was printed without the parameters that are empty, without
an empty authentication, and with the values of the Helm charts as the cleanup leaves them. -/

namespace KubeOne.Config

open Collections (lookup_cons_pair)
open Yamled List
open Apis.V1beta3 hiding KubeOneCluster

/-! ### Printing -/

def present (fields : List (String × Option Node)) : List (String × Node) :=
  fields.filterMap fun f => f.2.map (Prod.mk f.1)

def ofFields (fields : List (String × Option Node)) : Node := ofEntries (present fields)

def ifText (s : String) : Option Node := if s = "" then none else some (.str s)

def ifFlag (b : Bool) : Option Node := if b then some (.bool true) else none

def ifAny (items : List Node) : Option Node := if items = [] then none else some (.seq items)

def marshalParams (params : List (String × String)) : Option Node :=
  if params = [] then none else some (ofEntries (params.map fun p => (p.1, .str p.2)))

def marshalAddon (a : Addon) : Node :=
  ofFields
    [("delete", ifFlag a.delete), ("disableTemplating", ifFlag a.disableTemplating),
     ("name", some (.str a.name)), ("params", marshalParams a.params)]

def marshalHelmAuth (a : HelmAuth) : Node :=
  ofFields [("password", ifText a.password), ("username", ifText a.username)]

def marshalHelmValues (v : HelmValues) : Node :=
  ofFields [("inline", v.inline), ("valuesFile", ifText v.valuesFile)]

section Marshal

variable (F : Formats)

def marshalHelmRelease (r : HelmRelease) : Node :=
  ofFields
    [("auth", r.auth.map marshalHelmAuth), ("chart", some (.str r.chart)),
     ("chartURL", ifText r.chartURL), ("insecure", ifFlag r.insecure),
     ("namespace", some (.str r.namespaceName)), ("releaseName", ifText r.releaseName),
     ("repoURL", ifText r.repoURL), ("timeout", some (.str (F.durationText r.waitTimeout))),
     ("values", ifAny (r.values.map marshalHelmValues)), ("version", ifText r.version),
     ("wait", ifFlag r.wait)]

def marshalAddonRef (a : AddonRef) : Node :=
  ofFields
    [("addon", a.addon.map marshalAddon), ("helmRelease", a.helmRelease.map (marshalHelmRelease F))]

def marshalAddons (a : Addons) : Node :=
  ofFields [("addons", ifAny (a.addons.map (marshalAddonRef F))), ("path", ifText a.path)]

end Marshal

/-! ### Fields of printed values -/

variable (b : Bool) (k : String)

theorem lookup_present_cons (f : String × Option Node) (rest : List (String × Option Node)) :
    (present (f :: rest)).lookup k =
      if k = f.1 then f.2.or ((present rest).lookup k) else (present rest).lookup k := by
  obtain ⟨name, value⟩ := f
  cases value with
  | none => simp [present]
  | some n =>
    by_cases h : k = name <;> simp [present, lookup_cons_pair, h]

@[simp] theorem lookup_present_nil : (present []).lookup k = none := rfl

@[simp] theorem child_ofFields (fields : List (String × Option Node)) :
    (ofFields fields).child (.key k) = (present fields).lookup k := child_ofEntries k _

theorem cleanEntries_present (fields : List (String × Option Node)) :
    cleanEntries (present fields) = present (fields.map fun f => (f.1, f.2.bind clean)) := by
  induction fields with
  | nil => rfl
  | cons f rest ih =>
    obtain ⟨name, value⟩ := f
    cases value with
    | none => simpa [present] using ih
    | some n => cases h : clean n <;> simpa [present, cleanEntries, h] using ih

variable {fields : List (String × Option Node)}

theorem clean_ofFields (h : present fields ≠ []) :
    clean (ofFields fields) = some (ofFields (fields.map fun f => (f.1, f.2.bind clean))) := by
  rw [ofFields, clean_ofEntries, if_neg h, cleanEntries_present]
  rfl

theorem canonical_ofFields (hkeys : (fields.map Prod.fst).Pairwise (· < ·))
    (hparts : ∀ f ∈ fields, ∀ n, f.2 = some n → Canonical n) : Canonical (ofFields fields) := by
  refine .ofEntries ?_ fun e he => ?_
  · refine List.Pairwise.filterMap _ (fun a b hab a' ha b' hb => ?_) (pairwise_map.mp hkeys)
    obtain ⟨_, _, rfl⟩ := Option.map_eq_some_iff.mp ha
    obtain ⟨_, _, rfl⟩ := Option.map_eq_some_iff.mp hb
    exact hab
  · obtain ⟨f, hf, hmap⟩ := mem_filterMap.mp he
    obtain ⟨n, hn, rfl⟩ := Option.map_eq_some_iff.mp hmap
    exact hparts f hf n hn

/-! ### Scalars that come back -/

variable (s : String)

@[simp] theorem text_clean_str : text (((clean (.str s)).getD .null)) = s := by
  by_cases h : s = "" <;> simp [clean, isUnset, text, h]

@[simp] theorem text_clean_ifText : text (((ifText s).bind clean).getD .null) = s := by
  by_cases h : s = "" <;> simp [ifText, clean, isUnset, text, h]

@[simp] theorem flag_clean_ifFlag : flag (((ifFlag b).bind clean).getD .null) = b := by
  cases b <;> simp [ifFlag, clean, isUnset, flag]

/-! ### What comes back -/

def keptParams (params : List (String × String)) : List (String × String) :=
  params.filter fun p => p.2 ≠ ""

def keptAuth (auth : Option HelmAuth) : Option HelmAuth :=
  auth.filter fun a => a.username ≠ "" ∨ a.password ≠ ""

def keptValues (values : List HelmValues) : List HelmValues :=
  (cleanSeq false (values.map marshalHelmValues)).map readHelmValues

def keptAddon (a : Addon) : Addon := { a with params := keptParams a.params }

def keptRelease (r : HelmRelease) : HelmRelease :=
  { r with values := keptValues r.values, auth := keptAuth r.auth }

def keptRef (a : AddonRef) : AddonRef where
  addon := a.addon.map keptAddon
  helmRelease := a.helmRelease.map keptRelease

theorem textMap_ofEntries (entries : List (String × Node)) :
    textMap (ofEntries entries) = entries.map fun e => (e.1, text e.2) := by
  simp [textMap, members, ofEntries]

theorem textMap_clean_params (params : List (String × String)) :
    textMap (((marshalParams params).bind clean).getD .null) = keptParams params := by
  by_cases h : params = []
  · simp [marshalParams, h, keptParams, textMap, members]
  · have hne : params.map (fun p => (p.1, Node.str p.2)) ≠ [] := by simpa using h
    rw [marshalParams, if_neg h, Option.bind_some, clean_ofEntries, if_neg hne, Option.getD_some,
      textMap_ofEntries]
    clear h hne
    unfold keptParams
    induction params with
    | nil => rfl
    | cons p rest ih =>
      by_cases hp : p.2 = "" <;> simpa [cleanEntries, clean, isUnset, hp, text] using ih

variable {n : Node}

theorem readAddon_clean {a : Addon} (h : clean (marshalAddon a) = some n) :
    readAddon n = keptAddon a := by
  rw [marshalAddon, clean_ofFields (by simp [present]), Option.some.injEq] at h
  subst h
  simp [readAddon, keptAddon, field, lookup_present_cons, textMap_clean_params]

variable {α : Type}

@[simp] theorem optional_null (read : Node → α) : optional read .null = none := by
  simp [optional]

@[simp] theorem optional_ofFields (read : Node → α) (fields : List (String × Option Node)) :
    optional read (ofFields fields) = some (read (ofFields fields)) := by
  simp [optional, ofFields, ofEntries]

theorem readHelmAuth_clean (auth : Option HelmAuth) :
    optional readHelmAuth (((auth.map marshalHelmAuth).bind clean).getD .null) = keptAuth auth := by
  cases auth with
  | none => simp [keptAuth]
  | some a =>
    by_cases h : a.username = "" ∧ a.password = ""
    · simp [marshalHelmAuth, ofFields, present, ifText, h, keptAuth, Option.filter]
    · have hpresent : present [("password", ifText a.password),
          ("username", ifText a.username)] ≠ [] := by
        by_cases hu : a.username = "" <;> by_cases hp : a.password = "" <;>
          simp_all [present, ifText]
      have hkept : keptAuth (some a) = some a := by
        rw [keptAuth, Option.filter_some, if_pos]
        simpa [or_iff_not_and_not] using h
      rw [hkept, Option.map_some, Option.bind_some, marshalHelmAuth, clean_ofFields hpresent,
        Option.getD_some, optional_ofFields]
      simp [readHelmAuth, field, lookup_present_cons]

variable {r : HelmRelease} {F : Formats}

theorem readHelmRelease_clean
    (htime : F.parseDuration (F.durationText r.waitTimeout) = some r.waitTimeout)
    (h : clean (marshalHelmRelease F r) = some n) : readHelmRelease F n = keptRelease r := by
  have hvalues : (elements (((ifAny (r.values.map marshalHelmValues)).bind clean).getD .null)).map
      readHelmValues = keptValues r.values := by
    unfold ifAny keptValues
    split
    · next hnil => simp [hnil, cleanSeq, elements]
    · simp [clean, elements]
  rw [marshalHelmRelease, clean_ofFields (by simp [present]), Option.some.injEq] at h
  subst h
  simp [readHelmRelease, keptRelease, field, lookup_present_cons, hvalues, readHelmAuth_clean,
    readDuration, htime]

theorem optional_clean {β : Type} (read : Node → β) (marshal : α → Node) (kept : α → β)
    (x : Option α)
    (hread : ∀ a, x = some a → ∃ fields,
      clean (marshal a) = some (ofFields fields) ∧ read (ofFields fields) = kept a) :
    optional read (((x.map marshal).bind clean).getD .null) = x.map kept := by
  cases x with
  | none => simp
  | some a =>
    obtain ⟨fields, hclean, hkept⟩ := hread a rfl
    rw [Option.map_some, Option.bind_some, hclean, Option.getD_some, optional_ofFields,
      Option.map_some, hkept]

variable {a : AddonRef}

theorem readAddonRef_clean (htime : ∀ r, a.helmRelease = some r →
      F.parseDuration (F.durationText r.waitTimeout) = some r.waitTimeout)
    (h : clean (marshalAddonRef F a) = some n) : readAddonRef F n = keptRef a := by
  have hpresent : present [("addon", a.addon.map marshalAddon),
      ("helmRelease", a.helmRelease.map (marshalHelmRelease F))] ≠ [] := by
    intro hnil
    simp [marshalAddonRef, ofFields, hnil] at h
  have haddon := optional_clean readAddon marshalAddon keptAddon a.addon fun a _ =>
    ⟨_, clean_ofFields (by simp [present]), readAddon_clean (clean_ofFields (by simp [present]))⟩
  have hrelease := optional_clean (readHelmRelease F) (marshalHelmRelease F) keptRelease
    a.helmRelease fun r hr => ⟨_, clean_ofFields (by simp [present]),
      readHelmRelease_clean (htime r hr) (clean_ofFields (by simp [present]))⟩
  rw [marshalAddonRef, clean_ofFields hpresent, Option.some.injEq] at h
  subst h
  simp [readAddonRef, keptRef, field, lookup_present_cons, haddon, hrelease]

theorem map_cleanSeq {β : Type} (read : Node → β) (marshal : α → Node) (kept : α → β)
    (xs : List α) (h : ∀ x ∈ xs, ∃ n, clean (marshal x) = some n ∧ read n = kept x) :
    (cleanSeq false (xs.map marshal)).map read = xs.map kept := by
  induction xs with
  | nil => rfl
  | cons x rest ih =>
    rw [forall_mem_cons] at h
    obtain ⟨n, hclean, hread⟩ := h.1
    simp [cleanSeq, hclean, hread, ih h.2]

/-- The references of printed addons, which are an addon or a release. -/
structure Printable (F : Formats) (a : AddonRef) : Prop where
  some_part : a.addon ≠ none ∨ a.helmRelease ≠ none
  timeout : ∀ r, a.helmRelease = some r →
    F.parseDuration (F.durationText r.waitTimeout) = some r.waitTimeout

theorem exists_clean_marshalAddonRef (h : Printable F a) : ∃ n, clean (marshalAddonRef F a) =
    some n := by
  obtain ⟨addon, release⟩ := a
  have hsome := h.some_part
  cases addon <;> cases release <;> simp_all [marshalAddonRef, ofFields, present]

def keptAddons (a : Addons) : Addons := { a with addons := a.addons.map keptRef }

theorem readAddons_clean {a : Addons} (ha : ∀ ref ∈ a.addons, Printable F ref) :
    (optional (readAddons F) ((clean (marshalAddons F a)).getD .null)).getD {} = keptAddons a := by
  by_cases hpresent : present [("addons", ifAny (a.addons.map (marshalAddonRef F))),
      ("path", ifText a.path)] = []
  · obtain ⟨path, addons⟩ := a
    have hempty : path = "" ∧ addons = [] := by
      by_cases hpath : path = "" <;> by_cases haddons : addons = [] <;>
        simp_all [present, ifAny, ifText]
    obtain ⟨rfl, rfl⟩ := hempty
    simp [marshalAddons, ofFields, present, ifAny, ifText, keptAddons]
  · have hrefs : (elements (((ifAny (a.addons.map (marshalAddonRef F))).bind clean).getD
        .null)).map (readAddonRef F) = a.addons.map keptRef := by
      unfold ifAny
      split
      · next hnil => simp [map_eq_nil_iff.mp hnil, elements]
      · refine map_cleanSeq (readAddonRef F) (marshalAddonRef F) keptRef a.addons fun ref href => ?_
        obtain ⟨n, hn⟩ := exists_clean_marshalAddonRef (ha ref href)
        exact ⟨n, hn, readAddonRef_clean (ha ref href).timeout hn⟩
    rw [marshalAddons, clean_ofFields hpresent, Option.getD_some, optional_ofFields,
      Option.getD_some]
    simp [readAddons, keptAddons, field, lookup_present_cons, hrefs]

/-! ### What comes back as it was -/

variable {params : List (String × String)}

theorem keptParams_eq_self_iff : keptParams params = params ↔ ∀ p ∈ params, p.2 ≠ "" := by
  simp [keptParams, filter_eq_self]

theorem keptAuth_eq_self_iff {auth : Option HelmAuth} :
    keptAuth auth = auth ↔ ∀ a, auth = some a → a.username ≠ "" ∨ a.password ≠ "" := by
  cases auth with
  | none => simp [keptAuth]
  | some a =>
    by_cases h : a.username ≠ "" ∨ a.password ≠ ""
    · simp [keptAuth, Option.filter_some, h]
    · simp [keptAuth, Option.filter_some, h]

/-- Values from a file or in the manifest, in which nothing is unset. -/
def keepsValues (v : HelmValues) : Bool :=
  (v.valuesFile ≠ "" || v.inline.isSome) && v.inline.all tidy

theorem readHelmValues_marshal (v : HelmValues) : readHelmValues (marshalHelmValues v) = v := by
  obtain ⟨file, inline⟩ := v
  by_cases h : file = "" <;>
    simp [readHelmValues, marshalHelmValues, field, lookup_present_cons, ifText, text, h]

variable {v : HelmValues}

theorem present_helmValues_eq_nil_iff :
    present [("inline", v.inline), ("valuesFile", ifText v.valuesFile)] = [] ↔
      v.valuesFile = "" ∧ v.inline = none := by
  by_cases h : v.valuesFile = "" <;> cases hi : v.inline <;> simp [present, ifText, h]

theorem bind_clean_eq_self_iff {x : Option Node} : x.bind clean = x ↔ x.all tidy = true := by
  cases x with
  | none => simp
  | some n => simp [clean_eq_self_iff]

theorem ifText_bind_clean : (ifText s).bind clean = ifText s := by
  by_cases h : s = "" <;> simp [ifText, clean, isUnset, h]

theorem keepsValues_iff :
    keepsValues v = true ↔
      present [("inline", v.inline), ("valuesFile", ifText v.valuesFile)] ≠ [] ∧
        v.inline.bind clean = v.inline := by
  rw [bind_clean_eq_self_iff, Ne, present_helmValues_eq_nil_iff, keepsValues, Bool.and_eq_true,
    Bool.or_eq_true, decide_eq_true_eq, Option.isSome_iff_ne_none, or_iff_not_and_not,
    not_ne_iff, not_not]

theorem clean_marshalHelmValues (h : keepsValues v = true) :
    clean (marshalHelmValues v) = some (marshalHelmValues v) := by
  obtain ⟨hpresent, hinline⟩ := keepsValues_iff.mp h
  simp only [marshalHelmValues, clean_ofFields hpresent, map_cons, map_nil, hinline,
    ifText_bind_clean]

theorem keepsValues_of_read (hclean : clean (marshalHelmValues v) = some n)
    (hread : readHelmValues n = v) : keepsValues v = true := by
  have hpresent : present [("inline", v.inline), ("valuesFile", ifText v.valuesFile)] ≠ [] := by
    intro hnil
    simp [marshalHelmValues, ofFields, hnil] at hclean
  rw [marshalHelmValues, clean_ofFields hpresent, Option.some.injEq] at hclean
  subst hclean
  have hinline := congrArg HelmValues.inline hread
  refine keepsValues_iff.mpr ⟨hpresent, ?_⟩
  simpa [readHelmValues, lookup_present_cons] using hinline

variable {items : List Node}

theorem forall₂_cleanSeq (h : (cleanSeq false items).length = items.length) :
    List.Forall₂ (fun n n' => clean n = some n') items (cleanSeq false items) := by
  induction items with
  | nil => exact .nil
  | cons n rest ih =>
    rw [cleanSeq, if_neg Bool.false_ne_true] at h ⊢
    cases hclean : clean n with
    | some n' =>
      simp only [hclean, length_cons, Nat.add_right_cancel_iff] at h
      exact .cons hclean (ih h)
    | none =>
      have hle := length_cleanSeq_le rest true
      simp only [hclean, length_cons] at h
      omega

theorem keptValues_eq_self_iff {values : List HelmValues} :
    keptValues values = values ↔ ∀ v ∈ values, keepsValues v = true := by
  constructor
  · intro h
    have hlen := congrArg length h
    rw [keptValues, length_map, ← length_map marshalHelmValues] at hlen
    have hclean := forall₂_cleanSeq hlen
    rw [forall₂_map_left_iff] at hclean
    unfold keptValues at h
    generalize cleanSeq false (values.map marshalHelmValues) = ns at h hclean
    subst h
    rw [forall₂_map_left_iff, forall₂_same] at hclean
    exact forall_mem_map.mpr fun n hn => keepsValues_of_read (hclean n hn) rfl
  · intro h
    have hself : cleanSeq false (values.map marshalHelmValues) = values.map marshalHelmValues :=
      cleanSeq_eq_self_iff.mpr (forall_mem_map.mpr fun v hv =>
        clean_marshalHelmValues (h v hv))
    simp [keptValues, hself, Function.comp_def, readHelmValues_marshal]

theorem defaults_keptRef_iff :
    { keptRef a with helmRelease := (keptRef a).helmRelease.map defaultHelmRelease } =
        { a with helmRelease := a.helmRelease.map defaultHelmRelease } ↔
      (∀ ad, a.addon = some ad → ∀ p ∈ ad.params, p.2 ≠ "") ∧
        ∀ r, a.helmRelease = some r →
          (∀ v ∈ r.values, keepsValues v = true) ∧
            ∀ auth, r.auth = some auth → auth.username ≠ "" ∨ auth.password ≠ "" := by
  have haddon (ad : Addon) : keptAddon ad = ad ↔ ∀ p ∈ ad.params, p.2 ≠ "" := by
    rw [← keptParams_eq_self_iff]
    obtain ⟨name, params, disable, delete⟩ := ad
    simp [keptAddon]
  have hrelease (r : HelmRelease) : defaultHelmRelease (keptRelease r) = defaultHelmRelease r ↔
      (∀ v ∈ r.values, keepsValues v = true) ∧
        ∀ auth, r.auth = some auth → auth.username ≠ "" ∨ auth.password ≠ "" := by
    rw [← keptValues_eq_self_iff, ← keptAuth_eq_self_iff]
    constructor
    · exact fun h => ⟨congrArg HelmRelease.values h, congrArg HelmRelease.auth h⟩
    · rintro ⟨hvalues, hauth⟩
      simp [defaultHelmRelease, keptRelease, hvalues, hauth]
  obtain ⟨addon, release⟩ := a
  cases addon <;> cases release <;> simp [keptRef, haddon, hrelease]

/-! ### What is printed decodes -/

def CanonicalField (x : Option Node) : Prop := ∀ n, x = some n → Canonical n

/-- The parts of a reference that are printed as they are, are normal forms. -/
structure Ordered (a : AddonRef) : Prop where
  params : ∀ ad, a.addon = some ad → ad.params.Pairwise (·.1 < ·.1)
  inline : ∀ r, a.helmRelease = some r → ∀ v ∈ r.values, CanonicalField v.inline

def AcceptedField (F : Formats) (s : Schema) (x : Option Node) : Prop :=
  ∀ n, x = some n → accepts F s n = true

/-- A printed field is a normal form, and what the cleanup leaves of it is one of the type. -/
structure Prints (F : Formats) (t : Schema) (x : Option Node) : Prop where
  canonical : CanonicalField x
  accepted : AcceptedField F t (x.bind clean)

section Prints

variable {F : Formats} {t : Schema} {x : Option Node} {fs : List (String × Schema)}

theorem acceptedField_some (h : accepts F t n = true) : AcceptedField F t (some n) :=
  fun _ heq => Option.some.inj heq ▸ h

theorem acceptedField_ifText : AcceptedField F .string (ifText s) := by
  by_cases h : s = "" <;> simp [AcceptedField, ifText, h, accepts, isText]

theorem acceptedField_pointer (h : AcceptedField F t x) : AcceptedField F (.pointer t) x := by
  intro n hn
  rw [accepts, h n hn, Bool.or_true]

theorem accepts_ofFields
    (h : ∀ f ∈ fields, ∃ t, fs.lookup f.1 = some t ∧ AcceptedField F t f.2) :
    accepts F (.object fs) (ofFields fields) = true := by
  rw [accepts, ofFields, ofEntries, eachMember, all_eq_true]
  refine forall_mem_map.mpr fun e he => ?_
  obtain ⟨f, hf, hmap⟩ := mem_filterMap.mp he
  obtain ⟨n, hn, rfl⟩ := Option.map_eq_some_iff.mp hmap
  obtain ⟨t, ht, haccepted⟩ := h f hf
  exact acceptsField_iff.mpr ⟨t, ht, haccepted n hn⟩

theorem Prints.none : Prints F t none := ⟨by simp [CanonicalField], by simp [AcceptedField]⟩

theorem prints_scalar {c : Scalar} (h : accepts F t (.scalar c) = true) :
    Prints F t (some (.scalar c)) := by
  refine ⟨fun _ heq => Option.some.inj heq ▸ .scalar c, ?_⟩
  cases hunset : isUnset (.scalar c) <;> simp [AcceptedField, clean, hunset, h]

theorem prints_str : Prints F .string (some (.str s)) := prints_scalar (by simp [accepts, isText])

theorem prints_ifText : Prints F .string (ifText s) := by
  unfold ifText
  split
  · exact .none
  · exact prints_str s

theorem prints_ifFlag : Prints F .bool (ifFlag b) := by
  unfold ifFlag
  split
  · exact prints_scalar (by simp [accepts, isBool])
  · exact .none

theorem prints_duration {d : ℤ} (h : F.parseDuration (F.durationText d) = some d) :
    Prints F .duration (some (.str (F.durationText d))) :=
  prints_scalar (by simp [accepts, isDuration, h])

theorem prints_pointer {y : Option α} {marshal : α → Node}
    (h : ∀ a, y = some a → Prints F t (some (marshal a))) :
    Prints F (.pointer t) (y.map marshal) := by
  cases y with
  | none => exact .none
  | some a => exact ⟨(h a rfl).canonical, acceptedField_pointer (h a rfl).accepted⟩

theorem prints_ifAny (h : ∀ n ∈ items, Prints F t (some n))
    (hitems : ∀ m ∈ items, clean m = none → ∀ n ∈ items, accepts F t n = true) :
    Prints F (.list t) (ifAny items) := by
  unfold ifAny
  split
  · exact .none
  · refine ⟨fun _ heq => Option.some.inj heq ▸ .seq fun n hn => (h n hn).canonical n rfl, ?_⟩
    rw [Option.bind_some, clean]
    refine acceptedField_some ?_
    rw [accepts, eachElement, all_eq_true]
    intro n hn
    rcases mem_cleanSeq hn with ⟨m, hm, hclean⟩ | ⟨hn, hfalse | ⟨m, hm, hnone⟩⟩
    · exact (h m hm).accepted n hclean
    · cases hfalse
    · exact hitems m hm hnone n hn

theorem prints_params (h : params.Pairwise (·.1 < ·.1)) :
    Prints F (.map .string) (marshalParams params) := by
  unfold marshalParams
  split
  · exact .none
  · next hne =>
    refine ⟨fun _ heq => Option.some.inj heq ▸ .ofEntries (pairwise_map.mpr h)
      (forall_mem_map.mpr fun p _ => .scalar _), ?_⟩
    rw [Option.bind_some, clean_ofEntries, if_neg (by simpa using hne)]
    refine acceptedField_some ?_
    rw [accepts, ofEntries, eachMember, all_eq_true]
    refine forall_mem_map.mpr fun e he => ?_
    obtain ⟨f, hf, hmap⟩ := mem_filterMap.mp he
    obtain ⟨n, hn, rfl⟩ := Option.map_eq_some_iff.mp hmap
    obtain ⟨p, hp, rfl⟩ := mem_map.mp hf
    exact (prints_str p.2).accepted n hn

theorem prints_ofFields (hkeys : (fields.map Prod.fst).Pairwise (· < ·))
    (h : ∀ f ∈ fields, ∃ t, fs.lookup f.1 = some t ∧ Prints F t f.2) :
    Prints F (.object fs) (some (ofFields fields)) := by
  constructor
  · rintro _ ⟨⟩
    refine canonical_ofFields hkeys fun f hf => ?_
    obtain ⟨t, -, hprints⟩ := h f hf
    exact hprints.canonical
  · by_cases hpresent : present fields = []
    · simp [ofFields, hpresent, AcceptedField]
    · rw [Option.bind_some, clean_ofFields hpresent]
      refine acceptedField_some (accepts_ofFields (forall_mem_map.mpr fun f hf => ?_))
      obtain ⟨t, ht, hprints⟩ := h f hf
      exact ⟨t, ht, hprints.accepted⟩

theorem prints_addon {a : Addon} (h : a.params.Pairwise (·.1 < ·.1)) :
    Prints F Types.addon (some (marshalAddon a)) := by
  refine prints_ofFields
    (show List.Pairwise (· < ·) ["delete", "disableTemplating", "name", "params"] by decide) ?_
  simp only [forall_mem_cons]
  exact ⟨⟨_, rfl, prints_ifFlag _⟩, ⟨_, rfl, prints_ifFlag _⟩, ⟨_, rfl, prints_str _⟩,
    ⟨_, rfl, prints_params h⟩, by simp⟩

theorem prints_helmAuth (a : HelmAuth) : Prints F Types.helmAuth (some (marshalHelmAuth a)) := by
  refine prints_ofFields (show List.Pairwise (· < ·) ["password", "username"] by decide) ?_
  simp only [forall_mem_cons]
  exact ⟨⟨_, rfl, prints_ifText _⟩, ⟨_, rfl, prints_ifText _⟩, by simp⟩

theorem accepts_marshalHelmValues (v : HelmValues) :
    accepts F Types.helmValues (marshalHelmValues v) = true := by
  refine accepts_ofFields ?_
  simp only [forall_mem_cons]
  exact ⟨⟨_, rfl, fun n _ => by rw [accepts]⟩, ⟨_, rfl, acceptedField_ifText _⟩, by simp⟩

theorem prints_helmValues (h : CanonicalField v.inline) :
    Prints F Types.helmValues (some (marshalHelmValues v)) := by
  refine prints_ofFields (show List.Pairwise (· < ·) ["inline", "valuesFile"] by decide) ?_
  simp only [forall_mem_cons]
  exact ⟨⟨_, rfl, h, fun n _ => by rw [accepts]⟩, ⟨_, rfl, prints_ifText _⟩, by simp⟩

theorem prints_helmRelease
    (htime : F.parseDuration (F.durationText r.waitTimeout) = some r.waitTimeout)
    (h : ∀ v ∈ r.values, CanonicalField v.inline) :
    Prints F Types.helmRelease (some (marshalHelmRelease F r)) := by
  refine prints_ofFields (show List.Pairwise (· < ·) ["auth", "chart", "chartURL", "insecure",
    "namespace", "releaseName", "repoURL", "timeout", "values", "version", "wait"] by decide) ?_
  simp only [forall_mem_cons]
  exact ⟨⟨_, rfl, prints_pointer fun a _ => prints_helmAuth a⟩, ⟨_, rfl, prints_str _⟩,
    ⟨_, rfl, prints_ifText _⟩, ⟨_, rfl, prints_ifFlag _⟩, ⟨_, rfl, prints_str _⟩,
    ⟨_, rfl, prints_ifText _⟩, ⟨_, rfl, prints_ifText _⟩, ⟨_, rfl, prints_duration htime⟩,
    ⟨_, rfl, prints_ifAny (forall_mem_map.mpr fun v hv => prints_helmValues (h v hv))
      fun _ _ _ => forall_mem_map.mpr fun v _ => accepts_marshalHelmValues v⟩,
    ⟨_, rfl, prints_ifText _⟩, ⟨_, rfl, prints_ifFlag _⟩, by simp⟩

theorem prints_addonRef (h : Printable F a ∧ Ordered a) :
    Prints F Types.addonRef (some (marshalAddonRef F a)) := by
  refine prints_ofFields (show List.Pairwise (· < ·) ["addon", "helmRelease"] by decide) ?_
  simp only [forall_mem_cons]
  exact ⟨⟨_, rfl, prints_pointer fun ad had => prints_addon (h.2.params ad had)⟩,
    ⟨_, rfl, prints_pointer fun r hr => prints_helmRelease (h.1.timeout r hr) (h.2.inline r hr)⟩,
    by simp⟩

theorem prints_addons {a : Addons} (h : ∀ ref ∈ a.addons, Printable F ref ∧ Ordered ref) :
    Prints F (Types.addons .v1beta3) (some (marshalAddons F a)) := by
  refine prints_ofFields (show List.Pairwise (· < ·) ["addons", "path"] by decide) ?_
  simp only [forall_mem_cons]
  refine ⟨⟨_, rfl, prints_ifAny
    (forall_mem_map.mpr fun ref href => prints_addonRef (h ref href))
    (forall_mem_map.mpr fun ref href hnone => ?_)⟩, ⟨_, rfl, prints_ifText _⟩, by simp⟩
  obtain ⟨n, hn⟩ := exists_clean_marshalAddonRef (h ref href).1
  rw [hn] at hnone
  cases hnone

end Prints

end KubeOne.Config
