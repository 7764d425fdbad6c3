import KubeOne.Json.Value

/-! Merging the settings that Terraform has for workers into those of the manifest. A setting of
Terraform is added if the manifest has none of that name, in whatever casing, and if it is not
empty, which depends on the field that it is decoded into. -/

namespace KubeOne.Terraform.Cloudspec

open Collections List
open Json (goMap sortKeys)

structure FieldInfo where
  name : String
  tag : String := ""
  anonymous : Bool := false
  exported : Bool := true

inductive GoType
  | pointer (elem : GoType)
  | struct (fields : List (FieldInfo × GoType))
  | other

def GoType.isPointer : GoType → Bool
  | .pointer _ => true
  | _ => false

/-- The name in a tag, before the options. -/
def tagName (tag : String) : String := String.ofList (tag.toList.takeWhile (· ≠ ','))

mutual

/-- The fields of an embedded struct, or of one that an embedded pointer points to. -/
def embeddedFields : GoType → Option (List (String × GoType))
  | .struct fields => some (indexFields fields)
  | .pointer (.struct fields) => some (indexFields fields)
  | _ => none

def indexFields : List (FieldInfo × GoType) → List (String × GoType)
  | [] => []
  | (field, type) :: fields =>
    let embedded := if field.anonymous && tagName field.tag == "" then embeddedFields type else none
    (match embedded with
      | some inner => inner
      | none =>
        if !field.exported || field.tag == "-" then []
        else [(if tagName field.tag == "" then field.name else tagName field.tag, type)]) ++
      indexFields fields

end

/-- The type of the specs of a provider. None of its fields hides another one. Decoding it
strictly takes objects, and null. -/
structure SpecType where
  fields : List (FieldInfo × GoType)
  nodup : ((indexFields fields).map Prod.fst).Nodup
  decodes : Json → Bool
  decodes_object : ∀ j, decodes j = true → j = .null ∨ ∃ members, j = .obj members

/-- The field with the name, or the first one whose name agrees with it. -/
def findField (agree : String → String → Bool) (fields : List (String × GoType)) (key : String) :
    Option GoType :=
  (fields.lookup key).or ((fields.find? fun field => agree field.1 key).map Prod.snd)

section Merge

/- Lower case letters of the standard library, and the folding of its JSON decoder. -/
variable (toLower fold : String → String) (spec : SpecType)

def fieldType (key : String) : Option GoType :=
  findField (fun name key => toLower name = toLower key) (indexFields spec.fields) key

def isZero : Json → Bool
  | .str s => s == ""
  | .num n => Json.Float64.nearest n = some 0
  | .arr items => items.isEmpty
  | .obj members => members.isEmpty
  | _ => false

def isNull : Json → Bool
  | .null => true
  | _ => false

def isEmptyJSON (value : Json) (fieldType : Option GoType) : Bool :=
  isNull value || (!fieldType.any GoType.isPointer && isZero value)

abbrev GoMap := Option (List (String × Json))

def GoMap.entries (m : GoMap) : List (String × Json) := Option.getD m []

/-- Reading into a map: null makes it nil. -/
def unmarshalMap : Json → Option GoMap
  | .null => some none
  | .obj members => some (some (goMap members))
  | _ => none

def marshalMap : GoMap → Json
  | none => .null
  | some m => .obj (sortKeys m)

inductive Outcome
  | panic
  | error (message : String)
  | ok (merged : Json)

/-- Whether a setting of Terraform is left out. -/
def skip (existingKeys : List String) (entry : String × Json) : Bool :=
  existingKeys.contains (toLower entry.1) || isEmptyJSON entry.2 (fieldType toLower spec entry.1)

/-- The loop over the settings of Terraform. Writing to a nil map panics. -/
def addSettings (existingKeys : List String) : GoMap → List (String × Json) → Option GoMap
  | m, [] => some m
  | m, entry :: entries =>
    if skip toLower spec existingKeys entry then addSettings existingKeys m entries
    else
      match m with
      | none => none
      | some entries' =>
        addSettings existingKeys (some (put entries' entry.1 entry.2)) entries

/-- The map of Terraform's settings is walked in any order of its entries. -/
def merge (existing : Option Json) (terraform : Json) (order : GoMap → List (String × Json)) :
    Outcome :=
  if spec.decodes terraform then
    match unmarshalMap terraform with
    | none => .error "reading terraform CloudProviderSpec"
    | some tfSpec =>
      match existing.elim (some (some [])) unmarshalMap with
      | none => .error "reading CloudProviderSpec"
      | some m =>
        match addSettings toLower spec ((GoMap.entries m).map fun e => toLower e.1) m
            (order tfSpec) with
        | none => .panic
        | some merged => .ok (marshalMap merged)
  else .error "unmarshalling DynamicWorkerConfig cloud provider spec"

/-- The type of the field that the JSON decoder takes for a key. -/
def decodedField (key : String) : Option GoType :=
  findField (fun name key => fold name = fold key) (indexFields spec.fields) key

def settings (j : Json) : List (String × Json) := GoMap.entries ((unmarshalMap j).getD none)

/-- A key of the manifest is the same but for its casing. -/
def Matched (existing : List (String × Json)) (key : String) : Prop :=
  ∃ k ∈ existing.map Prod.fst, toLower k = toLower key

/-- The setting of Terraform for a key is to be added. -/
def ToAdd (existing tf : List (String × Json)) (key : String) (value : Json) : Prop :=
  tf.lookup key = some value ∧ ¬Matched toLower existing key ∧
    isEmptyJSON value (decodedField fold spec key) = false

/-- All settings of the manifest are there, and of those of Terraform the ones to be added. -/
def IsMerged (existing tf merged : List (String × Json)) : Prop :=
  ∀ key value, merged.lookup key = some value ↔
    existing.lookup key = some value ∨ ToAdd toLower fold spec existing tf key value

end Merge

variable {toLower fold : String → String} {spec : SpecType}

variable {value : Json}

theorem isZero_not_null (h : isZero value = true) : isNull value = false := by
  cases value <;> simp [isZero, isNull] at h ⊢

theorem isEmptyJSON_eq_iff {a b : Option GoType} :
    isEmptyJSON value a = isEmptyJSON value b ↔
      (isZero value = true → a.any GoType.isPointer = b.any GoType.isPointer) := by
  unfold isEmptyJSON
  cases hzero : isZero value with
  | false => simp
  | true => simp [isZero_not_null hzero]

theorem addSettings_nil (keys : List String) (entries : List (String × Json)) :
    addSettings toLower spec keys none entries =
      if entries.all (skip toLower spec keys) then some none else none := by
  induction entries with
  | nil => rfl
  | cons entry entries ih =>
    rw [addSettings, ih, all_cons]
    cases h : skip toLower spec keys entry with
    | true => rw [if_pos rfl, Bool.true_and]
    | false => simp

theorem addSettings_some (keys : List String) (m entries : List (String × Json)) :
    addSettings toLower spec keys (some m) entries =
      some (some ((entries.filter fun e => !skip toLower spec keys e).foldl
        (fun m e => put m e.1 e.2) m)) := by
  induction entries generalizing m with
  | nil => rfl
  | cons entry entries ih =>
    rw [addSettings]
    by_cases h : skip toLower spec keys entry = true
    · simp [h, ih]
    · simp [h, ih]

variable {m : List (String × Json)}

theorem nodup_keys_goMap (members : List (String × Json)) : ((goMap members).map Prod.fst).Nodup :=
  nodup_keys_foldl_put members nodup_nil

theorem nodup_keys_settings (j : Json) : ((settings j).map Prod.fst).Nodup := by
  cases j with
  | obj members => exact nodup_keys_goMap members
  | _ => exact nodup_nil

theorem lookup_settings_marshalMap (hm : (m.map Prod.fst).Nodup) (key : String) :
    (settings (marshalMap (some m))).lookup key = m.lookup key := by
  have hperm : (sortKeys m).Perm m := perm_insertionSort _ m
  have hnodup : ((sortKeys m).map Prod.fst).Nodup := (hperm.map Prod.fst).nodup_iff.2 hm
  have hsettings : settings (marshalMap (some m)) = sortKeys m := Json.goMap_of_nodup hnodup
  rw [hsettings, lookup_of_perm hperm hm]

/-- The setting of Terraform for a key is added by the loop. -/
def Added (toLower : String → String) (spec : SpecType) (existing tf : List (String × Json))
    (key : String) (value : Json) : Prop :=
  tf.lookup key = some value ∧ ¬Matched toLower existing key ∧
    isEmptyJSON value (fieldType toLower spec key) = false

variable {key : String}

section Added

variable {existing tf order : List (String × Json)}

theorem skip_eq_false_iff {entry : String × Json} :
    skip toLower spec (existing.map fun e => toLower e.1) entry = false ↔
      ¬Matched toLower existing entry.1 ∧
        isEmptyJSON entry.2 (fieldType toLower spec entry.1) = false := by
  simp [skip, Matched]

theorem mem_filter_skip_iff (hnodup : (tf.map Prod.fst).Nodup) (horder : order.Perm tf) :
    (key, value) ∈ order.filter
        (fun e => !skip toLower spec (existing.map fun e => toLower e.1) e) ↔
      Added toLower spec existing tf key value := by
  rw [mem_filter, horder.mem_iff, ← lookup_eq_some_iff_mem hnodup, Bool.not_eq_true',
    skip_eq_false_iff]
  rfl

theorem lookup_of_not_matched (h : ¬Matched toLower existing key) : existing.lookup key = none :=
  lookup_eq_none_iff_keys.2 fun hkey => h ⟨key, hkey, rfl⟩

theorem lookup_added_iff (hnodup : (tf.map Prod.fst).Nodup) (horder : order.Perm tf) :
    ((order.filter fun e => !skip toLower spec (existing.map fun e => toLower e.1) e).foldl
        (fun m e => put m e.1 e.2) existing).lookup key = some value ↔
      existing.lookup key = some value ∨ Added toLower spec existing tf key value := by
  have hnodup' : ((order.filter fun e =>
      !skip toLower spec (existing.map fun e => toLower e.1) e).reverse.map Prod.fst).Nodup := by
    rw [map_reverse, nodup_reverse]
    exact ((horder.map Prod.fst).nodup_iff.2 hnodup).sublist (filter_sublist.map _)
  rw [lookup_foldl_put, Option.or_eq_some_iff, lookup_eq_some_iff_mem hnodup', mem_reverse,
    mem_filter_skip_iff hnodup horder]
  constructor
  · rintro (hadded | ⟨-, hold⟩)
    · exact .inr hadded
    · exact .inl hold
  · rintro (hold | hadded)
    · refine .inr ⟨?_, hold⟩
      -- a key of the manifest matches itself, so that nothing was written for it
      by_contra hsome
      obtain ⟨value', hvalue'⟩ := Option.ne_none_iff_exists'.1 hsome
      rw [lookup_eq_some_iff_mem hnodup', mem_reverse, mem_filter_skip_iff hnodup horder]
        at hvalue'
      rw [lookup_of_not_matched hvalue'.2.1] at hold
      cases hold
    · exact .inl hadded

theorem added_iff_toAdd :
    (∀ key value, Added toLower spec existing tf key value ↔
        ToAdd toLower fold spec existing tf key value) ↔
      ∀ key value, tf.lookup key = some value → ¬Matched toLower existing key →
        isZero value = true → (fieldType toLower spec key).any GoType.isPointer =
          (decodedField fold spec key).any GoType.isPointer := by
  refine forall₂_congr fun key value => ?_
  unfold Added ToAdd
  by_cases htf : tf.lookup key = some value
  · by_cases hmatched : Matched toLower existing key
    · simp [hmatched]
    · rw [← isEmptyJSON_eq_iff]
      simp only [htf, hmatched, not_false_eq_true, true_and, true_implies]
      cases isEmptyJSON value (fieldType toLower spec key) <;>
        cases isEmptyJSON value (decodedField fold spec key) <;> simp
  · simp [htf]

theorem isMerged_added_iff :
    (∀ key value, existing.lookup key = some value ∨ Added toLower spec existing tf key value ↔
        existing.lookup key = some value ∨ ToAdd toLower fold spec existing tf key value) ↔
      ∀ key value, Added toLower spec existing tf key value ↔
        ToAdd toLower fold spec existing tf key value := by
  refine forall₂_congr fun key value => ⟨fun h => ?_, fun h => by rw [h]⟩
  constructor
  · intro hadded
    refine (h.1 (.inr hadded)).resolve_left fun hold => ?_
    rw [lookup_of_not_matched hadded.2.1] at hold
    cases hold
  · intro htoAdd
    refine (h.2 (.inr htoAdd)).resolve_left fun hold => ?_
    rw [lookup_of_not_matched htoAdd.2.1] at hold
    cases hold

end Added

section Merging

variable {existing : Option Json} {tf : Json} {order : GoMap → List (String × Json)}

theorem unmarshalMap_of_decodes (h : spec.decodes tf = true) :
    ∃ tfSpec, unmarshalMap tf = some tfSpec ∧ GoMap.entries tfSpec = settings tf := by
  rcases spec.decodes_object tf h with rfl | ⟨members, rfl⟩
  · exact ⟨none, rfl, rfl⟩
  · exact ⟨_, rfl, rfl⟩

theorem merge_some_iff (horder : ∀ m, (order m).Perm (GoMap.entries m))
    (hdecodes : spec.decodes tf = true) (hm : (m.map Prod.fst).Nodup)
    (hexisting : existing.elim (some (some [])) unmarshalMap = some (some m)) :
    (∃ merged, merge toLower spec existing tf order = .ok merged ∧
        IsMerged toLower fold spec m (settings tf) (settings merged)) ↔
      ∀ key value, Added toLower spec m (settings tf) key value ↔
        ToAdd toLower fold spec m (settings tf) key value := by
  obtain ⟨tfSpec, htf, hentries⟩ := unmarshalMap_of_decodes hdecodes
  have hperm : (order tfSpec).Perm (settings tf) := hentries ▸ horder tfSpec
  have hnodup := nodup_keys_settings tf
  have hmerge : merge toLower spec existing tf order =
      .ok (marshalMap (some (((order tfSpec).filter fun e =>
        !skip toLower spec (m.map fun e => toLower e.1) e).foldl
          (fun m e => put m e.1 e.2) m))) := by
    simp only [merge, hdecodes, if_true, htf, hexisting, GoMap.entries, Option.getD_some,
      addSettings_some]
  rw [hmerge]
  simp only [Outcome.ok.injEq, exists_eq_left', IsMerged,
    lookup_settings_marshalMap (nodup_keys_foldl_put _ hm), lookup_added_iff hnodup hperm]
  exact isMerged_added_iff

theorem merge_nil_iff (horder : ∀ m, (order m).Perm (GoMap.entries m))
    (hdecodes : spec.decodes tf = true)
    (hexisting : existing.elim (some (some [])) unmarshalMap = some none) :
    (∃ merged, merge toLower spec existing tf order = .ok merged ∧
        IsMerged toLower fold spec [] (settings tf) (settings merged)) ↔
      (∀ key value, ¬Added toLower spec [] (settings tf) key value) ∧
        ∀ key value, ¬ToAdd toLower fold spec [] (settings tf) key value := by
  obtain ⟨tfSpec, htf, hentries⟩ := unmarshalMap_of_decodes hdecodes
  have hperm : (order tfSpec).Perm (settings tf) := hentries ▸ horder tfSpec
  have hadded : (order tfSpec).all (skip toLower spec []) = true ↔
      ∀ key value, ¬Added toLower spec [] (settings tf) key value := by
    simp only [← mem_filter_skip_iff (nodup_keys_settings tf) hperm, mem_filter, not_and,
      all_eq_true, Prod.forall, map_nil]
    simp
  have hmerge : merge toLower spec existing tf order =
      if (order tfSpec).all (skip toLower spec []) then .ok .null else .panic := by
    simp only [merge, hdecodes, if_true, htf, hexisting, GoMap.entries, Option.getD_none,
      map_nil, addSettings_nil]
    cases (order tfSpec).all (skip toLower spec []) <;> rfl
  rw [hmerge, ← hadded]
  cases (order tfSpec).all (skip toLower spec []) with
  | false => simp
  | true => simp [IsMerged, settings, unmarshalMap, GoMap.entries]

end Merging

/-- Merging returns the settings of the manifest together with those of Terraform that are to be
added exactly if it has nothing to add to a spec that is null, and if lower casing finds a pointer
field where the decoder does, for every zero value that could be added. -/
theorem merge_keeps_settings_iff (toLower fold : String → String) (spec : SpecType)
    (existing : Option Json) (tf : Json) (order : GoMap → List (String × Json))
    (horder : ∀ m, (order m).Perm (GoMap.entries m))
    (hexisting : ∀ e, existing = some e → e = .null ∨ ∃ members, e = .obj members)
    (hdecodes : spec.decodes tf = true) :
    (∃ merged, merge toLower spec existing tf order = .ok merged ∧
        IsMerged toLower fold spec (existing.elim [] settings) (settings tf) (settings merged)) ↔
      (existing = some .null → ∀ key value, ¬ToAdd toLower fold spec [] (settings tf) key value) ∧
      ∀ key value, (settings tf).lookup key = some value →
        ¬Matched toLower (existing.elim [] settings) key → isZero value = true →
        (fieldType toLower spec key).any GoType.isPointer =
          (decodedField fold spec key).any GoType.isPointer := by
  rw [← added_iff_toAdd]
  cases existing with
  | none =>
    have hnil : (([] : List (String × Json)).map Prod.fst).Nodup := nodup_nil
    simpa using merge_some_iff horder hdecodes hnil rfl
  | some e =>
    rcases hexisting e rfl with rfl | ⟨members, rfl⟩
    · rw [show (some Json.null).elim [] settings = [] from rfl, merge_nil_iff horder hdecodes rfl]
      constructor
      · rintro ⟨hadded, htoAdd⟩
        exact ⟨fun _ => htoAdd, fun key value => iff_of_false (hadded key value)
          (htoAdd key value)⟩
      · rintro ⟨htoAdd, hiff⟩
        exact ⟨fun key value h => htoAdd rfl key value ((hiff key value).1 h), htoAdd rfl⟩
    · have hsettings : settings (.obj members) = goMap members := rfl
      simpa [hsettings] using merge_some_iff horder hdecodes (nodup_keys_goMap members) rfl

namespace Aws

def rawConfig : SpecType where
  fields := [(⟨"Region", "region,omitempty", false, true⟩, .other),
    (⟨"DiskIops", "diskIops,omitempty", false, true⟩, .pointer .other)]
  nodup := by decide +kernel
  decodes
    | .obj members => members.all fun m => m.1 == "region" || m.1 == "diskIops"
    | _ => false
  decodes_object j h := by
    cases j with
    | obj members => exact .inr ⟨members, rfl⟩
    | _ => cases h

def lowerCase (s : String) : String := String.ofList (s.toList.map Char.toLower)

def terraformSpec : Json := .obj [("diskIops", .num 0), ("region", .str "eu-central-1")]

/-- A zero is added for a pointer field, and the region of the manifest stays. -/
theorem zero_pointer_added :
    ∃ merged, merge lowerCase rawConfig (some (.obj [("Region", .str "eu-west-1")]))
        terraformSpec GoMap.entries = .ok merged ∧
      IsMerged lowerCase lowerCase rawConfig (settings (.obj [("Region", .str "eu-west-1")]))
        (settings terraformSpec) (settings merged) := by
  refine (merge_keeps_settings_iff lowerCase lowerCase rawConfig
    (some (.obj [("Region", .str "eu-west-1")])) terraformSpec GoMap.entries
    (fun _ => List.Perm.refl _) (fun _ h => .inr ⟨_, (Option.some.inj h).symm⟩)
    (by decide +kernel)).mpr ⟨nofun, fun key value hlookup _ _ => ?_⟩
  have hkeys : ∀ k ∈ (settings terraformSpec).map Prod.fst,
      (fieldType lowerCase rawConfig k).any GoType.isPointer =
        (decodedField lowerCase rawConfig k).any GoType.isPointer := by decide +kernel
  exact hkeys key (List.mem_map_of_mem (Collections.mem_of_lookup_eq_some hlookup))

/-- A spec that is null panics as soon as there is something to add. -/
theorem null_spec_panics :
    merge lowerCase rawConfig (some .null) terraformSpec GoMap.entries = .panic ∧
      ToAdd lowerCase lowerCase rawConfig [] (settings terraformSpec) "region"
        (.str "eu-central-1") := by
  refine ⟨rfl, rfl, ?_, by decide +kernel⟩
  rintro ⟨k, hk, -⟩
  simp at hk

end Aws

end KubeOne.Terraform.Cloudspec
