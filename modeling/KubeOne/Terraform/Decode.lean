import KubeOne.Config.Types
import KubeOne.Json.Value
import KubeOne.Text.Base64

/-! Strict decoding of JSON into Go values. A key is that of a field if it is its name in any
casing. An object that names a field twice has no one value and is not decoded here. -/

namespace KubeOne.Terraform

open List Option Json

open Config (Schema)
open Json (goMap KeysSorted reread rereadItems rereadMembers)

inductive Value
  | text (s : String)
  | flag (b : Bool)
  | int (i : ℤ)
  | number (n : ℚ)
  | bytes (b : List UInt8)
  | time (t : ℤ)
  | duration (d : ℤ)
  | raw (j : Json)
  | none
  | list (items : List Value)
  | map (entries : List (String × Value))
  | struct (fields : List (String × Value))

mutual

def zero : Schema → Value
  | .string => .text ""
  | .bool => .flag false
  | .int _ _ => .int 0
  | .float => .number 0
  | .time => .time 0
  | .duration => .duration 0
  | .bytes | .raw | .pointer _ | .list _ | .map _ => .none
  | .object fields => .struct (zeroFields fields)

def zeroFields : List (String × Schema) → List (String × Value)
  | [] => []
  | (name, s) :: fields => (name, zero s) :: zeroFields fields

end

/-- The letter that stands for all casings of a letter. Names of fields are ASCII, and two other
letters fold to ASCII. -/
def foldRune (c : Char) : Char :=
  if c = '\u017f' then 'S' else if c = '\u212a' then 'K' else c.toUpper

def foldName (name : String) : List Char := name.toList.map foldRune

/-- The field that a key is decoded into. -/
def resolve (names : List String) (key : String) : Option String :=
  if key ∈ names then some key else names.find? fun name => foldName name = foldName key

/-- The members by the fields they are decoded into, if these are fields and none repeats. -/
def resolveAll (names : List String) (members : List (String × Json)) :
    Option (List (String × Json)) :=
  (each (fun m => (resolve names m.1).map fun name => (name, m.2)) members).bind fun resolved =>
    if (resolved.map Prod.fst).Nodup then some resolved else none

structure Texts where
  parseTime : String → Option ℤ
  parseDuration : String → Option ℤ

def decodeByte : Json → Option UInt8
  | .num n => if n.den = 1 ∧ 0 ≤ n.num ∧ n.num < 256 then some (UInt8.ofNat n.num.toNat) else none
  | .null => some 0
  | _ => none

def decodeInt (min max : ℤ) : Json → Option Value
  | .num n => if n.den = 1 ∧ min ≤ n.num ∧ n.num ≤ max then some (.int n.num) else none
  | .null => some (.int 0)
  | _ => none

section Decode

variable (T : Texts)

mutual

def decode : Schema → Json → Option Value
  | .string, j => match j with
    | .str s => some (.text s)
    | .null => some (.text "")
    | _ => none
  | .bool, j => match j with
    | .bool b => some (.flag b)
    | .null => some (.flag false)
    | _ => none
  | .int min max, j => decodeInt min max j
  | .float, j => match j with
    | .num n => (Json.Float64.nearest n).map .number
    | .null => some (.number 0)
    | _ => none
  | .bytes, j => match j with
    | .str s => (Text.Base64.decode s.toList).map .bytes
    | .arr items => (each decodeByte items).map .bytes
    | .null => some .none
    | _ => none
  | .time, j => match j with
    | .str s => (T.parseTime s).map .time
    | .null => some (.time 0)
    | _ => none
  -- a duration decodes itself from a text, and null is none
  | .duration, j => match j with
    | .str s => (T.parseDuration s).map .duration
    | _ => none
  | .raw, j => some (.raw j)
  | .pointer s, j => match j with
    | .null => some .none
    | j => decode s j
  | .list s, j => match j with
    | .arr items => (each (decode s) items).map .list
    | .null => some .none
    | _ => none
  | .map s, j => match j with
    | .obj members => (each (fun m => (decode s m.2).map fun v => (m.1, v)) members).map fun vs =>
        .map (goMap vs)
    | .null => some .none
    | _ => none
  | .object fields, j => match j with
    | .obj members => (resolveAll (fields.map Prod.fst) members).bind fun resolved =>
        (decodeFields fields resolved).map .struct
    | .null => some (.struct (zeroFields fields))
    | _ => none

/-- A field that no member names keeps its zero value. -/
def decodeFields : List (String × Schema) → List (String × Json) → Option (List (String × Value))
  | [], _ => some []
  | (name, s) :: fields, members =>
    (match members.lookup name with
      | none => some (zero s)
      | some j => decode s j).bind fun v =>
    (decodeFields fields members).map ((name, v) :: ·)

end

end Decode

/-! ### Decoded numbers

A value without floating point fields shows every number that it was decoded from. -/

mutual

def exact : Schema → Bool
  | .float => false
  | .pointer s | .list s | .map s => exact s
  | .object fields => exactFields fields
  | _ => true

def exactFields : List (String × Schema) → Bool
  | [] => true
  | (_, s) :: fields => exact s && exactFields fields

end

variable {fields : List (String × Schema)}

theorem exactFields_iff : exactFields fields = true ↔ ∀ field ∈ fields, exact field.2 = true := by
  induction fields with
  | nil => simp [exactFields]
  | cons field fields ih => simp [exactFields, ih]

section Lists

variable {α β : Type} {R : α → α → Prop} {f : α → Option β} {items items' : List α} {vs : List β}

theorem eq_of_each (hitems : List.Forall₂ R items items') (h : each f items = some vs)
    (h' : each f items' = some vs)
    (heq : ∀ a ∈ items, ∀ a' v, R a a' → f a = some v → f a' = some v → a' = a) :
    items' = items := by
  rw [each_eq_some_iff] at h h'
  induction hitems generalizing vs with
  | nil => rfl
  | cons ha _ ih =>
    cases h with
    | cons hf hrest =>
      cases h' with
      | cons hf' hrest' =>
        rw [forall_mem_cons] at heq
        rw [heq.1 _ _ ha hf hf', ih hrest hrest' heq.2]

theorem eq_of_forall₂ (hitems : List.Forall₂ R items items')
    (heq : ∀ a ∈ items, ∀ a' ∈ items', R a a' → a' = a) : items' = items := by
  induction hitems with
  | nil => rfl
  | cons ha _ ih =>
    rw [forall_mem_cons] at heq
    rw [heq.1 _ mem_cons_self ha,
      ih fun a hmem a' hmem' => heq.2 a hmem a' (mem_cons_of_mem _ hmem')]

end Lists

theorem keys_of_each {α β : Type} {f : α → Option β} {members : List (String × α)}
    {vs : List (String × β)} (h : each (fun m => (f m.2).map fun v => (m.1, v)) members = some vs) :
    vs.map Prod.fst = members.map Prod.fst := by
  rw [each_eq_some_iff] at h
  induction h with
  | nil => rfl
  | cons hf _ ih =>
    obtain ⟨v, -, rfl⟩ := map_eq_some_iff.1 hf
    rw [map_cons, map_cons, ih]

theorem rat_eq_of_num_eq {m n : ℚ} (hm : m.den = 1) (hn : n.den = 1) (h : m.num = n.num) : m = n :=
  Rat.ext h (hm.trans hn.symm)

variable {j j' : Json}

theorem eq_of_decodeByte_reread {b : UInt8} (hr : reread j = some j')
    (h : decodeByte j = some b) (h' : decodeByte j' = some b) : j' = j := by
  cases j with
  | null => exact (some.inj hr).symm
  | num n =>
    rw [reread, map_eq_some_iff] at hr
    obtain ⟨n', -, rfl⟩ := hr
    simp only [decodeByte, ite_none_right_eq_some, some.injEq] at h h'
    obtain ⟨⟨hden, hpos, hlt⟩, rfl⟩ := h
    obtain ⟨⟨hden', hpos', hlt'⟩, hbyte⟩ := h'
    have hnum := congrArg UInt8.toNat hbyte
    rw [UInt8.toNat_ofNat', UInt8.toNat_ofNat'] at hnum
    rw [rat_eq_of_num_eq hden' hden (by omega)]
  | _ => simp [decodeByte] at h

theorem eq_of_decodeInt_reread {min max : ℤ} {v : Value} (hr : reread j = some j')
    (h : decodeInt min max j = some v) (h' : decodeInt min max j' = some v) : j' = j := by
  cases j with
  | null => exact (some.inj hr).symm
  | num n =>
    rw [reread, map_eq_some_iff] at hr
    obtain ⟨n', -, rfl⟩ := hr
    simp only [decodeInt, ite_none_right_eq_some, some.injEq] at h h'
    obtain ⟨⟨hden, -⟩, rfl⟩ := h
    obtain ⟨⟨hden', -⟩, hint⟩ := h'
    rw [rat_eq_of_num_eq hden' hden (Value.int.inj hint)]
  | _ => simp [decodeInt] at h

theorem mem_of_resolve {names : List String} {key name : String}
    (h : resolve names key = some name) : name ∈ names := by
  unfold resolve at h
  split at h
  · next hmem =>
    obtain rfl := some.inj h
    exact hmem
  · exact mem_of_find?_eq_some h

theorem lookup_of_resolveAll {names : List String} {members resolved : List (String × Json)}
    (h : resolveAll names members = some resolved) {m : String × Json} (hm : m ∈ members) :
    ∃ name, resolve names m.1 = some name ∧ resolved.lookup name = some m.2 := by
  simp only [resolveAll, bind_eq_some_iff, ite_none_right_eq_some, some.injEq] at h
  obtain ⟨r, hr, hnodup, rfl⟩ := h
  obtain ⟨p, hp, hresolve⟩ := Collections.forall₂_mem_left (each_eq_some_iff.1 hr) hm
  obtain ⟨name, hname, rfl⟩ := map_eq_some_iff.1 hresolve
  exact ⟨name, hname, (Collections.lookup_eq_some_iff_mem hnodup).2 hp⟩

variable {T : Texts}

def fieldValue (T : Texts) (s : Schema) : Option Json → Option Value
  | none => some (zero s)
  | some j => decode T s j

theorem fieldValue_of_decodeFields
    {members members' : List (String × Json)} {vs : List (String × Value)}
    (h : decodeFields T fields members = some vs) (h' : decodeFields T fields members' = some vs)
    {name : String} {s : Schema} (hfield : (name, s) ∈ fields) :
    ∃ v, fieldValue T s (members.lookup name) = some v ∧
      fieldValue T s (members'.lookup name) = some v := by
  induction fields generalizing vs with
  | nil => simp at hfield
  | cons field fields ih =>
    obtain ⟨name', s'⟩ := field
    simp only [decodeFields, bind_eq_some_iff, map_eq_some_iff] at h h'
    obtain ⟨v, hv, rest, hrest, rfl⟩ := h
    obtain ⟨v', hv', rest', hrest', heq⟩ := h'
    obtain ⟨hpair, rfl⟩ := cons.inj heq
    obtain rfl := (Prod.mk.inj hpair).2
    rcases mem_cons.1 hfield with hhead | htail
    · obtain ⟨rfl, rfl⟩ := Prod.mk.inj hhead
      exact ⟨v', hv, hv'⟩
    · exact ih hrest hrest' htail

/-- Values that are decoded from a value and from the same value with its numbers as floating
point are the same only if no number has changed. -/
theorem eq_of_decode_reread {s : Schema} (hs : exact s = true) {v : Value}
    (hj : j.Sorted) (hr : reread j = some j') (h : decode T s j = some v)
    (h' : decode T s j' = some v) : j' = j := by
  induction s generalizing j j' v with
  | float => simp [exact] at hs
  | int min max => exact eq_of_decodeInt_reread hr h h'
  | raw =>
    rw [decode, some.injEq] at h h'
    exact Value.raw.inj (h'.trans h.symm)
  | bytes =>
    cases j with
    | arr items =>
      rw [reread_arr, map_eq_some_iff] at hr
      obtain ⟨items', hitems, rfl⟩ := hr
      simp only [decode, map_eq_some_iff] at h h'
      obtain ⟨bs, hbs, rfl⟩ := h
      obtain ⟨bs', hbs', heq⟩ := h'
      obtain rfl := Value.bytes.inj heq
      rw [eq_of_each (each_eq_some_iff.1 hitems) hbs hbs' fun _ _ _ _ => eq_of_decodeByte_reread]
    | null => exact (some.inj hr).symm
    | str s => exact (some.inj hr).symm
    | _ => simp [decode] at h
  | pointer s ih =>
    rw [exact] at hs
    by_cases hnull : j = .null
    · subst hnull
      exact (some.inj hr).symm
    · have hnull' : j' ≠ .null := by
        rintro rfl
        exact hnull (reread_eq_null hr)
      have hdecode : ∀ {i : Json}, i ≠ .null → decode T (.pointer s) i = decode T s i := by
        intro i hi
        cases i with
        | null => exact absurd rfl hi
        | _ => rfl
      rw [hdecode hnull] at h
      rw [hdecode hnull'] at h'
      exact ih hs hj hr h h'
  | list s ih =>
    rw [exact] at hs
    cases j with
    | arr items =>
      rw [Sorted, sortedItems_iff] at hj
      rw [reread_arr, map_eq_some_iff] at hr
      obtain ⟨items', hitems, rfl⟩ := hr
      simp only [decode, map_eq_some_iff] at h h'
      obtain ⟨vs, hvs, rfl⟩ := h
      obtain ⟨vs', hvs', heq⟩ := h'
      obtain rfl := Value.list.inj heq
      rw [eq_of_each (each_eq_some_iff.1 hitems) hvs hvs' fun a ha _ _ => ih hs (hj a ha)]
    | null => exact (some.inj hr).symm
    | _ => simp [decode] at h
  | map s ih =>
    rw [exact] at hs
    cases j with
    | obj members =>
      rw [Sorted, sortedMembers_iff] at hj
      rw [reread_obj hj.1, map_eq_some_iff] at hr
      obtain ⟨members', hmembers, rfl⟩ := hr
      simp only [decode, map_eq_some_iff] at h h'
      obtain ⟨vs, hvs, rfl⟩ := h
      obtain ⟨vs', hvs', heq⟩ := h'
      rw [rereadMembers_eq_each] at hmembers
      have hkeys' := (keys_of_each hvs').trans (keys_of_each hmembers)
      have hnodup := hj.1.nodup
      rw [Value.map.injEq, goMap_of_nodup (hkeys' ▸ hnodup),
        goMap_of_nodup (keys_of_each hvs ▸ hnodup)] at heq
      subst heq
      rw [← rereadMembers_eq_each, rereadMembers_eq_some_iff] at hmembers
      rw [eq_of_each hmembers hvs hvs' ?_]
      rintro m hm m' v ⟨hkey, hreread⟩ hv hv'
      obtain ⟨x, hx, rfl⟩ := map_eq_some_iff.1 hv
      obtain ⟨x', hx', hpair⟩ := map_eq_some_iff.1 hv'
      obtain rfl := (Prod.mk.inj hpair).2
      exact Prod.ext hkey (ih hs (hj.2 m hm) hreread hx hx')
    | null => exact (some.inj hr).symm
    | _ => simp [decode] at h
  | object fields ih =>
    rw [exact, exactFields_iff] at hs
    cases j with
    | obj members =>
      rw [Sorted, sortedMembers_iff] at hj
      rw [reread_obj hj.1, map_eq_some_iff] at hr
      obtain ⟨members', hmembers, rfl⟩ := hr
      simp only [decode, bind_eq_some_iff, map_eq_some_iff] at h h'
      obtain ⟨resolved, hresolved, vs, hvs, rfl⟩ := h
      obtain ⟨resolved', hresolved', vs', hvs', heq⟩ := h'
      obtain rfl := Value.struct.inj heq
      rw [eq_of_forall₂ (rereadMembers_eq_some_iff.1 hmembers) ?_]
      -- a member and its image are decoded into the same field
      rintro m hm m' hm' ⟨hkey, hreread⟩
      obtain ⟨name, hname, hlookup⟩ := lookup_of_resolveAll hresolved hm
      obtain ⟨name', hname', hlookup'⟩ := lookup_of_resolveAll hresolved' hm'
      rw [hkey, hname, some.injEq] at hname'
      subst hname'
      obtain ⟨field, hfield, rfl⟩ := mem_map.1 (mem_of_resolve hname)
      obtain ⟨v, hv, hv'⟩ := fieldValue_of_decodeFields hvs hvs' hfield
      rw [hlookup] at hv
      rw [hlookup'] at hv'
      exact Prod.ext hkey (ih field hfield (hs field hfield) (hj.2 m hm) hreread hv hv')
    | null => exact (some.inj hr).symm
    | _ => simp [decode] at h
  | string | bool | time | duration =>
    cases j with
    | num n => simp [decode] at h
    | arr items => simp [decode] at h
    | obj members => simp [decode] at h
    | _ => exact (some.inj hr).symm

end KubeOne.Terraform
