import KubeOne.Config.Normal

/-! Strict decoding. The fields of the Go types say which members an object may have and of what
kind. A null is as good as no member, but for durations, which decode themselves. A type with more
fields accepts more. -/

namespace KubeOne.Config

open Collections (lookup_cons_pair lookup_eq_some_iff_mem)
open Yamled

inductive Schema
  | string
  | bool
  | int (min max : ℤ)
  | float
  | bytes
  | time
  | duration
  | raw
  | pointer (s : Schema)
  | list (s : Schema)
  | map (s : Schema)
  | object (fields : List (String × Schema))

namespace Schema

@[induction_eliminator]
theorem induct {P : Schema → Prop} (string : P .string) (bool : P .bool)
    (int : ∀ min max, P (.int min max)) (float : P .float) (bytes : P .bytes) (time : P .time)
    (duration : P .duration) (raw : P .raw) (pointer : ∀ s, P s → P (.pointer s))
    (list : ∀ s, P s → P (.list s)) (map : ∀ s, P s → P (.map s))
    (object : ∀ fields : List (String × Schema), (∀ field ∈ fields, P field.2) →
      P (.object fields)) (s : Schema) : P s :=
  @Schema.rec P (fun fields => ∀ field ∈ fields, P field.2) (fun field => P field.2)
    string bool int float bytes time duration raw pointer list map object
    (by simp) (by simp +contextual) (by simp) s

end Schema

/-- The texts of numbers and durations, and what decodes as bytes or a time. A duration that has
been read is printed as a text that reads the same. -/
structure Formats where
  numberText : ℚ → String
  numberText_head : ∀ n c, (numberText n).toList.head? = some c → c.isAlpha = false
  parseDuration : String → Option ℤ
  durationText : ℤ → String
  durationText_zero : parseDuration (durationText 0) = some 0
  durationText_parsed : ∀ s d, parseDuration s = some d → parseDuration (durationText d) = some d
  isBytes : Node → Bool
  isTime : Node → Bool

section Accepts

variable (F : Formats)

def isText : Node → Bool
  | .scalar (.str _) | .scalar .null => true
  | _ => false

def isBool : Node → Bool
  | .scalar (.bool _) | .scalar .null => true
  | _ => false

def isNumber : Node → Bool
  | .scalar (.number _) | .scalar .null => true
  | _ => false

def isInt (min max : ℤ) : Node → Bool
  | .scalar (.number n) => n.den = 1 ∧ min ≤ n.num ∧ n.num ≤ max
  | .scalar .null => true
  | _ => false

def isDuration : Node → Bool
  | .scalar (.str s) => (F.parseDuration s).isSome
  | _ => false

def eachElement (p : Node → Bool) : Node → Bool
  | .scalar .null => true
  | .seq items => items.all p
  | _ => false

def eachMember (p : String → Node → Bool) : Node → Bool
  | .scalar .null => true
  | .mapSlice items => items.all fun item => p item.1.text item.2
  | _ => false

mutual

def accepts : Schema → Node → Bool
  | .string, n => isText n
  | .bool, n => isBool n
  | .int min max, n => isInt min max n
  | .float, n => isNumber n
  | .bytes, n => F.isBytes n
  | .time, n => F.isTime n
  | .duration, n => isDuration F n
  | .raw, _ => true
  | .pointer s, n => n = .null || accepts s n
  | .list s, n => eachElement (accepts s) n
  | .map s, n => eachMember (fun _ => accepts s) n
  | .object fields, n => eachMember (acceptsField fields) n

def acceptsField : List (String × Schema) → String → Node → Bool
  | [], _, _ => false
  | (name, s) :: rest, k, n => if name = k then accepts s n else acceptsField rest k n

end

end Accepts

mutual

/-- Every field of the one type is a field of the other. -/
def Schema.le : Schema → Schema → Bool
  | .string, .string | .bool, .bool | .float, .float | .bytes, .bytes | .time, .time
  | .duration, .duration | .raw, .raw => true
  | .int min max, .int min' max' => min' ≤ min ∧ max ≤ max'
  | .pointer s, .pointer t => s.le t
  | .list s, .list t => s.le t
  | .map s, .map t => s.le t
  | .object f, .object g => leFields f g
  | _, _ => false

def leFields : List (String × Schema) → List (String × Schema) → Bool
  | [], _ => true
  | (name, s) :: rest, g =>
    (match g.lookup name with
      | some t => s.le t
      | none => false) && leFields rest g

end

variable {F : Formats}

variable {k : String} {n : Node} {fields : List (String × Schema)}

theorem acceptsField_iff :
    acceptsField F fields k n = true ↔ ∃ s, fields.lookup k = some s ∧ accepts F s n = true := by
  induction fields with
  | nil => simp [acceptsField]
  | cons field rest ih =>
    obtain ⟨name, s⟩ := field
    by_cases h : name = k
    · simp [acceptsField, h]
    · simp [acceptsField, lookup_cons_pair, h, Ne.symm h, ih]

variable {f g : List (String × Schema)}

theorem lookup_of_leFields (h : leFields f g = true) {s : Schema}
    (hs : f.lookup k = some s) : (k, s) ∈ f ∧ ∃ t, g.lookup k = some t ∧ s.le t = true := by
  induction f with
  | nil => simp at hs
  | cons field rest ih =>
    obtain ⟨name, s'⟩ := field
    rw [leFields, Bool.and_eq_true] at h
    by_cases hk : k = name
    · subst hk
      obtain rfl : s' = s := by simpa using hs
      refine ⟨List.mem_cons_self, ?_⟩
      cases hg : g.lookup k with
      | none => simp [hg] at h
      | some t => exact ⟨t, rfl, by simpa [hg] using h.1⟩
    · rw [lookup_cons_pair, if_neg hk] at hs
      have hrest := ih h.2 hs
      exact ⟨List.mem_cons_of_mem _ hrest.1, hrest.2⟩

theorem eachElement_mono {p q : Node → Bool} (h : ∀ n, p n = true → q n = true)
    (hp : eachElement p n = true) : eachElement q n = true := by
  cases n with
  | scalar s => cases s <;> exact hp
  | seq items =>
    rw [eachElement, List.all_eq_true] at hp ⊢
    exact fun n hn => h n (hp n hn)
  | mapSlice items => exact hp
  | goMap items => exact hp

theorem eachMember_mono {p q : String → Node → Bool} (h : ∀ k n, p k n = true → q k n = true)
    (hp : eachMember p n = true) : eachMember q n = true := by
  cases n with
  | scalar s => cases s <;> exact hp
  | seq items => exact hp
  | mapSlice items =>
    rw [eachMember, List.all_eq_true] at hp ⊢
    exact fun item hitem => h _ _ (hp item hitem)
  | goMap items => exact hp

theorem isInt_mono {min max min' max' : ℤ} (h : min' ≤ min ∧ max ≤ max')
    (hn : isInt min max n = true) : isInt min' max' n = true := by
  unfold isInt at hn ⊢
  split at hn
  · simp only [decide_eq_true_eq] at hn ⊢
    omega
  · rfl
  · cases hn

open Schema

theorem accepts_of_le {s t : Schema} (h : s.le t = true) (hs : accepts F s n = true) :
    accepts F t n = true := by
  induction s generalizing t n with
  | object f ih =>
    cases t with
    | object g =>
      rw [accepts] at hs ⊢
      refine eachMember_mono (fun k n hn => ?_) hs
      obtain ⟨s, hlookup, hn⟩ := acceptsField_iff.mp hn
      obtain ⟨hmem, t, ht, hle⟩ := lookup_of_leFields h hlookup
      exact acceptsField_iff.mpr ⟨t, ht, ih _ hmem hle hn⟩
    | _ => simp [le] at h
  | list s ih =>
    cases t with
    | list t =>
      rw [accepts] at hs ⊢
      exact eachElement_mono (fun n hn => ih (by simpa [le] using h) hn) hs
    | _ => simp [le] at h
  | map s ih =>
    cases t with
    | map t =>
      rw [accepts] at hs ⊢
      exact eachMember_mono (fun _ n hn => ih (by simpa [le] using h) hn) hs
    | _ => simp [le] at h
  | pointer s ih =>
    cases t with
    | pointer t =>
      rw [accepts, Bool.or_eq_true] at hs ⊢
      exact hs.imp_right fun hn => ih (by simpa [le] using h) hn
    | _ => simp [le] at h
  | int min max =>
    cases t with
    | int min' max' =>
      rw [accepts] at hs ⊢
      exact isInt_mono (by simpa [le] using h) hs
    | _ => simp [le] at h
  | _ => cases t <;> first | exact hs | simp [le] at h

/-- A value can be an object or is missing. -/
def isObject : Node → Bool
  | .scalar .null | .mapSlice _ => true
  | _ => false

theorem accepts_object_iff (hn : Canonical n) : accepts F (.object fields) n = true ↔
      isObject n = true ∧ ∀ k v, n.child (.key k) = some v → acceptsField F fields k v = true := by
  rw [accepts]
  cases hn with
  | scalar s => cases s <;> simp [eachMember, isObject, Node.child]
  | seq _ => simp [eachMember, isObject]
  | @ofEntries entries sorted _ =>
    have hmem (k : String) (v : Node) : entries.lookup k = some v ↔ (k, v) ∈ entries :=
      lookup_eq_some_iff_mem (nodup_of_sorted sorted)
    simp only [child_ofEntries, hmem]
    simp [eachMember, isObject, ofEntries]

theorem lookup_filter (p : String → Bool) (f : List (String × Schema)) (h : p k = true) :
    (f.filter fun field => p field.1).lookup k = f.lookup k := by
  induction f with
  | nil => rfl
  | cons field rest ih =>
    obtain ⟨name, s⟩ := field
    by_cases hname : p name = true
    · simp [hname, lookup_cons_pair, ih]
    · have hne : k ≠ name := fun heq => hname (heq ▸ h)
      simp [hname, lookup_cons_pair, ih, hne]

theorem accepts_object_of_le {name : String}
    (h : leFields (f.filter fun field => field.1 ≠ name) g = true) (hn : Canonical n)
    (hf : accepts F (.object f) n = true) :
    accepts F (.object g) n = true ↔
      ∀ v, n.child (.key name) = some v → acceptsField F g name v = true := by
  rw [accepts_object_iff hn] at hf ⊢
  constructor
  · exact fun hg v => hg.2 name v
  · refine fun hg => ⟨hf.1, fun k v hv => ?_⟩
    by_cases hk : k = name
    · subst hk
      exact hg v hv
    · obtain ⟨s, hlookup, hs⟩ := acceptsField_iff.mp (hf.2 k v hv)
      rw [← lookup_filter (fun k => decide (k ≠ name)) f (by simpa using hk)] at hlookup
      obtain ⟨-, t, ht, hle⟩ := lookup_of_leFields h hlookup
      exact acceptsField_iff.mpr ⟨t, ht, accepts_of_le hle hs⟩

end KubeOne.Config
