import KubeOne.Collections.Assoc
import KubeOne.Config.Cleanup
import Mathlib.Data.List.Sort
import Mathlib.Data.String.Basic

/-! The JSON form of a YAML value: keys become texts, the members of an object are sorted, and a
key that repeats is an error. The JSON form is its own JSON form, and so is what the cleanup
leaves of it. -/

namespace KubeOne.Config

open Collections (forall₂_mem_left lookup_cons_pair lookup_eq_some_iff_mem)
open Yamled List Option

def ofEntries (entries : List (String × Node)) : Node :=
  .mapSlice (entries.map fun e => (.str e.1, e.2))

def sortEntries (entries : List (String × Node)) : List (String × Node) :=
  entries.insertionSort fun a b => a.1 ≤ b.1

/-- Keys that are the same as texts have no definite value, also where they differ in the file. -/
def object (entries : List (String × Node)) : Option Node :=
  if (entries.map Prod.fst).Nodup then some (ofEntries (sortEntries entries)) else none

section Normal

variable (numberText : ℚ → String)

def keyText : Scalar → Option String
  | .str s => some s
  | .bool b => some (if b then "true" else "false")
  | .number n => some (numberText n)
  | .null => none

mutual

def normal : Node → Option Node
  | .scalar s => some (.scalar s)
  | .seq items => (normalSeq items).map .seq
  | .mapSlice items => (normalItems items).bind object
  | .goMap items => (normalEntries items).bind object

def normalSeq : List Node → Option (List Node)
  | [] => some []
  | n :: rest => (normal n).bind fun n' => (normalSeq rest).map (n' :: ·)

def normalItems : List (Scalar × Node) → Option (List (String × Node))
  | [] => some []
  | (k, n) :: rest =>
    (keyText numberText k).bind fun k' =>
      (normal n).bind fun n' => (normalItems rest).map ((k', n') :: ·)

def normalEntries : List (String × Node) → Option (List (String × Node))
  | [] => some []
  | (k, n) :: rest => (normal n).bind fun n' => (normalEntries rest).map ((k, n') :: ·)

end

end Normal

variable {n : Node}

section Objects

variable {entries entries' : List (String × Node)}

@[simp] theorem child_ofEntries (k : String) (entries : List (String × Node)) :
    (ofEntries entries).child (.key k) = entries.lookup k := by
  rw [ofEntries, Node.child]
  induction entries with
  | nil => rfl
  | cons e rest ih =>
    obtain ⟨name, n⟩ := e
    by_cases h : name = k
    · simp [h]
    · simpa [lookup_cons_pair, h, Ne.symm h] using ih

theorem lookup_perm (h : entries.Perm entries') (hnodup : (entries.map Prod.fst).Nodup)
    (k : String) : entries.lookup k = entries'.lookup k := by
  have hnodup' : (entries'.map Prod.fst).Nodup := (h.map Prod.fst).nodup_iff.mp hnodup
  refine ext fun n => ?_
  rw [lookup_eq_some_iff_mem hnodup, lookup_eq_some_iff_mem hnodup', h.mem_iff]

theorem sortEntries_perm (entries : List (String × Node)) : (sortEntries entries).Perm entries :=
  perm_insertionSort _ entries

theorem object_eq_some_iff :
    object entries = some n ↔
      (entries.map Prod.fst).Nodup ∧ n = ofEntries (sortEntries entries) := by
  unfold object
  split <;> simp_all [eq_comm]

theorem child_object (h : object entries = some n) (k : String) :
    n.child (.key k) = entries.lookup k := by
  obtain ⟨hnodup, rfl⟩ := object_eq_some_iff.mp h
  rw [child_ofEntries, lookup_perm (sortEntries_perm entries).symm hnodup]

end Objects

variable {items : List (Scalar × Node)}

section Parts

variable {numberText : ℚ → String}

theorem normalSeq_eq_some_iff {items items' : List Node} :
    normalSeq numberText items = some items' ↔
      List.Forall₂ (fun n n' => normal numberText n = some n') items items' := by
  induction items generalizing items' with
  | nil => simp [normalSeq, eq_comm]
  | cons n rest ih =>
    cases items' with
    | nil => simp [normalSeq, bind_eq_some_iff]
    | cons n' rest' => simp [normalSeq, bind_eq_some_iff, ih]

theorem normalItems_eq_some_iff {entries : List (String × Node)} :
    normalItems numberText items = some entries ↔
      List.Forall₂ (fun item e => keyText numberText item.1 = some e.1 ∧
        normal numberText item.2 = some e.2) items entries := by
  induction items generalizing entries with
  | nil => simp [normalItems, eq_comm]
  | cons item rest ih =>
    cases entries with
    | nil => simp [normalItems, bind_eq_some_iff]
    | cons e rest' =>
      obtain ⟨k, n⟩ := e
      simp [normalItems, bind_eq_some_iff, ih, and_assoc]

theorem normalEntries_eq_some_iff {items entries : List (String × Node)} :
    normalEntries numberText items = some entries ↔
      List.Forall₂ (fun item e => item.1 = e.1 ∧ normal numberText item.2 = some e.2)
        items entries := by
  induction items generalizing entries with
  | nil => simp [normalEntries, eq_comm]
  | cons item rest ih =>
    cases entries with
    | nil => simp [normalEntries, bind_eq_some_iff]
    | cons e rest' =>
      obtain ⟨k, n⟩ := e
      simp [normalEntries, bind_eq_some_iff, ih, and_assoc, and_left_comm, and_comm]

end Parts

/-- All keys are texts, and the members of an object are sorted. -/
inductive Canonical : Node → Prop
  | scalar (s : Scalar) : Canonical (.scalar s)
  | seq {items : List Node} (parts : ∀ n ∈ items, Canonical n) : Canonical (.seq items)
  | ofEntries {entries : List (String × Node)} (sorted : entries.Pairwise (·.1 < ·.1))
      (parts : ∀ e ∈ entries, Canonical e.2) : Canonical (ofEntries entries)

theorem nodup_of_sorted {entries : List (String × Node)}
    (h : entries.Pairwise (·.1 < ·.1)) : (entries.map Prod.fst).Nodup := by
  rw [List.Nodup, pairwise_map]
  exact h.imp fun hlt => hlt.ne

theorem canonical_object {entries : List (String × Node)}
    (hparts : ∀ e ∈ entries, Canonical e.2) (h : object entries = some n) : Canonical n := by
  obtain ⟨hnodup, rfl⟩ := object_eq_some_iff.mp h
  have hperm := sortEntries_perm entries
  refine .ofEntries ?_ fun e he => hparts e (hperm.mem_iff.mp he)
  have hle : (sortEntries entries).Pairwise (·.1 ≤ ·.1) := pairwise_insertionSort _ _
  have hne : (sortEntries entries).Pairwise (·.1 ≠ ·.1) :=
    pairwise_map.mp ((hperm.map Prod.fst).nodup_iff.mpr hnodup)
  exact (hle.and hne).imp fun hab => lt_of_le_of_ne hab.1 hab.2

theorem forall₂_right {α β : Type} {R : α → β → Prop} {P : β → Prop} {xs : List α} {ys : List β}
    (h : List.Forall₂ R xs ys) (hP : ∀ x ∈ xs, ∀ y, R x y → P y) : ∀ y ∈ ys, P y := by
  intro y hy
  obtain ⟨x, hx, hxy⟩ := forall₂_mem_left h.flip hy
  exact hP x hx y hxy

variable {numberText : ℚ → String}

theorem canonical_normal {n' : Node} (h : normal numberText n = some n') : Canonical n' := by
  induction n generalizing n' with
  | scalar s =>
    obtain rfl : Node.scalar s = n' := by simpa [normal] using h
    exact .scalar s
  | seq items ih =>
    obtain ⟨items', hitems, rfl⟩ := map_eq_some_iff.mp h
    exact .seq (forall₂_right (normalSeq_eq_some_iff.mp hitems) fun n hn n' => ih n hn)
  | mapSlice items ih =>
    obtain ⟨entries, hentries, hobject⟩ := bind_eq_some_iff.mp h
    exact canonical_object (forall₂_right (normalItems_eq_some_iff.mp hentries)
      fun item hitem e he => ih item hitem he.2) hobject
  | goMap items ih =>
    obtain ⟨entries, hentries, hobject⟩ := bind_eq_some_iff.mp h
    exact canonical_object (forall₂_right (normalEntries_eq_some_iff.mp hentries)
      fun item hitem e he => ih item hitem he.2) hobject

theorem normal_of_canonical (h : Canonical n) : normal numberText n = some n := by
  induction h with
  | scalar s => rfl
  | @seq items _ ih =>
    have hitems : normalSeq numberText items = some items :=
      normalSeq_eq_some_iff.mpr (forall₂_same.mpr ih)
    rw [normal, hitems]
    rfl
  | @ofEntries entries sorted _ ih =>
    have hentries : normalItems numberText (entries.map fun e => (Scalar.str e.1, e.2)) =
        some entries := by
      rw [normalItems_eq_some_iff, forall₂_map_left_iff]
      exact forall₂_same.mpr fun e he => ⟨rfl, ih e he⟩
    have hsort : sortEntries entries = entries :=
      List.Pairwise.insertionSort_eq (sorted.imp fun hlt => hlt.le)
    rw [Config.ofEntries, normal, hentries, bind_some, object,
      if_pos (nodup_of_sorted sorted), hsort]
    rfl

theorem Canonical.plain (h : Canonical n) : Plain n := by
  induction h with
  | scalar s => exact .scalar s
  | seq _ ih => exact .seq ih
  | @ofEntries entries sorted _ ih =>
    refine .mapSlice (forall_mem_map.mpr fun e _ => ⟨e.1, rfl⟩) ?_
      (forall_mem_map.mpr fun e he => ih e he)
    have hkeys : (entries.map fun e => (Scalar.str e.1, e.2)).map Prod.fst =
        (entries.map Prod.fst).map Scalar.str := by
      simp
    rw [hkeys]
    exact (nodup_of_sorted sorted).map fun a b hab => Scalar.str.inj hab

def cleanEntries (entries : List (String × Node)) : List (String × Node) :=
  entries.filterMap fun e => (clean e.2).map (Prod.mk e.1)

theorem cleanItems_eq (entries : List (String × Node)) :
    Node.mapSlice (cleanItems (entries.map fun e => (Scalar.str e.1, e.2))) =
      ofEntries (cleanEntries entries) := by
  congr 1
  induction entries with
  | nil => rfl
  | cons e rest ih =>
    cases h : clean e.2 <;> simp [cleanItems, cleanEntries, h] <;> exact ih

@[simp] theorem clean_ofEntries (entries : List (String × Node)) :
    clean (ofEntries entries) =
      if entries = [] then none else some (ofEntries (cleanEntries entries)) := by
  rw [← cleanItems_eq, ofEntries, clean]
  simp

theorem mem_cleanSeq {items : List Node} {passOver : Bool} (h : n ∈ cleanSeq passOver items) :
    (∃ m ∈ items, clean m = some n) ∨
      n ∈ items ∧ (passOver = true ∨ ∃ m ∈ items, clean m = none) := by
  induction items generalizing passOver with
  | nil => simp [cleanSeq] at h
  | cons m rest ih =>
    rw [cleanSeq] at h
    simp only [mem_cons, exists_eq_or_imp]
    split at h
    · next hpass =>
      rcases mem_cons.mp h with rfl | h
      · simp [hpass]
      · rcases ih h with hrest | ⟨hn, _⟩
        · exact .inl (.inr hrest)
        · exact .inr ⟨.inr hn, .inl hpass⟩
    · split at h
      · next m' hm' =>
        rcases mem_cons.mp h with rfl | h
        · exact .inl (.inl hm')
        · rcases ih h with hrest | ⟨hn, hfalse | hnone⟩
          · exact .inl (.inr hrest)
          · cases hfalse
          · exact .inr ⟨.inr hn, .inr (.inr hnone)⟩
      · next hm =>
        rcases ih h with hrest | ⟨hn, _⟩
        · exact .inl (.inr hrest)
        · exact .inr ⟨.inr hn, .inr (.inl hm)⟩

theorem Canonical.clean {n n' : Node} (h : Canonical n) (hclean : clean n = some n') :
    Canonical n' := by
  induction h generalizing n' with
  | scalar s =>
    rw [Config.clean] at hclean
    split at hclean
    · cases hclean
    · obtain rfl := some.inj hclean
      exact .scalar s
  | @seq items parts ih =>
    rw [Config.clean, some.injEq] at hclean
    subst hclean
    refine .seq fun n hn => ?_
    rcases mem_cleanSeq hn with ⟨m, hm, hclean⟩ | ⟨hn, _⟩
    · exact ih m hm hclean
    · exact parts n hn
  | @ofEntries entries sorted parts ih =>
    rw [clean_ofEntries] at hclean
    split at hclean
    · cases hclean
    · obtain rfl := some.inj hclean
      refine .ofEntries ?_ fun e he => ?_
      · refine List.Pairwise.filterMap _ (fun a b hab a' ha b' hb => ?_) sorted
        obtain ⟨_, _, rfl⟩ := map_eq_some_iff.mp ha
        obtain ⟨_, _, rfl⟩ := map_eq_some_iff.mp hb
        exact hab
      · obtain ⟨m, hm, hmap⟩ := mem_filterMap.mp he
        obtain ⟨n, hn, rfl⟩ := map_eq_some_iff.mp hmap
        exact ih m hm hn

mutual

/-- Nothing in the value is null, zero or an empty mapping. -/
def tidy : Node → Bool
  | .scalar s => !isUnset (.scalar s)
  | .seq items => tidySeq items
  | .mapSlice items => !items.isEmpty && tidyItems items
  | .goMap _ => true

def tidySeq : List Node → Bool
  | [] => true
  | n :: rest => tidy n && tidySeq rest

def tidyItems : List (Scalar × Node) → Bool
  | [] => true
  | (_, n) :: rest => tidy n && tidyItems rest

end

theorem length_cleanSeq_le (items : List Node) (passOver : Bool) :
    (cleanSeq passOver items).length ≤ items.length := by
  induction items generalizing passOver with
  | nil => simp [cleanSeq]
  | cons n rest ih =>
    have htrue := ih true
    have hfalse := ih false
    rw [cleanSeq]
    split
    · simpa using hfalse
    · split <;> simp <;> omega

theorem length_cleanItems_le (items : List (Scalar × Node)) :
    (cleanItems items).length ≤ items.length := by
  induction items with
  | nil => simp [cleanItems]
  | cons item rest ih =>
    rw [cleanItems]
    split <;> simp <;> omega

theorem cleanSeq_eq_self_iff {items : List Node} :
    cleanSeq false items = items ↔ ∀ n ∈ items, clean n = some n := by
  induction items with
  | nil => simp [cleanSeq]
  | cons n rest ih =>
    rw [forall_mem_cons, ← ih, cleanSeq, if_neg Bool.false_ne_true]
    cases hclean : clean n with
    | some n' => simp
    | none =>
      have hlen := length_cleanSeq_le rest true
      have hne : cleanSeq true rest ≠ n :: rest := by
        intro h
        simp [h] at hlen
      simp [hne]

theorem cleanItems_eq_self_iff :
    cleanItems items = items ↔ ∀ item ∈ items, clean item.2 = some item.2 := by
  induction items with
  | nil => simp [cleanItems]
  | cons item rest ih =>
    obtain ⟨k, n⟩ := item
    rw [forall_mem_cons, ← ih, cleanItems]
    cases hclean : clean n with
    | some n' => simp
    | none =>
      have hlen := length_cleanItems_le rest
      have hne : cleanItems rest ≠ (k, n) :: rest := by
        intro h
        simp [h] at hlen
      simp [hne]

theorem tidySeq_iff {items : List Node} : tidySeq items = true ↔ ∀ n ∈ items, tidy n = true := by
  induction items with
  | nil => simp [tidySeq]
  | cons n rest ih => simp [tidySeq, ih]

theorem tidyItems_iff : tidyItems items = true ↔ ∀ item ∈ items, tidy item.2 = true := by
  induction items with
  | nil => simp [tidyItems]
  | cons item rest ih => simp [tidyItems, ih]

theorem clean_eq_self_iff : clean n = some n ↔ tidy n = true := by
  induction n with
  | scalar s => cases h : isUnset (.scalar s) <;> simp [clean, tidy, h]
  | seq items ih =>
    rw [clean, some.injEq, Node.seq.injEq, cleanSeq_eq_self_iff, tidy, tidySeq_iff]
    exact forall₂_congr ih
  | mapSlice items ih =>
    have hitems : (∀ item ∈ items, clean item.2 = some item.2) ↔
        ∀ item ∈ items, tidy item.2 = true := forall₂_congr ih
    cases items with
    | nil => simp [clean, tidy]
    | cons item rest =>
      rw [← cleanItems_eq_self_iff, ← tidyItems_iff] at hitems
      simp [clean, tidy, hitems]
  | goMap items => simp [clean, tidy]

end KubeOne.Config
