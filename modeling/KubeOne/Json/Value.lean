import KubeOne.Collections.Assoc
import KubeOne.Json.Float64
import Mathlib.Data.List.Sort
import Mathlib.Data.String.Basic

/-! JSON values. An object is the list of its members as they are written. A value that is read
without a type and printed again has its keys in order, the last value of each, and its numbers as
floating point. -/

namespace KubeOne

open Option

open Collections (put foldl_put_of_nodup lookup_foldl_put lookup_cons_pair)

def each {α β : Type} (f : α → Option β) : List α → Option (List β)
  | [] => some []
  | a :: items => (f a).bind fun b => (each f items).map (b :: ·)

theorem each_eq_some_iff {α β : Type} {f : α → Option β} {items : List α} {bs : List β} :
    each f items = some bs ↔ List.Forall₂ (fun a b => f a = some b) items bs := by
  induction items generalizing bs with
  | nil => simp [each, eq_comm]
  | cons a items ih =>
    cases bs with
    | nil => simp [each, bind_eq_some_iff]
    | cons b bs => simp [each, bind_eq_some_iff, ih]

inductive Json
  | null
  | bool (b : Bool)
  | num (n : ℚ)
  | str (s : String)
  | arr (items : List Json)
  | obj (members : List (String × Json))

namespace Json

section Maps

variable {α : Type} {members : List (String × α)}

def goMap (members : List (String × α)) : List (String × α) :=
  members.foldl (fun m e => put m e.1 e.2) []

def sortKeys (m : List (String × α)) : List (String × α) := m.insertionSort fun a b => a.1 ≤ b.1

abbrev KeysSorted (members : List (String × α)) : Prop := members.Pairwise fun a b => a.1 < b.1

theorem KeysSorted.nodup (h : KeysSorted members) : (members.map Prod.fst).Nodup := by
  rw [List.Nodup, List.pairwise_map]
  exact h.imp fun hlt => ne_of_lt hlt

theorem goMap_of_nodup (h : (members.map Prod.fst).Nodup) : goMap members = members := by
  rw [goMap, foldl_put_of_nodup h (by simp), List.nil_append]

theorem sortKeys_of_sorted (h : KeysSorted members) : sortKeys members = members :=
  List.Pairwise.insertionSort_eq (h.imp fun hlt => le_of_lt hlt)

end Maps

mutual

/-- The value after it was read without a type and printed; a number can be too large. -/
def reread : Json → Option Json
  | .num n => (Float64.reread n).map .num
  | .arr items => (rereadItems items).map .arr
  | .obj members => (rereadMembers members).map fun ms => .obj (sortKeys (goMap ms))
  | j => some j

def rereadItems : List Json → Option (List Json)
  | [] => some []
  | j :: items => (reread j).bind fun j' => (rereadItems items).map (j' :: ·)

def rereadMembers : List (String × Json) → Option (List (String × Json))
  | [] => some []
  | (k, j) :: members =>
    (reread j).bind fun j' => (rereadMembers members).map ((k, j') :: ·)

end

theorem rereadItems_eq_each (items : List Json) : rereadItems items = each reread items := by
  induction items with
  | nil => rfl
  | cons j items ih => rw [rereadItems, each, ih]

theorem rereadMembers_eq_each (members : List (String × Json)) :
    rereadMembers members = each (fun m => (reread m.2).map fun j => (m.1, j)) members := by
  induction members with
  | nil => rfl
  | cons m members ih =>
    obtain ⟨k, j⟩ := m
    rw [rereadMembers, each, ih]
    cases reread j <;> rfl

variable {members members' : List (String × Json)}

theorem rereadMembers_eq_some_iff : rereadMembers members = some members' ↔
      List.Forall₂ (fun m m' => m'.1 = m.1 ∧ reread m.2 = some m'.2) members members' := by
  have hmember : (fun (m m' : String × Json) => ((reread m.2).map fun j => (m.1, j)) = some m') =
      fun m m' => m'.1 = m.1 ∧ reread m.2 = some m'.2 := by
    funext m m'
    obtain ⟨k', j'⟩ := m'
    simp [and_comm, eq_comm]
  rw [rereadMembers_eq_each, each_eq_some_iff, hmember]

theorem lookup_rereadMembers (h : rereadMembers members = some members') (k : String) :
    members'.lookup k = (members.lookup k).bind reread := by
  rw [rereadMembers_eq_some_iff] at h
  induction h with
  | nil => rfl
  | cons hm _ ih =>
    rw [lookup_cons_pair, lookup_cons_pair, ih, hm.1]
    split
    · exact hm.2.symm
    · rfl

theorem rereadMembers_eq_self
    (h : ∀ m ∈ members, reread m.2 = some m.2) : rereadMembers members = some members := by
  rw [rereadMembers_eq_some_iff, List.forall₂_same]
  exact fun m hm => ⟨rfl, h m hm⟩

theorem keys_rereadMembers (h : rereadMembers members = some members') :
    members'.map Prod.fst = members.map Prod.fst := by
  rw [rereadMembers_eq_some_iff] at h
  induction h with
  | nil => rfl
  | cons hm _ ih => rw [List.map_cons, List.map_cons, ih, hm.1]

mutual

def Sorted : Json → Prop
  | .arr items => SortedItems items
  | .obj members => KeysSorted members ∧ SortedMembers members
  | _ => True

def SortedItems : List Json → Prop
  | [] => True
  | j :: items => j.Sorted ∧ SortedItems items

def SortedMembers : List (String × Json) → Prop
  | [] => True
  | (_, j) :: members => j.Sorted ∧ SortedMembers members

end

theorem sortedItems_iff {items : List Json} : SortedItems items ↔ ∀ j ∈ items, j.Sorted := by
  induction items with
  | nil => simp [SortedItems]
  | cons j items ih => simp [SortedItems, ih]

theorem sortedMembers_iff : SortedMembers members ↔ ∀ m ∈ members, m.2.Sorted := by
  induction members with
  | nil => simp [SortedMembers]
  | cons m members ih => simp [SortedMembers, ih]

theorem reread_arr (items : List Json) : reread (.arr items) = (each reread items).map .arr := by
  rw [reread, rereadItems_eq_each]

theorem reread_eq_null {j : Json} (h : reread j = some .null) : j = .null := by
  cases j with
  | null => rfl
  | bool b => simp [reread] at h
  | num n => simp [reread] at h
  | str s => simp [reread] at h
  | arr items => simp [reread] at h
  | obj members => simp [reread] at h

theorem reread_obj (h : KeysSorted members) :
    reread (.obj members) = (rereadMembers members).map .obj := by
  rw [reread]
  cases hr : rereadMembers members with
  | none => rfl
  | some members' =>
    have hsorted : KeysSorted members' := by
      rw [KeysSorted, ← List.pairwise_map (f := Prod.fst), keys_rereadMembers hr, List.pairwise_map]
      exact h
    rw [map_some, map_some, goMap_of_nodup hsorted.nodup, sortKeys_of_sorted hsorted]

theorem reread_lookup (hsorted : KeysSorted members)
    (h : reread (.obj members) = some (.obj members)) {k : String} {j : Json}
    (hj : members.lookup k = some j) : reread j = some j := by
  rw [reread_obj hsorted, map_eq_some_iff] at h
  obtain ⟨members', hr, heq⟩ := h
  rw [Json.obj.inj heq] at hr
  have hlookup := lookup_rereadMembers hr k
  rwa [hj, bind_some, eq_comm] at hlookup

end Json

end KubeOne
