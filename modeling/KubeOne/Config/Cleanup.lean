import KubeOne.Yamled.Context

/-! The cleanup of a migrated manifest, which removes what is null, zero or an empty mapping,
children first. A mapping that only becomes empty on the way stays, and so does the element of a
list that comes after a removed one. -/

namespace KubeOne.Config

open Yamled List Document

/-- A null value, the zero value of a scalar, or the nil slice of a mapping without items. -/
def isUnset : Node → Bool
  | .scalar .null => true
  | .scalar (.bool b) => !b
  | .scalar (.number n) => n = 0
  | .scalar (.str s) => s = ""
  | .mapSlice items => items.isEmpty
  | .seq _ | .goMap _ => false

def cleanupFn (path : Path) (value : Node) (d : Document) : Document :=
  if isUnset value then (d.remove path).1 else d

mutual

/-- What is left of a value; nothing, if it is removed. -/
def clean : Node → Option Node
  | .scalar s => if isUnset (.scalar s) then none else some (.scalar s)
  | .seq items => some (.seq (cleanSeq false items))
  | .mapSlice items => if items.isEmpty then none else some (.mapSlice (cleanItems items))
  | .goMap items => some (.goMap items)

/-- The element after a removed one is passed over. -/
def cleanSeq (passOver : Bool) : List Node → List Node
  | [] => []
  | n :: rest =>
    if passOver then n :: cleanSeq false rest
    else
      match clean n with
      | some n' => n' :: cleanSeq false rest
      | none => cleanSeq true rest

def cleanItems : List (Scalar × Node) → List (Scalar × Node)
  | [] => []
  | (k, n) :: rest =>
    match clean n with
    | some n' => (k, n') :: cleanItems rest
    | none => cleanItems rest

end

mutual

def depth : Node → ℕ
  | .scalar _ | .goMap _ => 1
  | .seq items => depthSeq items + 1
  | .mapSlice items => depthItems items + 1

def depthSeq : List Node → ℕ
  | [] => 0
  | n :: rest => max (depth n) (depthSeq rest)

def depthItems : List (Scalar × Node) → ℕ
  | [] => 0
  | (_, n) :: rest => max (depth n) (depthItems rest)

end

/-- In all mappings of the value the keys are strings, each of them once. -/
inductive Plain : Node → Prop
  | scalar (s : Scalar) : Plain (.scalar s)
  | seq {items : List Node} (items_plain : ∀ n ∈ items, Plain n) : Plain (.seq items)
  | mapSlice {items : List (Scalar × Node)} (keys : ∀ item ∈ items, ∃ k, item.1 = .str k)
      (nodup : (items.map Prod.fst).Nodup) (items_plain : ∀ item ∈ items, Plain item.2) :
      Plain (.mapSlice items)

theorem depth_le_depthSeq {items : List Node} {n : Node} (h : n ∈ items) :
    depth n ≤ depthSeq items := by
  induction items with
  | nil => cases h
  | cons m rest ih =>
    rcases mem_cons.mp h with rfl | h
    · exact Nat.le_max_left _ _
    · exact Nat.le_trans (ih h) (Nat.le_max_right _ _)

theorem depth_le_depthItems {items : List (Scalar × Node)} {item : Scalar × Node}
    (h : item ∈ items) : depth item.2 ≤ depthItems items := by
  induction items with
  | nil => cases h
  | cons m rest ih =>
    rcases mem_cons.mp h with rfl | h
    · exact Nat.le_max_left _ _
    · exact Nat.le_trans (ih h) (Nat.le_max_right _ _)

section Walk

variable {path : Path} (C : Context path) {fuel : ℕ}

/-- What a walk from a value does, wherever it is. -/
def Cleans (n : Node) (fuel : ℕ) : Prop :=
  ∀ (path : Path) (C : Context path), Document.walk cleanupFn fuel path (C.fill n) =
    match clean n with
    | some n' => C.fill n'
    | none => ((C.fill n).remove path).1

theorem walk_beyond {items : List Node} (start m : ℕ) (h : items.length ≤ start) :
    ((List.range' start m).map Step.index).foldl
      (fun d step => walk cleanupFn fuel (step :: path) d) (C.fill (.seq items)) =
        C.fill (.seq items) := by
  induction m generalizing start with
  | zero => rfl
  | succ m ih =>
    have hnone : (C.fill (.seq items)).get (.index start :: path) = none := by
      simp [Document.get, C.get_fill, Node.child, h]
    have hwalk : walk cleanupFn fuel (.index start :: path) (C.fill (.seq items)) =
        C.fill (.seq items) := by
      cases fuel with
      | zero => rfl
      | succ fuel => simp [walk, hnone]
    rw [range'_succ, map_cons, foldl_cons, hwalk]
    exact ih (start + 1) (by omega)

theorem walk_seq {rest : List Node} (hrest : ∀ n ∈ rest, Cleans n fuel) (done : List Node)
    (m : ℕ) (hm : rest.length ≤ m) :
    ((List.range' done.length m).map Step.index).foldl
      (fun d step => walk cleanupFn fuel (step :: path) d) (C.fill (.seq (done ++ rest))) =
        C.fill (.seq (done ++ cleanSeq false rest)) := by
  induction m generalizing done rest with
  | zero =>
    obtain rfl := length_eq_zero_iff.mp (Nat.le_zero.mp hm)
    simp [cleanSeq]
  | succ m ih =>
    -- One more element is done, as it is or cleaned.
    have hstep (n : Node) (rest : List Node) (hrest : ∀ n ∈ rest, Cleans n fuel)
        (hm : rest.length ≤ m) :
        ((range' (done.length + 1) m).map Step.index).foldl
          (fun d step => walk cleanupFn fuel (step :: path) d)
          (C.fill (.seq (done ++ n :: rest))) =
            C.fill (.seq (done ++ n :: cleanSeq false rest)) := by
      simpa using ih hrest (done ++ [n]) hm
    cases rest with
    | nil =>
      rw [append_nil, cleanSeq, append_nil]
      exact walk_beyond C done.length (m + 1) (Nat.le_refl _)
    | cons n rest =>
      rw [forall_mem_cons] at hrest
      rw [length_cons] at hm
      have hwalk := hrest.1 _ (C.elem done rest)
      rw [range'_succ, map_cons, foldl_cons,
        show C.fill (.seq (done ++ n :: rest)) = (C.elem done rest).fill n from rfl, hwalk]
      cases hclean : clean n with
      | some n' =>
        simp only [cleanSeq, hclean, Bool.false_eq_true, if_false]
        exact hstep n' rest hrest.2 (by omega)
      | none =>
        simp only [cleanSeq, hclean, Bool.false_eq_true, if_false, Context.remove_elem]
        cases rest with
        | nil =>
          simp only [cleanSeq]
          exact walk_beyond C (done.length + 1) m (by simp)
        | cons next rest =>
          rw [length_cons] at hm
          simp only [cleanSeq, if_true]
          exact hstep next rest (fun n hn => hrest.2 n (mem_cons_of_mem _ hn)) (by omega)

theorem walk_items {rest : List (Scalar × Node)} (hrest : ∀ item ∈ rest, Cleans item.2 fuel)
    (done : List (Scalar × Node)) (hkeys : ∀ item ∈ done ++ rest, ∃ k, item.1 = .str k)
    (hnodup : ((done ++ rest).map Prod.fst).Nodup) :
    (rest.map fun item => item.1.step).foldl
      (fun d step => walk cleanupFn fuel (step :: path) d)
      (C.fill (.mapSlice (done ++ rest))) = C.fill (.mapSlice (done ++ cleanItems rest)) := by
  induction rest generalizing done with
  | nil => simp [cleanItems]
  | cons item rest ih =>
    obtain ⟨key, n⟩ := item
    obtain ⟨k, hk⟩ := hkeys (key, n) (by simp)
    obtain rfl : key = .str k := hk
    rw [forall_mem_cons] at hrest
    have hbefore : ∀ item ∈ done, item.1.text ≠ k := by
      intro item hitem heq
      obtain ⟨k', hk'⟩ := hkeys item (by simp [hitem])
      rw [map_append, nodup_append] at hnodup
      refine hnodup.2.2 item.1 (mem_map_of_mem hitem) (.str k) (by simp) ?_
      rw [hk'] at heq ⊢
      exact congrArg Scalar.str heq
    have hwalk := hrest.1 _ (C.item k done rest hbefore)
    rw [map_cons, foldl_cons, Scalar.step_str]
    rw [show C.fill (.mapSlice (done ++ (.str k, n) :: rest)) =
      (C.item k done rest hbefore).fill n from rfl, hwalk]
    cases hclean : clean n with
    | some n' =>
      have hnext := ih hrest.2 (done ++ [(.str k, n')])
        (by simpa [or_imp, forall_and] using hkeys) (by simpa using hnodup)
      simp only [append_assoc, singleton_append] at hnext
      rw [cleanItems, hclean]
      exact hnext
    | none =>
      rw [Context.remove_item, cleanItems, hclean]
      refine ih hrest.2 done (fun item hitem => hkeys item ?_) ?_
      · simp only [mem_append, mem_cons] at hitem ⊢
        exact hitem.imp_right .inr
      · refine hnodup.sublist ?_
        simp

end Walk

theorem cleans_of_plain {n : Node} (h : Plain n) {fuel : ℕ} (hfuel : depth n ≤ fuel) :
    Cleans n fuel := by
  induction h generalizing fuel with
  | scalar s =>
    intro path C
    cases fuel with
    | zero => simp [depth] at hfuel
    | succ fuel =>
      by_cases hs : isUnset (.scalar s) = true <;>
        simp [walk, C.get_fill, clean, cleanupFn, hs]
  | @seq items _ ih =>
    intro path C
    cases fuel with
    | zero => simp [depth] at hfuel
    | succ fuel =>
      rw [depth, Nat.add_le_add_iff_right] at hfuel
      have hall : ∀ n ∈ items, Cleans n fuel :=
        fun n hn => ih n hn (Nat.le_trans (depth_le_depthSeq hn) hfuel)
      have hwalk := walk_seq C hall [] items.length (Nat.le_refl _)
      rw [nil_append, nil_append, length_nil] at hwalk
      simp only [walk, C.get_fill, range_eq_range', hwalk, clean]
      rfl
  | @mapSlice items keys nodup _ ih =>
    intro path C
    cases fuel with
    | zero => simp [depth] at hfuel
    | succ fuel =>
      rw [depth, Nat.add_le_add_iff_right] at hfuel
      have hall : ∀ item ∈ items, Cleans item.2 fuel :=
        fun item hitem => ih item hitem (Nat.le_trans (depth_le_depthItems hitem) hfuel)
      have hwalk := walk_items C hall [] (by simpa using keys) (by simpa using nodup)
      rw [nil_append, nil_append] at hwalk
      simp only [walk, C.get_fill, hwalk, clean, cleanupFn, isUnset]
      cases items with
      | nil => rfl
      | cons item rest => rfl

end KubeOne.Config
