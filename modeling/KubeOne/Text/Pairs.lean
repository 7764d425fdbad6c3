import Mathlib.Data.List.DropRight

/-! Names and values in a text: what stands before and after the first separator, and a text
without the characters that surround it, such as the blanks of Unicode. -/

namespace KubeOne.Text

open List

/-- The parts before and after the first separator. -/
def cut (sep : Char) : List Char → Option (List Char × List Char)
  | [] => none
  | c :: cs => if c = sep then some ([], cs) else (cut sep cs).map fun p => (c :: p.1, p.2)

def pair (sep : Char) (p : List Char × List Char) : List Char := p.1 ++ sep :: p.2

/-- The text without such characters at its ends. -/
def trim (p : Char → Bool) (cs : List Char) : List Char := (cs.dropWhile p).rdropWhile p

def isSpace (c : Char) : Bool :=
  c.toNat ∈ [9, 10, 11, 12, 13, 32, 0x85, 0xA0, 0x1680, 0x2028, 0x2029, 0x202F, 0x205F, 0x3000] ||
    (0x2000 ≤ c.toNat && c.toNat ≤ 0x200A)

def trimSpace (cs : List Char) : List Char := trim isSpace cs

variable {sep : Char} {p : Char → Bool} {cs : List Char} {kv : List Char × List Char}

theorem cut_pair (h : sep ∉ kv.1) : cut sep (pair sep kv) = some kv := by
  obtain ⟨k, v⟩ := kv
  unfold pair
  induction k with
  | nil => simp [cut]
  | cons c k ih =>
    rw [mem_cons, not_or] at h
    have hk : cut sep (k ++ sep :: v) = some (k, v) := ih h.2
    simp [cut, Ne.symm h.1, hk]

theorem isDigit_of_mem_toString {c : Char} {n : ℕ} (h : c ∈ (toString n).toList) :
    c.isDigit = true := by
  rw [Nat.toString_eq_repr, Nat.toList_repr] at h
  exact Nat.isDigit_of_mem_toDigits (by decide) (by decide) h

theorem notMem_toString {c : Char} {n : ℕ} (hc : c.isDigit = false) : c ∉ (toString n).toList :=
  fun h => Bool.false_ne_true (hc.symm.trans (isDigit_of_mem_toString h))

theorem trim_eq_self (h : ∀ c ∈ cs, p c = false) : trim p cs = cs := by
  have hleft : cs.dropWhile p = cs := by
    refine dropWhile_eq_self_iff.mpr fun hl => ?_
    rw [h _ (getElem_mem hl)]
    decide
  rw [trim, hleft]
  refine rdropWhile_eq_self_iff.mpr fun hl => ?_
  rw [h _ (getLast_mem hl)]
  decide

theorem trim_between {before after : List Char} (hbefore : ∀ c ∈ before, p c = true)
    (hafter : ∀ c ∈ after, p c = true) (h : ∀ c ∈ cs, p c = false) :
    trim p (before ++ cs ++ after) = cs := by
  have hlast : ∀ l : List Char, (l ++ after).rdropWhile p = l.rdropWhile p := by
    intro l
    rw [rdropWhile, reverse_append, dropWhile_append_of_pos (by simpa using hafter), rdropWhile]
  unfold trim
  rw [append_assoc, dropWhile_append_of_pos hbefore]
  cases cs with
  | nil =>
    rw [nil_append, dropWhile_eq_nil_iff.2 hafter]
    rfl
  | cons c cs =>
    rw [cons_append, dropWhile_cons_of_neg (by simp [h c mem_cons_self]),
      ← cons_append, hlast, rdropWhile_eq_self_iff]
    intro hne
    simp [h _ (getLast_mem hne)]

theorem trim_of_forall (h : ∀ c ∈ cs, p c = false) : trim p cs = cs := by
  simpa using @trim_between p cs [] [] (by simp) (by simp) h

end KubeOne.Text
