import Mathlib.Data.List.Infix

/-! The escaping of template delimiters in addons that are no templates, and what undoes it. -/

namespace KubeOne.Addons.Delimiters

open List

/-- A replacer of strings: where one of the patterns fits it is replaced, the first of several, and
the search goes on behind it. The number is how much of the text is still to be skipped. -/
def replaceFrom (patterns : List (List Char × List Char)) : ℕ → List Char → List Char
  | _, [] => []
  | skip + 1, _ :: s => replaceFrom patterns skip s
  | 0, c :: s =>
    match patterns.find? (·.1.isPrefixOf (c :: s)) with
    | some (old, new) => new ++ replaceFrom patterns (old.length - 1) s
    | none => c :: replaceFrom patterns 0 s

def replaceAll (old new s : List Char) : List Char := replaceFrom [(old, new)] 0 s

def escapeTemplateDelimiters (s : List Char) : List Char :=
  replaceAll ['}', '}'] ['}', '}', '^'] (replaceAll ['{', '{'] ['^', '{', '{'] s)

def templateDelimitersUnescaper (s : List Char) : List Char :=
  replaceFrom [(['^', '{', '{'], ['{', '{']), (['}', '}', '^'], ['}', '}'])] 0 s

/-- Both steps of the escaping at once. -/
def escaped : List Char → List Char
  | '{' :: '{' :: s => '^' :: '{' :: '{' :: escaped s
  | '}' :: '}' :: s => '}' :: '}' :: '^' :: escaped s
  | c :: s => c :: escaped s
  | [] => []

variable {c : Char} {s : List Char}

theorem replaceFrom_cons {patterns : List (List Char × List Char)}
    (h : ∀ p ∈ patterns, ¬ p.1 <+: c :: s) :
    replaceFrom patterns 0 (c :: s) = c :: replaceFrom patterns 0 s := by
  have hnone : patterns.find? (·.1.isPrefixOf (c :: s)) = none := by simpa using h
  rw [replaceFrom, hnone]

theorem head_opened (hc : c ≠ '^') (h : [c] <+: replaceAll ['{', '{'] ['^', '{', '{'] s) :
    [c] <+: s := by
  cases s with
  | nil => exact h
  | cons d s =>
    by_cases hopen : ['{', '{'] <+: d :: s
    · obtain ⟨r, hr⟩ := hopen
      rw [← hr] at h
      exact absurd (cons_prefix_cons.mp h).1 hc
    · rw [replaceAll, replaceFrom_cons (by simpa using hopen)] at h
      exact cons_prefix_cons.mpr ⟨(cons_prefix_cons.mp h).1, nil_prefix⟩

theorem head_escaped (hc : c ≠ '^') (h : [c] <+: escaped s) : [c] <+: s := by
  revert h
  fun_cases escaped s <;> simp [hc]

theorem not_prefix {d : Char} (h : ∀ r, c = d → s = d :: r → False) (hc : d = c) : ¬ [d] <+: s := by
  rintro ⟨r, rfl⟩
  exact h r hc.symm rfl

theorem not_open_escaped (s : List Char) : ¬ ['{', '{'] <+: escaped s := by
  fun_cases escaped s with
  | case3 c s hopen =>
    rw [cons_prefix_cons]
    exact fun h => not_prefix hopen h.1 (head_escaped (by decide) h.2)
  | _ => simp

theorem escapeTemplateDelimiters_eq (s : List Char) : escapeTemplateDelimiters s = escaped s := by
  fun_induction escaped s with
  | case1 s ih => exact congrArg (['^', '{', '{'] ++ ·) ih
  | case2 s ih => exact congrArg (['}', '}', '^'] ++ ·) ih
  | case3 c s hopen hclose ih =>
    have hstep : ¬ ['{', '{'] <+: c :: s := fun h =>
      not_prefix hopen (cons_prefix_cons.mp h).1 (cons_prefix_cons.mp h).2
    have hstep' : ¬ ['}', '}'] <+: c :: replaceAll ['{', '{'] ['^', '{', '{'] s := fun h =>
      not_prefix hclose (cons_prefix_cons.mp h).1
        (head_opened (by decide) (cons_prefix_cons.mp h).2)
    rw [← ih]
    unfold escapeTemplateDelimiters
    rw [replaceAll, replaceAll, replaceFrom_cons (s := s) (by simpa using hstep)]
    exact replaceFrom_cons (by simpa [replaceAll] using hstep')
  | case4 => rfl

/-- The escaping is undone, for every text. -/
theorem unescape_escape (s : List Char) :
    templateDelimitersUnescaper (escapeTemplateDelimiters s) = s := by
  rw [escapeTemplateDelimiters_eq]
  fun_induction escaped s with
  | case1 s ih => exact congrArg (['{', '{'] ++ ·) ih
  | case2 s ih => exact congrArg (['}', '}'] ++ ·) ih
  | case3 c s hopen hclose ih =>
    have hstep : ¬ ['}', '}', '^'] <+: c :: escaped s := by
      rw [cons_prefix_cons]
      rintro ⟨hc, r, hr⟩
      exact not_prefix hclose hc (head_escaped (by decide) ⟨'^' :: r, hr⟩)
    rw [templateDelimitersUnescaper, replaceFrom_cons]
    · exact congrArg (c :: ·) ih
    · simpa [cons_prefix_cons, not_open_escaped] using hstep
  | case4 => rfl

end KubeOne.Addons.Delimiters
