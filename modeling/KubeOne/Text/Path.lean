import Mathlib.Data.List.TakeWhile

/-! Paths with separators: splitting a text at a character, the last element of a path, and the
part of a text from the first place where another one occurs. -/

namespace KubeOne.Text

open List

/-- The pieces of a text between the separators; the empty text has one piece. -/
def split (sep : Char) : List Char → List (List Char)
  | [] => [[]]
  | c :: cs =>
    if c = sep then [] :: split sep cs
    else match split sep cs with
      | [] => [[c]]
      | piece :: rest => (c :: piece) :: rest

variable {sep : Char} {a b : List Char}

theorem split_ne_nil (sep : Char) (a : List Char) : split sep a ≠ [] := by
  cases a with
  | nil => simp [split]
  | cons c cs =>
    unfold split
    split
    · simp
    · split <;> simp

variable {piece : List Char}

theorem split_cons_of_ne {c : Char} (h : c ≠ sep) {rest : List (List Char)}
    (hs : split sep a = piece :: rest) : split sep (c :: a) = (c :: piece) :: rest := by
  rw [split, if_neg h, hs]

theorem split_append_of_notMem (h : sep ∉ a) {rest : List (List Char)}
    (hs : split sep b = piece :: rest) : split sep (a ++ b) = (a ++ piece) :: rest := by
  induction a with
  | nil => exact hs
  | cons c cs ih =>
    rw [mem_cons, not_or] at h
    exact split_cons_of_ne (Ne.symm h.1) (ih h.2)

theorem split_of_notMem (h : sep ∉ a) : split sep a = [a] := by
  simpa using split_append_of_notMem h (b := []) rfl

theorem split_append (h : sep ∉ a) : split sep (a ++ sep :: b) = a :: split sep b := by
  simpa using split_append_of_notMem h (b := sep :: b) (if_pos rfl)

theorem length_split (sep : Char) (a : List Char) : (split sep a).length = a.count sep + 1 := by
  induction a with
  | nil => simp [split]
  | cons c cs ih =>
    by_cases h : c = sep
    · subst h
      simp [split, ih]
    · cases hs : split sep cs with
      | nil => exact absurd hs (split_ne_nil sep cs)
      | cons piece rest =>
        rw [split_cons_of_ne h hs, count_cons_of_ne h, ← ih, hs]
        simp

theorem eq_of_split_eq_singleton (h : split sep a = [piece]) : sep ∉ a ∧ piece = a := by
  have hcount : a.count sep = 0 := by
    have hlen := length_split sep a
    rw [h, length_singleton] at hlen
    omega
  have hmem : sep ∉ a := count_eq_zero.mp hcount
  rw [split_of_notMem hmem] at h
  exact ⟨hmem, by simpa using h.symm⟩

/-- The last element of a path without its trailing slashes. -/
def base (path : String) : String :=
  let stripped := path.toList.reverse.dropWhile (· = '/')
  if path = "" then "."
  else if stripped = [] then "/"
  else .ofList (stripped.takeWhile (· ≠ '/')).reverse

theorem base_of_notMem {path : String} (h : '/' ∉ path.toList) (hne : path ≠ "") :
    base path = path := by
  have hall : ∀ c ∈ path.toList.reverse, c ≠ '/' := by
    intro c hc heq
    exact h (heq ▸ mem_reverse.1 hc)
  have hstripped : path.toList.reverse.dropWhile (· = '/') = path.toList.reverse :=
    dropWhile_eq_self_iff.2 fun hlen => by simpa using hall _ (getElem_mem hlen)
  have htaken : path.toList.reverse.takeWhile (· ≠ '/') = path.toList.reverse :=
    takeWhile_eq_self_iff.2 fun c hc => by simpa using hall c hc
  have hlist : path.toList.reverse ≠ [] := by simpa using hne
  unfold base
  rw [hstripped, if_neg hne, if_neg hlist, htaken, reverse_reverse, String.ofList_toList]

def isAbs (path : String) : Bool := path.toList.head? == some '/'

/-- One more element of a path, the elements before it in reverse; `..` takes the last one away. -/
def cleanStep (rooted : Bool) (elems : List (List Char)) (e : List Char) : List (List Char) :=
  if e = [] ∨ e = ['.'] then elems
  else if e = ['.', '.'] then
    match elems with
    | [] => if rooted then [] else [e]
    | last :: rest => if last = ['.', '.'] then e :: elems else rest
  else e :: elems

/-- The shortest path of the same meaning, without a look at the disk. -/
def clean (path : String) : String :=
  let elems := ((split '/' path.toList).foldl (cleanStep (isAbs path)) []).reverse
  let body := String.ofList (['/'].intercalate elems)
  if isAbs path then "/" ++ body else if elems = [] then "." else body

def join (a b : String) : String :=
  if a = "" then (if b = "" then "" else clean b)
  else if b = "" then clean a
  else clean (a ++ "/" ++ b)

def dir (path : String) : String :=
  clean (String.ofList (path.toList.reverse.dropWhile (· ≠ '/')).reverse)

/-- The absolute path, seen from a working directory. -/
def abs (cwd path : String) : String := if isAbs path then clean path else join cwd path

/-- The text from the first occurrence of another one. -/
def fromFirst (sub : List Char) : List Char → Option (List Char)
  | [] => if sub = [] then some [] else none
  | c :: cs => if sub <+: c :: cs then some (c :: cs) else fromFirst sub cs

theorem fromFirst_append (h : a ≠ []) : fromFirst a (a ++ b) = some (a ++ b) := by
  cases a with
  | nil => exact absurd rfl h
  | cons c cs =>
    rw [cons_append, fromFirst, if_pos]
    exact prefix_append (c :: cs) b

end KubeOne.Text
