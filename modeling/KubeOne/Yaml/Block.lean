import KubeOne.Text.Path
import Mathlib

/-! Block style YAML, as far as it is read here: mappings and sequences by indentation, plain and
literal scalars, and the empty flow mapping. The reader says nothing about other texts, so an
implementation may be assumed to agree with it wherever it reads a document. -/

namespace KubeOne.Yaml

open Text List

/-- A document, with plain scalars as they are written. -/
inductive Tree
  | null
  | plain (text : String)
  | text (s : String)
  | seq (items : List Tree)
  | map (members : List (String × Tree))

abbrev Line := List Char

/-! ### Plain scalars -/

def isBlank (c : Char) : Bool := c = ' ' || c = '\t'

def isPrintable (c : Char) : Bool :=
  c = '\t' || 0x20 ≤ c.toNat && c.toNat ≤ 0x7e ||
    0xa0 ≤ c.toNat && c.toNat ≤ 0xfffd && c.toNat ≠ 0x2028 && c.toNat ≠ 0x2029 &&
      c.toNat ≠ 0xfeff ||
    0x10000 ≤ c.toNat

def indicators : Line := ",[]\x7b\x7d#&*!|>'\"%@`".toList

def startsPlain : Line → Bool
  | [] => false
  | c :: rest =>
    if c = '-' ∨ c = '?' ∨ c = ':' then
      match rest with
      | [] => false
      | d :: _ => !isBlank d
    else !isBlank c && c ∉ indicators

/-- There is no comment and no value of a mapping inside, and no blank at the end. -/
def staysPlain : Line → Bool
  | [] => true
  | [c] => !isBlank c && c ≠ ':'
  | c :: d :: rest =>
    !(isBlank c && d = '#') && !(c = ':' && isBlank d) && staysPlain (d :: rest)

def isPlain (v : Line) : Bool := startsPlain v && staysPlain v && v.all isPrintable

def reserved : List String :=
  ["y", "Y", "yes", "Yes", "YES", "n", "N", "no", "No", "NO", "true", "True", "TRUE", "false",
    "False", "FALSE", "on", "On", "ON", "off", "Off", "OFF", "null", "Null", "NULL"]

/-- Plain scalars that start with a letter, so that they are no numbers, and are not reserved. -/
def isWord (v : Line) : Bool :=
  match v with
  | [] => false
  | c :: _ => c.isAlpha && isPlain v && String.ofList v ∉ reserved

/-! ### Lines -/

def indent (l : Line) : ℕ := (l.takeWhile (· = ' ')).length

def body (l : Line) : Line := l.dropWhile (· = ' ')

def isEmpty (l : Line) : Bool := (body l).isEmpty

def isInside (n : ℕ) (l : Line) : Bool := isEmpty l || n < indent l

/-- Each line of an indentation with the deeper lines after it, and the deeper lines before all of
them. -/
def groups (n : ℕ) : List Line → List Line × List (Line × List Line)
  | [] => ([], [])
  | l :: rest =>
    if isInside n l then (l :: (groups n rest).1, (groups n rest).2)
    else ([], (l, (groups n rest).1) :: (groups n rest).2)

/-! ### The reader -/

/-- A literal scalar has the lines without the indentation of the first one, and one line break at
its end. -/
def readLiteral : List Line → Option String
  | [] => none
  | first :: rest =>
    let n := indent first
    if !isEmpty first && (first :: rest).all fun l =>
        (if isEmpty l then l.length ≤ n else n ≤ indent l) && l.all isPrintable then
      let content := ((first :: rest).map (·.drop n)).reverse.dropWhile (·.isEmpty)
      some (.ofList (content.reverse.flatMap (· ++ ['\n'])))
    else none

def readKey (l : Line) : Option (String × Line) :=
  match l.dropWhile (·.isAlphanum) with
  | ':' :: rest =>
    if isWord (l.takeWhile (·.isAlphanum)) then some (.ofList (l.takeWhile (·.isAlphanum)), rest)
    else none
  | _ => none

section Read

variable (read : List Line → Option Tree)

/-- The value after the colon, with the deeper lines. -/
def readValue (rest : Line) (inner : List Line) : Option Tree :=
  if isEmpty rest then
    if inner.all isEmpty then some .null else read inner
  else if rest = [' ', '|'] then (readLiteral inner).map .text
  else if inner.all isEmpty then
    match rest with
    | ' ' :: v =>
      if v = ['\x7b', '\x7d'] then some (.map [])
      else if isPlain v then some (.plain (.ofList v))
      else none
    | _ => none
  else none

def readEntry (n : ℕ) (group : Line × List Line) : Option (String × Tree) :=
  if indent group.1 = n then
    (readKey (body group.1)).bind fun (key, rest) =>
      (readValue read rest group.2).map fun value => (key, value)
  else none

/-- The item after a dash is read as if it stood on lines of its own. -/
def readItem (n : ℕ) (group : Line × List Line) : Option Tree :=
  if indent group.1 = n then
    match body group.1 with
    | '-' :: ' ' :: item => read ((List.replicate (n + 2) ' ' ++ item) :: group.2)
    | _ => none
  else none

end Read

/-- What the lines of a mapping or a sequence say; the nesting is bounded. -/
def readBlock : ℕ → List Line → Option Tree
  | 0, _ => none
  | depth + 1, ls =>
    match ls.dropWhile isEmpty with
    | [] => none
    | first :: rest =>
      let n := indent first
      let found := groups n (first :: rest)
      if (body first).head? = some '-' then
        (found.2.mapM (readItem (readBlock depth) n)).map .seq
      else
        (found.2.mapM (readEntry (readBlock depth) n)).bind fun members =>
          if (members.map Prod.fst).Nodup then some (.map members) else none

def lines (text : List Char) : List Line :=
  if text.getLast? = some '\n' then (split '\n' text).dropLast else split '\n' text

def readText (text : String) : Option Tree := readBlock text.length (lines text.toList)

/-! ### Texts without blanks -/

/-- Letters, digits, dots, dashes and plus signs. -/
def isPlainChar (c : Char) : Bool := c.isAlphanum || c = '.' || c = '-' || c = '+'

section PlainChars

variable {c : Char} {cs : Line}

theorem toNat_of_isAlphanum (h : c.isAlphanum = true) : 0x20 < c.toNat ∧ c.toNat ≤ 0x7e := by
  simp only [Char.isAlphanum, Char.isAlpha, Char.isUpper, Char.isLower, Char.isDigit,
    Bool.or_eq_true, Bool.and_eq_true, decide_eq_true_eq, ge_iff_le, UInt32.le_iff_toNat_le] at h
  simp at h
  omega

theorem toNat_of_isPlainChar (h : isPlainChar c = true) : 0x20 < c.toNat ∧ c.toNat ≤ 0x7e := by
  simp only [isPlainChar, Bool.or_eq_true, decide_eq_true_eq] at h
  rcases h with ((h | rfl) | rfl) | rfl
  · exact toNat_of_isAlphanum h
  all_goals decide

theorem isBlank_of_isPlainChar (h : isPlainChar c = true) : isBlank c = false := by
  have hc := (toNat_of_isPlainChar h).1
  rw [isBlank, Bool.or_eq_false_iff, decide_eq_false_iff_not, decide_eq_false_iff_not]
  constructor <;> rintro rfl <;> exact absurd hc (by decide)

theorem ne_colon_of_isPlainChar (h : isPlainChar c = true) : c ≠ ':' := by
  rintro rfl
  exact absurd h (by decide)

theorem startsPlain_cons (h : c.isAlphanum = true) : startsPlain (c :: cs) = true := by
  have hindicators : indicators.all (fun c => !c.isAlphanum) = true := by decide
  have hindicator : c ∉ indicators := fun hc =>
    absurd h (by simpa using all_eq_true.mp hindicators c hc)
  have hdash : ¬(c = '-' ∨ c = '?' ∨ c = ':') := by
    rintro (rfl | rfl | rfl) <;> exact absurd h (by decide)
  have hblank : isBlank c = false := isBlank_of_isPlainChar (by simp [isPlainChar, h])
  simp [startsPlain, hdash, hblank, hindicator]

theorem staysPlain_of_forall (h : ∀ c ∈ cs, isPlainChar c = true) : staysPlain cs = true := by
  induction cs with
  | nil => rfl
  | cons c rest ih =>
    rw [forall_mem_cons] at h
    cases rest with
    | nil => simp [staysPlain, isBlank_of_isPlainChar h.1, ne_colon_of_isPlainChar h.1]
    | cons d rest =>
      simp [staysPlain, isBlank_of_isPlainChar h.1, ne_colon_of_isPlainChar h.1, ih h.2]

theorem isPlain_of_forall (hc : c.isAlphanum = true) (h : ∀ d ∈ cs, isPlainChar d = true) :
    isPlain (c :: cs) = true := by
  have hall : ∀ d ∈ c :: cs, isPlainChar d = true := by
    rw [forall_mem_cons]
    exact ⟨by simp [isPlainChar, hc], h⟩
  rw [isPlain, startsPlain_cons hc, staysPlain_of_forall hall, Bool.and_self, Bool.true_and,
    all_eq_true]
  intro d hd
  obtain ⟨hlow, hhigh⟩ := toNat_of_isPlainChar (hall d hd)
  simp [isPrintable, hlow.le, hhigh]

end PlainChars

/-! ### Literal scalars -/

section Literals

variable {n : ℕ} {l first : Line} {rest : List Line}

/-- The lines of a text that a literal scalar can hold. -/
def isContent (l : Line) : Bool := (!isEmpty l || l.isEmpty) && l.all isPrintable

theorem body_replicate_append : body (replicate n ' ' ++ l) = body l := by
  rw [body, dropWhile_append_of_pos (by simp)]
  rfl

theorem indent_replicate_append : indent (replicate n ' ' ++ l) = n + indent l := by
  rw [indent, takeWhile_append_of_pos (by simp), length_append, length_replicate]
  rfl

theorem isContent_indented (h : isContent l = true) :
    (if isEmpty (replicate n ' ' ++ l) then (replicate n ' ' ++ l).length ≤ n
      else n ≤ indent (replicate n ' ' ++ l)) ∧
      (replicate n ' ' ++ l).all isPrintable = true := by
  simp only [isContent, Bool.and_eq_true, Bool.or_eq_true, Bool.not_eq_true', List.isEmpty_iff] at h
  refine ⟨?_, by simpa [isPrintable] using h.2⟩
  split
  case isTrue hempty =>
    have hl : l = [] := by
      rw [isEmpty, body_replicate_append] at hempty
      exact h.1.resolve_left (by simpa [isEmpty] using hempty)
    simp [hl]
  case isFalse => rw [indent_replicate_append]; omega

variable {ls : List Line}

theorem dropWhile_reverse_concat (h : ls.getLast? ≠ some []) :
    ((ls ++ [[]]).reverse.dropWhile List.isEmpty).reverse = ls := by
  rw [reverse_append, reverse_singleton, singleton_append, dropWhile_cons_of_pos (by rfl)]
  rw [← head?_reverse] at h
  cases hls : ls.reverse with
  | nil => simpa using hls.symm
  | cons last rest =>
    rw [hls] at h
    rw [dropWhile_cons_of_neg (by simpa using h), ← hls, reverse_reverse]

theorem readLiteral_indented (hfirst : indent first = 0) (hne : isEmpty first = false)
    (hlast : (first :: rest).getLast? ≠ some [])
    (h : ∀ l ∈ first :: rest, isContent l = true) :
    readLiteral ((first :: rest ++ [[]]).map (List.replicate n ' ' ++ ·)) =
      some (.ofList ((first :: rest).flatMap (· ++ ['\n']))) := by
  have hindent : indent (replicate n ' ' ++ first) = n := by
    rw [indent_replicate_append, hfirst, Nat.add_zero]
  have hempty : isEmpty (replicate n ' ' ++ first) = false := by
    rw [isEmpty, body_replicate_append]
    exact hne
  have hall : ∀ l ∈ (first :: rest ++ [[]]).map (replicate n ' ' ++ ·),
      (if isEmpty l then l.length ≤ n else n ≤ indent l) ∧ l.all isPrintable = true := by
    rw [forall_mem_map]
    intro l hl
    refine isContent_indented ?_
    rw [mem_append, mem_singleton] at hl
    rcases hl with hl | rfl
    · exact h l hl
    · rfl
  have hcontent : ((first :: rest ++ [[]]).map (replicate n ' ' ++ ·)).map (drop n) =
      first :: rest ++ [[]] := by
    rw [map_map]
    refine map_id'' (fun l => ?_) _
    simp
  rw [cons_append, map_cons] at hall hcontent ⊢
  rw [readLiteral]
  simp only [hindent, hempty, hcontent, Bool.not_false, Bool.true_and]
  rw [if_pos, ← cons_append, dropWhile_reverse_concat hlast]
  rw [all_eq_true]
  intro l hl
  obtain ⟨hl, hprintable⟩ := hall l hl
  rw [Bool.and_eq_true]
  refine ⟨?_, hprintable⟩
  split_ifs at hl ⊢ <;> simpa using hl

end Literals

/-! ### Lines of a text -/

theorem split_flatMap (h : ∀ l ∈ ls, '\n' ∉ l) :
    split '\n' (ls.flatMap (· ++ ['\n'])) = ls ++ [[]] := by
  induction ls with
  | nil => rfl
  | cons l rest ih =>
    rw [forall_mem_cons] at h
    rw [flatMap_cons, append_assoc, singleton_append, split_append h.1, ih h.2]
    rfl

theorem lines_flatMap (hne : ls ≠ []) (h : ∀ l ∈ ls, '\n' ∉ l) :
    lines (ls.flatMap (· ++ ['\n'])) = ls := by
  have hlast : (ls.flatMap (· ++ ['\n'])).getLast? = some '\n' := by
    rw [← dropLast_append_getLast hne, flatMap_append]
    simp
  rw [lines, if_pos hlast, split_flatMap h, dropLast_concat]

/-! ### Groups of lines -/

section Groups

variable {n : ℕ} {l : Line} {ls ls' inner : List Line}

theorem groups_inside (h : ∀ l ∈ inner, isInside n l = true) : groups n inner = (inner, []) := by
  induction inner with
  | nil => rfl
  | cons l rest ih =>
    rw [forall_mem_cons] at h
    rw [groups, if_pos h.1, ih h.2]

theorem groups_cons (h : isInside n l = false) :
    groups n (l :: ls) = ([], (l, (groups n ls).1) :: (groups n ls).2) := by
  rw [groups, if_neg (by simp [h])]

theorem groups_append (h : (groups n ls').1 = []) :
    groups n (ls ++ ls') = ((groups n ls).1, (groups n ls).2 ++ (groups n ls').2) := by
  induction ls with
  | nil => exact Prod.ext h rfl
  | cons l rest ih =>
    rw [cons_append, groups, groups, ih]
    split <;> rfl

/-- The lines are groups of an indentation, and each of them is read. -/
structure Reads {β : Type} (f : Line × List Line → Option β) (n : ℕ) (ls : List Line)
    (values : List β) : Prop where
  start : (groups n ls).1 = []
  read : (groups n ls).2.mapM f = some values
  deep : ∀ l ∈ ls, isEmpty l = true ∨ n ≤ indent l

variable {β : Type} {f : Line × List Line → Option β} {values values' : List β}

theorem Reads.nil : Reads f n [] [] := ⟨rfl, rfl, by simp⟩

theorem Reads.append (h : Reads f n ls values) (h' : Reads f n ls' values') :
    Reads f n (ls ++ ls') (values ++ values') where
  start := by
    rw [groups_append h'.start]
    exact h.start
  read := by
    rw [groups_append h'.start, mapM_append, h.read, h'.read]
    rfl
  deep := forall_mem_append.mpr ⟨h.deep, h'.deep⟩

variable {m : ℕ}

theorem Reads.inside (h : Reads f n ls values) (hm : m < n) : ∀ l ∈ ls, isInside m l = true := by
  intro l hl
  rcases h.deep l hl with hempty | hindent
  · simp [isInside, hempty]
  · simp [isInside, hm.trans_le hindent]

theorem reads_group {value : β} (hl : isEmpty l = false) (hindent : indent l = n)
    (h : ∀ l ∈ inner, isInside n l = true) (hf : f (l, inner) = some value) :
    Reads f n (l :: inner) [value] := by
  have hgroups : groups n (l :: inner) = ([], [(l, inner)]) := by
    rw [groups_cons (by simp [isInside, hl, hindent]), groups_inside h]
  refine ⟨by rw [hgroups], by simp [hgroups, hf], ?_⟩
  rw [forall_mem_cons]
  refine ⟨.inr hindent.ge, fun l hl => ?_⟩
  have := h l hl
  simp only [isInside, Bool.or_eq_true, decide_eq_true_eq] at this
  exact this.imp_right le_of_lt

theorem Reads.exists_first (h : Reads f n ls values) (hne : values ≠ []) :
    ∃ first rest inner, ls = first :: rest ∧ isEmpty first = false ∧ (f (first, inner)).isSome := by
  cases ls with
  | nil => exact absurd (by simpa [groups] using h.read) hne
  | cons first rest =>
    have hfirst : isInside n first = false := by
      have hstart := h.start
      rw [groups] at hstart
      split at hstart <;> simp_all
    have hread := h.read
    rw [groups_cons hfirst, mapM_cons] at hread
    obtain ⟨value, hvalue, -⟩ := Option.bind_eq_some_iff.mp hread
    refine ⟨first, rest, _, rfl, ?_, Option.isSome_of_eq_some hvalue⟩
    simp_all [isInside]

end Groups

/-! ### Blocks -/

/-- The lines of a block, each group of which is read. -/
structure Block {β : Type} (f : Line × List Line → Option β) (n : ℕ) (ls : List String)
    (values : List β) : Prop where
  reads : Reads f n (ls.map String.toList) values
  oneLine : ∀ l ∈ ls, '\n' ∉ l.toList

abbrev Mapping (depth n : ℕ) : List String → List (String × Tree) → Prop :=
  Block (readEntry (readBlock depth) n) n

abbrev Sequence (depth n : ℕ) : List String → List Tree → Prop :=
  Block (readItem (readBlock depth) n) n

section Blocks

variable {depth n : ℕ} {ls ls' : List String} {β : Type} {f : Line × List Line → Option β}
  {values values' : List β}

theorem Block.nil : Block f n [] [] := ⟨Reads.nil, by simp⟩

theorem Block.append (h : Block f n ls values) (h' : Block f n ls' values') :
    Block f n (ls ++ ls') (values ++ values') where
  reads := by
    rw [map_append]
    exact h.reads.append h'.reads
  oneLine := forall_mem_append.mpr ⟨h.oneLine, h'.oneLine⟩

variable {read : List Line → Option Tree} {group : Line × List Line}

theorem indent_of_readEntry (h : (readEntry read n group).isSome) :
    indent group.1 = n ∧ (body group.1).head? ≠ some '-' := by
  unfold readEntry at h
  split at h
  case isTrue hindent =>
    refine ⟨hindent, fun hdash => ?_⟩
    have hkey : readKey (body group.1) = none := by
      obtain ⟨rest, hbody⟩ := head?_eq_some_iff.mp hdash
      rw [hbody, readKey, dropWhile_cons_of_neg (by decide)]
      rfl
    simp [hkey] at h
  case isFalse => cases h

theorem indent_of_readItem (h : (readItem read n group).isSome) :
    indent group.1 = n ∧ (body group.1).head? = some '-' := by
  unfold readItem at h
  split at h
  case isTrue hindent =>
    refine ⟨hindent, ?_⟩
    split at h
    case h_1 hbody => rw [hbody]; rfl
    case h_2 => cases h
  case isFalse => cases h

variable {members : List (String × Tree)}

theorem Mapping.readBlock_eq (h : Mapping depth n ls members)
    (hne : members ≠ []) (hkeys : (members.map Prod.fst).Nodup) :
    readBlock (depth + 1) (ls.map String.toList) = some (.map members) := by
  obtain ⟨first, rest, inner, hls, hempty, hsome⟩ := h.reads.exists_first hne
  obtain ⟨hindent, hdash⟩ := indent_of_readEntry hsome
  have hread := h.reads.read
  rw [hls] at hread ⊢
  rw [readBlock, dropWhile_cons_of_neg (by simp [hempty])]
  simp only [hindent, if_neg hdash, hread, Option.bind_some, if_pos hkeys]

theorem Sequence.readBlock_eq {items : List Tree} (h : Sequence depth n ls items)
    (hne : items ≠ []) :
    readBlock (depth + 1) (ls.map String.toList) = some (.seq items) := by
  obtain ⟨first, rest, inner, hls, hempty, hsome⟩ := h.reads.exists_first hne
  obtain ⟨hindent, hdash⟩ := indent_of_readItem hsome
  have hread := h.reads.read
  rw [hls] at hread ⊢
  rw [readBlock, dropWhile_cons_of_neg (by simp [hempty])]
  simp only [hindent, if_pos hdash, hread, Option.map_some]

theorem Mapping.readText_eq {text : String}
    (h : Mapping depth n ls members) (hne : members ≠ []) (hkeys : (members.map Prod.fst).Nodup)
    (htext : text.toList = ls.flatMap fun l => l.toList ++ ['\n'])
    (hdepth : text.length = depth + 1) : readText text = some (.map members) := by
  have hls : ls.map String.toList ≠ [] := by
    obtain ⟨first, rest, -, hls, -⟩ := h.reads.exists_first hne
    simp [hls]
  have hlines : lines text.toList = ls.map String.toList := by
    rw [htext, ← flatMap_map String.toList (· ++ ['\n']),
      lines_flatMap hls (forall_mem_map.mpr h.oneLine)]
  rw [readText, hlines, hdepth, h.readBlock_eq hne hkeys]

end Blocks

/-! ### Entries -/

/-- The line has the key at the indentation, and the rest after the colon. -/
def IsEntry (n : ℕ) (key rest line : String) : Prop :=
  line.toList = List.replicate n ' ' ++ (key.toList ++ ':' :: rest.toList) ∧
    key.toList.all (·.isAlphanum) = true ∧ isWord key.toList = true

instance (n : ℕ) (key rest line : String) : Decidable (IsEntry n key rest line) :=
  inferInstanceAs (Decidable (_ ∧ _ ∧ _))

example : IsEntry 2 "kind" " Pod" "  kind: Pod" := by decide

section Entries

variable {depth n : ℕ} {key rest line : String}

theorem IsEntry.append (h : IsEntry n key rest line) (v : String) :
    IsEntry n key (rest ++ v) (line ++ v) := by
  refine ⟨?_, h.2⟩
  simp [h.1]

theorem indent_replicate {c : Char} (hc : c ≠ ' ') (cs : List Char) :
    indent (replicate n ' ' ++ c :: cs) = n := by
  simp [indent, hc]

theorem body_replicate {c : Char} (hc : c ≠ ' ') (cs : List Char) :
    body (replicate n ' ' ++ c :: cs) = c :: cs := by
  simp [body, hc]

theorem readKey_append (hkey : key.toList.all (·.isAlphanum) = true)
    (hword : isWord key.toList = true) (cs : Line) :
    readKey (key.toList ++ ':' :: cs) = some (key, cs) := by
  rw [all_eq_true] at hkey
  have hdrop : (key.toList ++ ':' :: cs).dropWhile (·.isAlphanum) = ':' :: cs := by
    rw [dropWhile_append_of_pos hkey, dropWhile_cons_of_neg (by decide)]
  have htake : (key.toList ++ ':' :: cs).takeWhile (·.isAlphanum) = key.toList := by
    rw [takeWhile_append_of_pos hkey, takeWhile_cons_of_neg (by decide)]
    simp
  simp [readKey, hdrop, htake, hword]

theorem IsEntry.indent_body (h : IsEntry n key rest line) :
    indent line.toList = n ∧ body line.toList = key.toList ++ ':' :: rest.toList := by
  obtain ⟨hline, -, hword⟩ := h
  cases hcs : key.toList with
  | nil => simp [hcs, isWord] at hword
  | cons c cs =>
    have hc : c ≠ ' ' := by
      rintro rfl
      simp [hcs, isWord] at hword
    rw [hline, hcs, cons_append]
    exact ⟨indent_replicate hc _, body_replicate hc _⟩

theorem newline_notMem {cs : List Char} {p : Char → Bool} (hp : p '\n' = false)
    (h : cs.all p = true) : '\n' ∉ cs := by
  intro hmem
  rw [all_eq_true] at h
  exact Bool.false_ne_true (hp.symm.trans (h _ hmem))

theorem IsEntry.oneLine (h : IsEntry n key rest line) (hrest : '\n' ∉ rest.toList) :
    '\n' ∉ line.toList := by
  have hkey := newline_notMem (by decide) h.2.1
  rw [h.1]
  simp [hkey, hrest]

variable {inner : List String}

theorem IsEntry.mapping (h : IsEntry n key rest line) (hrest : '\n' ∉ rest.toList) {value : Tree}
    (hinside : ∀ l ∈ inner.map String.toList, isInside n l = true)
    (hinner : ∀ l ∈ inner, '\n' ∉ l.toList)
    (hvalue : readValue (readBlock depth) rest.toList (inner.map String.toList) = some value) :
    Mapping depth n (line :: inner) [(key, value)] := by
  obtain ⟨hindent, hbody⟩ := h.indent_body
  refine ⟨reads_group ?_ hindent hinside ?_, ?_⟩
  · simp [isEmpty, hbody]
  · simp [readEntry, hindent, hbody, readKey_append h.2.1 h.2.2, hvalue]
  · rw [forall_mem_cons]
    exact ⟨h.oneLine hrest, hinner⟩

variable {blanks : List String}

/-- Lines without a character that is not a blank. -/
def allBlank (ls : List String) : Bool := ls.all fun l => isEmpty l.toList

theorem inside_of_allBlank (h : allBlank blanks = true) :
    ∀ l ∈ blanks.map String.toList, isInside n l = true := by
  rw [allBlank, all_eq_true] at h
  rw [forall_mem_map]
  intro l hl
  simp [isInside, h l hl]

theorem oneLine_of_allBlank (h : allBlank blanks = true) : ∀ l ∈ blanks, '\n' ∉ l.toList := by
  rw [allBlank, all_eq_true] at h
  intro l hl hmem
  have hl := h l hl
  rw [isEmpty, body, List.isEmpty_iff, List.dropWhile_eq_nil_iff] at hl
  exact absurd (hl _ hmem) (by decide)

theorem all_isEmpty_of_allBlank (h : allBlank blanks = true) :
    (blanks.map String.toList).all isEmpty = true := by
  rw [all_map]
  exact h

theorem mapping_null (h : IsEntry n key rest line) (hrest : allBlank [rest] = true)
    (hblanks : allBlank blanks = true) :
    Mapping depth n (line :: blanks) [(key, .null)] := by
  refine h.mapping ?_ (inside_of_allBlank hblanks) (oneLine_of_allBlank hblanks) ?_
  · exact oneLine_of_allBlank hrest rest mem_cons_self
  · have hempty : isEmpty rest.toList = true := by simpa [allBlank] using hrest
    unfold readValue
    rw [if_pos hempty, if_pos (all_isEmpty_of_allBlank hblanks)]

theorem exists_cons_of_isPlain {v : Line} (h : isPlain v = true) :
    ∃ c cs, v = c :: cs ∧ c ≠ ' ' ∧ c ∉ indicators := by
  cases v with
  | nil => simp [isPlain, startsPlain] at h
  | cons c cs =>
    refine ⟨c, cs, rfl, ?_⟩
    have hstart : startsPlain (c :: cs) = true := by
      simp only [isPlain, Bool.and_eq_true] at h
      exact h.1.1
    by_cases hc : c = '-' ∨ c = '?' ∨ c = ':'
    · rcases hc with rfl | rfl | rfl <;> decide
    · have hstart : isBlank c = false ∧ c ∉ indicators := by
        simpa [startsPlain, hc] using hstart
      refine ⟨?_, hstart.2⟩
      rintro rfl
      exact absurd hstart.1 (by decide)

theorem mapping_plain {v : String} (h : IsEntry n key (" " ++ v) line)
    (hv : isPlain v.toList = true) (hblanks : allBlank blanks = true) :
    Mapping depth n (line :: blanks) [(key, .plain v)] := by
  obtain ⟨c, cs, hcs, hc, hindicator⟩ := exists_cons_of_isPlain hv
  have hrest : (" " ++ v).toList = ' ' :: v.toList := by simp
  have hempty : isEmpty (' ' :: v.toList) = false := by
    simp [isEmpty, body, hcs, hc]
  have hliteral : ' ' :: v.toList ≠ [' ', '|'] := by
    intro heq
    obtain ⟨rfl, -⟩ : c = '|' ∧ cs = [] := by simpa [hcs] using heq
    exact hindicator (by decide)
  have hflow : v.toList ≠ ['\x7b', '\x7d'] := by
    intro heq
    obtain ⟨rfl, -⟩ : c = '\x7b' ∧ cs = ['\x7d'] := by simpa [hcs] using heq
    exact hindicator (by decide)
  refine h.mapping ?_ (inside_of_allBlank hblanks) (oneLine_of_allBlank hblanks) ?_
  · have hprintable : v.toList.all isPrintable = true := by
      simp only [isPlain, Bool.and_eq_true] at hv
      exact hv.2
    rw [hrest, mem_cons, not_or]
    exact ⟨by decide, newline_notMem (by decide) hprintable⟩
  · unfold readValue
    rw [hrest, if_neg (by simp [hempty]), if_neg hliteral, if_pos (all_isEmpty_of_allBlank hblanks)]
    simp [hflow, hv]

theorem mapping_flow (h : IsEntry n key " \x7b\x7d" line) (hblanks : allBlank blanks = true) :
    Mapping depth n (line :: blanks) [(key, .map [])] := by
  refine h.mapping (by decide) (inside_of_allBlank hblanks) (oneLine_of_allBlank hblanks) ?_
  unfold readValue
  rw [if_neg (by decide), if_neg (by decide), if_pos (all_isEmpty_of_allBlank hblanks)]
  rfl

theorem mapping_literal (h : IsEntry n key " |" line) {content : String}
    (hinside : ∀ l ∈ inner.map String.toList, isInside n l = true)
    (hinner : ∀ l ∈ inner, '\n' ∉ l.toList)
    (hcontent : readLiteral (inner.map String.toList) = some content) :
    Mapping depth n (line :: inner) [(key, .text content)] := by
  refine h.mapping (by decide) hinside hinner ?_
  unfold readValue
  rw [if_neg (by decide), if_pos (by decide), hcontent]
  rfl

theorem mapping_block {β : Type} {f : Line × List Line → Option β}
    {values : List β} {value : Tree} (h : IsEntry n key "" line) (hm : n < m)
    (hinner : Block f m inner values) (hne : values ≠ [])
    (hvalue : readBlock depth (inner.map String.toList) = some value) :
    Mapping depth n (line :: inner) [(key, value)] := by
  refine h.mapping (by decide) (hinner.reads.inside hm) hinner.oneLine ?_
  obtain ⟨first, rest, -, hls, hempty, -⟩ := hinner.reads.exists_first hne
  have hnot : (inner.map String.toList).all isEmpty = false := by simp [hls, hempty]
  unfold readValue
  rw [if_pos (by decide), if_neg (by simp [hnot]), hvalue]

theorem mapping_map
    (h : IsEntry n key "" line) (hm : n < m) (hinner : Mapping depth m inner members)
    (hne : members ≠ []) (hkeys : (members.map Prod.fst).Nodup) :
    Mapping (depth + 1) n (line :: inner) [(key, .map members)] :=
  mapping_block h hm hinner hne (hinner.readBlock_eq hne hkeys)

theorem mapping_seq {items : List Tree}
    (h : IsEntry n key "" line) (hm : n < m) (hinner : Sequence depth m inner items)
    (hne : items ≠ []) : Mapping (depth + 1) n (line :: inner) [(key, .seq items)] :=
  mapping_block h hm hinner hne (hinner.readBlock_eq hne)

end Entries

/-! ### Items -/

/-- The line has a dash at the indentation; with a blank in its place it is the other line. -/
def IsItem (n : ℕ) (item line line' : String) : Prop :=
  line.toList = List.replicate n ' ' ++ '-' :: ' ' :: item.toList ∧
    line'.toList = List.replicate (n + 2) ' ' ++ item.toList

instance (n : ℕ) (item line line' : String) : Decidable (IsItem n item line line') :=
  inferInstanceAs (Decidable (_ ∧ _))

section Items

variable {depth n : ℕ} {item line line' : String}

theorem IsItem.append (h : IsItem n item line line') (v : String) :
    IsItem n (item ++ v) (line ++ v) (line' ++ v) := by
  constructor
  · simp [h.1]
  · simp [h.2]

theorem sequence_map {inner : List String}
    (h : IsItem n item line line') (hinner : Mapping depth (n + 2) (line' :: inner) members)
    (hne : members ≠ []) (hkeys : (members.map Prod.fst).Nodup) :
    Sequence (depth + 1) n (line :: inner) [.map members] := by
  have hdash : '-' ≠ ' ' := by decide
  have hread := hinner.readBlock_eq hne hkeys
  have hinside := hinner.reads.inside (show n < n + 2 by omega)
  obtain ⟨hfirst, hrest⟩ := forall_mem_cons.mp hinner.oneLine
  rw [map_cons] at hread hinside
  rw [h.2] at hread
  refine ⟨reads_group ?_ ?_ (forall_mem_cons.mp hinside).2 ?_, ?_⟩
  · simp [isEmpty, h.1, body_replicate hdash]
  · rw [h.1, indent_replicate hdash]
  · rw [readItem, h.1, if_pos (indent_replicate hdash _), body_replicate hdash]
    exact hread
  · rw [forall_mem_cons]
    refine ⟨?_, hrest⟩
    rw [h.2] at hfirst
    rw [h.1]
    simpa using hfirst

end Items

/-! ### Optional members -/

def members (fields : List (String × Option Tree)) : List (String × Tree) :=
  fields.filterMap fun f => f.2.map fun t => (f.1, t)

def Tree.field : Tree → String → Tree
  | .map members, k => (members.lookup k).getD .null
  | _, _ => .null

@[simp] theorem Tree.field_map (members : List (String × Tree)) (k : String) :
    (Tree.map members).field k = (members.lookup k).getD .null := rfl

@[simp] theorem members_nil : members [] = [] := rfl

section Members

variable {depth n : ℕ} {key : String}

theorem lookup_members_cons (k : String) (f : String × Option Tree)
    (rest : List (String × Option Tree)) :
    (members (f :: rest)).lookup k =
      if k = f.1 then f.2.or ((members rest).lookup k) else (members rest).lookup k := by
  obtain ⟨name, value⟩ := f
  cases value with
  | none => simp [members]
  | some t =>
    by_cases h : k = name
    · simp [members, h]
    · simp [members, lookup_cons, beq_false_of_ne h, h]

theorem nodup_members {fields : List (String × Option Tree)} (h : (fields.map Prod.fst).Nodup) :
    ((members fields).map Prod.fst).Nodup := by
  refine h.sublist ?_
  induction fields with
  | nil => exact Sublist.refl _
  | cons f rest ih =>
    obtain ⟨name, value⟩ := f
    rw [map_cons, nodup_cons] at h
    cases value with
    | none => exact (ih h.2).cons _
    | some t => exact (ih h.2).cons_cons _

theorem Mapping.members_append {ls ls' : List String} {fields fields' : List (String × Option Tree)}
    (h : Mapping depth n ls (members fields)) (h' : Mapping depth n ls' (members fields')) :
    Mapping depth n (ls ++ ls') (members (fields ++ fields')) := by
  rw [members, filterMap_append]
  exact h.append h'

theorem mapping_some {ls : List String} {tree : Tree} (h : Mapping depth n ls [(key, tree)]) :
    Mapping depth n ls (members [(key, some tree)]) := h

theorem mapping_elim {α : Type} {x : Option α} {ls : α → List String} {tree : α → Tree}
    (h : ∀ a, x = some a → Mapping depth n (ls a) [(key, tree a)]) :
    Mapping depth n (x.elim [] ls) (members [(key, x.map tree)]) := by
  cases x with
  | none => exact .nil
  | some a => exact h a rfl

theorem mapping_ite {p : Prop} [Decidable p] {ls : List String} {tree : Tree}
    (h : p → Mapping depth n ls [(key, tree)]) :
    Mapping depth n (if p then ls else []) (members [(key, if p then some tree else none)]) := by
  by_cases hp : p
  · simpa [hp, members] using h hp
  · simpa [hp, members] using Block.nil

end Members

end KubeOne.Yaml
