import Mathlib.Data.List.Lex
import Mathlib.Data.Prod.Lex
import Mathlib.Data.String.Basic
import Mathlib.Data.Sum.Order
import Mathlib.Order.WithBot

/-! Semantic versions and their order. A part of a pre-release that parses as an unsigned number
is a number, every other one a text. A version comes after all its pre-releases, a missing part
before every part, a number before every text. Build metadata takes no part. -/

namespace KubeOne.Semver

/-- A dot-separated part of a pre-release. -/
inductive PrePart
  | number (n : UInt64)
  | text (s : String)
  deriving DecidableEq

structure Version where
  major : UInt64
  minor : UInt64
  patch : UInt64
  pre : List PrePart := []
  metadata : String := ""
  deriving DecidableEq

/-- `1`, `0` or `-1`, as the comparison functions return it. -/
def compareSegment (v o : UInt64) : Int := if v < o then -1 else if o < v then 1 else 0

def comparePrePart : PrePart → PrePart → Int
  | .number s, .number o => compareSegment s o
  | .number _, .text _ => -1
  | .text _, .number _ => 1
  | .text s, .text o => if s = o then 0 else if o < s then 1 else -1

def comparePrerelease : List PrePart → List PrePart → Int
  | [], [] => 0
  | [], _ :: _ => -1
  | _ :: _, [] => 1
  | s :: v, o :: w => if comparePrePart s o ≠ 0 then comparePrePart s o else comparePrerelease v w

namespace Version

def compare (v o : Version) : Int :=
  if compareSegment v.major o.major ≠ 0 then compareSegment v.major o.major
  else if compareSegment v.minor o.minor ≠ 0 then compareSegment v.minor o.minor
  else if compareSegment v.patch o.patch ≠ 0 then compareSegment v.patch o.patch
  else match v.pre, o.pre with
    | [], [] => 0
    | [], _ :: _ => 1
    | _ :: _, [] => -1
    | ps, po => comparePrerelease ps po

@[simp] theorem compareSegment_self (v : UInt64) : compareSegment v v = 0 := by
  simp [compareSegment]

@[simp] theorem comparePrerelease_self (v : List PrePart) : comparePrerelease v v = 0 := by
  induction v with
  | nil => rfl
  | cons p v ih => cases p <;> simp [comparePrerelease, comparePrePart, ih]

@[simp] theorem compare_self (v : Version) : v.compare v = 0 := by
  cases h : v.pre <;> simp [compare, h]

def release (major minor patch : UInt64) : Version := { major, minor, patch }

def greaterThan (v o : Version) : Bool := 0 < v.compare o

end Version

theorem compareSegment_pos {v o : UInt64} : 0 < compareSegment v o ↔ o.toNat < v.toNat := by
  simp only [compareSegment, UInt64.lt_iff_toNat_lt]
  split_ifs <;> omega

theorem compareSegment_eq_zero {v o : UInt64} : compareSegment v o = 0 ↔ v.toNat = o.toNat := by
  simp only [compareSegment, UInt64.lt_iff_toNat_lt]
  split_ifs <;> simp <;> omega

/-- The place of a part in the order. -/
def PrePart.key : PrePart → ℕ ⊕ₗ String
  | .number n => Sum.inlₗ n.toNat
  | .text s => Sum.inrₗ s

theorem comparePrePart_eq_zero {p q : PrePart} : comparePrePart p q = 0 ↔ p.key = q.key := by
  cases p <;> cases q <;> simp [comparePrePart, PrePart.key, compareSegment_eq_zero]
  split_ifs <;> simp

theorem comparePrePart_pos {p q : PrePart} : 0 < comparePrePart p q ↔ q.key < p.key := by
  cases p with
  | number n => cases q <;> simp [comparePrePart, PrePart.key, compareSegment_pos]
  | text s =>
    cases q with
    | number n => simp [comparePrePart, PrePart.key]
    | text s' =>
      simp only [comparePrePart, PrePart.key, Sum.Lex.inr_lt_inr_iff]
      split_ifs with h h'
      · simp [h]
      · simpa using h'
      · simpa using h'

theorem comparePrerelease_pos {v w : List PrePart} :
    0 < comparePrerelease v w ↔ w.map PrePart.key < v.map PrePart.key := by
  induction v generalizing w with
  | nil => cases w <;> simp [comparePrerelease]
  | cons p v ih =>
    cases w with
    | nil => simp [comparePrerelease]
    | cons q w =>
      rw [comparePrerelease, List.map_cons, List.map_cons, List.cons_lt_cons_iff]
      split_ifs with h
      · have hne : q.key ≠ p.key := fun heq => h (comparePrePart_eq_zero.2 heq.symm)
        simp [comparePrePart_pos, hne]
      · have heq := comparePrePart_eq_zero.1 (not_not.1 h)
        simp [ih, heq]

/-- The place of a version in the order. -/
def Version.key (v : Version) : ℕ ×ₗ ℕ ×ₗ ℕ ×ₗ WithTop (List (ℕ ⊕ₗ String)) :=
  toLex (v.major.toNat, toLex (v.minor.toNat, toLex (v.patch.toNat,
    match v.pre with
    | [] => ⊤
    | pre => (pre.map PrePart.key : List _))))

theorem Version.greaterThan_iff {v o : Version} : v.greaterThan o = true ↔ o.key < v.key := by
  simp only [greaterThan, compare, key, Prod.Lex.toLex_lt_toLex]
  split_ifs with hmajor hminor hpatch
  all_goals simp only [ne_eq, not_not, compareSegment_eq_zero] at *
  · simp [compareSegment_pos, Ne.symm hmajor]
  · simp [compareSegment_pos, hmajor, Ne.symm hminor]
  · simp [compareSegment_pos, hmajor, hminor, Ne.symm hpatch]
  · simp only [hmajor, hminor, hpatch, lt_irrefl, true_and, false_or]
    cases v.pre <;> cases o.pre <;> simp [comparePrerelease_pos]

theorem Version.greaterThan_eq_false {v o : Version} :
    v.greaterThan o = false ↔ v.key ≤ o.key := by
  rw [← not_lt, ← greaterThan_iff, Bool.not_eq_true]

end KubeOne.Semver
