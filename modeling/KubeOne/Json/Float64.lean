import Mathlib.Data.Rat.Floor

/-! Numbers of 64 bit floating point, as rationals: the nearest one to a number, and the shortest
decimal number that it is printed as. -/

namespace KubeOne.Json.Float64

def exponent (x : ℚ) : ℤ :=
  let e := (Nat.log2 x.num.natAbs : ℤ) - Nat.log2 x.den
  if (2 : ℚ) ^ e ≤ x then e else e - 1

def roundEven (x : ℚ) : ℤ :=
  let rest := x - ⌊x⌋
  if rest < 1 / 2 ∨ (rest = 1 / 2 ∧ ⌊x⌋ % 2 = 0) then ⌊x⌋ else ⌊x⌋ + 1

/-- The distance of the floating point numbers about a positive number: they have 53 bits, and
fewer below `2 ^ -1022`. -/
def ulp (x : ℚ) : ℚ := (2 : ℚ) ^ (max (exponent x) (-1022) - 52)

def nearestPos (x : ℚ) : ℚ := roundEven (x / ulp x) * ulp x

def nearest (x : ℚ) : Option ℚ :=
  let rounded := if x = 0 then 0 else if x < 0 then -nearestPos (-x) else nearestPos x
  if |rounded| < 2 ^ 1024 then some rounded else none

/-- The multiples of a power of ten on both sides of a positive floating point number that are
read as this number. -/
def candidates (f : ℚ) (k : ℤ) : List ℚ :=
  let low := ⌊f / 10 ^ k⌋ * (10 : ℚ) ^ k
  [low, low + 10 ^ k].filter fun c => nearest c = some f

def closest (f : ℚ) : List ℚ → Option ℚ
  | [low, high] => some (if f - low ≤ high - f then low else high)
  | c :: _ => some c
  | [] => none

/-- The shortest decimal number, from a power of ten on that is too large. Seventeen digits always
are enough. -/
def shortestPos (f : ℚ) : ℚ :=
  let start := (exponent f + 1) * 30103 / 100000 + 1
  ((List.range 20).findSome? fun i => closest f (candidates f (start - i))).getD f

def shortest (f : ℚ) : ℚ := if f = 0 then 0 else if f < 0 then -shortestPos (-f) else shortestPos f

/-- A number after it was read as floating point and printed. -/
def reread (x : ℚ) : Option ℚ := (nearest x).map shortest

example : reread 50 = some 50 := by decide +kernel

example : reread (1 / 10) = some (1 / 10) := by decide +kernel

example : reread 9007199254740993 = some 9007199254740992 := by decide +kernel

end KubeOne.Json.Float64
