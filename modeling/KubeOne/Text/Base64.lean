import Mathlib.Data.List.Basic

/-! The standard base64 encoding, with padding, over lists of bytes: three bytes become four
symbols. Decoding skips line ends and does not look at the unused bits of the last symbol. -/

namespace KubeOne.Text.Base64

def alphabet : List Char :=
  "ABCDEFGHIJKLMNOPQRSTUVWXYZabcdefghijklmnopqrstuvwxyz0123456789+/".toList

def symbol (n : ℕ) : Char := alphabet.getD n '='

def symbolValue (c : Char) : Option ℕ := alphabet.findIdx? (· == c)

def encode : List UInt8 → List Char
  | [] => []
  | [a] => [symbol (a.toNat / 4), symbol (a.toNat % 4 * 16), '=', '=']
  | [a, b] =>
    [symbol (a.toNat / 4), symbol (a.toNat % 4 * 16 + b.toNat / 16), symbol (b.toNat % 16 * 4), '=']
  | a :: b :: c :: rest =>
    symbol (a.toNat / 4) :: symbol (a.toNat % 4 * 16 + b.toNat / 16) ::
      symbol (b.toNat % 16 * 4 + c.toNat / 64) :: symbol (c.toNat % 64) :: encode rest

/-- The bytes of the values of four symbols. -/
def byte1 (x y : ℕ) : UInt8 := UInt8.ofNat (x * 4 + y / 16)

def byte2 (y z : ℕ) : UInt8 := UInt8.ofNat (y % 16 * 16 + z / 4)

def byte3 (z w : ℕ) : UInt8 := UInt8.ofNat (z % 4 * 64 + w)

/-- The last group, before its last padding. -/
def decodeLast (a b c : Char) : Option (List UInt8) :=
  (symbolValue a).bind fun x => (symbolValue b).bind fun y =>
    if c = '=' then some [byte1 x y]
    else (symbolValue c).map fun z => [byte1 x y, byte2 y z]

def decodeGroups : List Char → Option (List UInt8)
  | [] => some []
  | a :: b :: c :: d :: rest =>
    if d = '=' ∧ rest = [] then decodeLast a b c
    else
      (symbolValue a).bind fun x => (symbolValue b).bind fun y => (symbolValue c).bind fun z =>
        (symbolValue d).bind fun w => (decodeGroups rest).map fun bs =>
          byte1 x y :: byte2 y z :: byte3 z w :: bs
  | _ => none

def decode (s : List Char) : Option (List UInt8) :=
  decodeGroups (s.filter fun c => c != '\n' && c != '\r')

def decodedLen (n : ℕ) : ℕ := n / 4 * 3

theorem length_encode : ∀ bs : List UInt8, (encode bs).length = (bs.length + 2) / 3 * 4
  | [] => rfl
  | [_] => by simp [encode]
  | [_, _] => by simp [encode]
  | _ :: _ :: _ :: rest => by
    simp only [encode, List.length_cons, length_encode rest]
    omega

theorem encode_forall {P : Char → Prop} (hpad : P '=') (hsymbol : ∀ c ∈ alphabet, P c) :
    ∀ bs : List UInt8, ∀ c ∈ encode bs, P c := by
  have hall : ∀ n, P (symbol n) := by
    intro n
    rw [symbol, List.getD_eq_getElem?_getD]
    cases h : alphabet[n]? with
    | none => exact hpad
    | some c => exact hsymbol c (List.mem_of_getElem? h)
  intro bs
  induction bs using encode.induct with
  | case1 => simp [encode]
  | case2 a => simp [encode, hall, hpad]
  | case3 a b => simp [encode, hall, hpad]
  | case4 a b c rest ih => simpa [encode, hall] using ih

end KubeOne.Text.Base64
