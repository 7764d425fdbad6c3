import KubeOne.Text.Path
import Mathlib.Tactic.IntervalCases
import Mathlib.Tactic.LinearCombination
import Mathlib.Tactic.Ring

/-! Internet addresses as the standard library of Go has them: four or sixteen bytes, the networks
of a prefix, their texts, and the addition of a number byte by byte. An address of four bytes is
one of sixteen bytes behind a fixed prefix, so that all addresses are numbers of one range. -/

namespace KubeOne.Net

open List

def value : List UInt8 → ℕ
  | [] => 0
  | b :: bs => b.toNat * 256 ^ bs.length + value bs

theorem value_append (xs ys : List UInt8) :
    value (xs ++ ys) = value xs * 256 ^ ys.length + value ys := by
  induction xs with
  | nil => simp [value]
  | cons b bs ih =>
    simp only [cons_append, value, ih, length_append, pow_add]
    ring

variable (bs : List UInt8)

theorem value_lt : value bs < 256 ^ bs.length := by
  induction bs with
  | nil => simp [value]
  | cons b bs ih =>
    have hb : b.toNat + 1 ≤ 256 := b.toNat_lt
    calc b.toNat * 256 ^ bs.length + value bs
        < b.toNat * 256 ^ bs.length + 256 ^ bs.length := by omega
      _ = (b.toNat + 1) * 256 ^ bs.length := by ring
      _ ≤ 256 * 256 ^ bs.length := Nat.mul_le_mul_right _ hb
      _ = 256 ^ (b :: bs).length := by rw [length_cons, pow_succ']

/-- The sum of the bytes and a carry, from the last byte on; the carry that is left over comes
with it. -/
def addCarry : List UInt8 → ℤ → List UInt8 × ℤ
  | [], carry => ([], carry)
  | b :: bs, carry =>
    let low := addCarry bs carry
    let val := (b.toNat : ℤ) + low.2
    (UInt8.ofNat (val % 256).toNat :: low.1, val / 256)

@[simp] theorem length_addCarry (carry : ℤ) : (addCarry bs carry).1.length = bs.length := by
  induction bs with
  | nil => rfl
  | cons b bs ih => simp [addCarry, ih]

theorem value_addCarry (carry : ℤ) :
    (value (addCarry bs carry).1 : ℤ) + (addCarry bs carry).2 * 256 ^ bs.length =
      value bs + carry := by
  induction bs with
  | nil => simp [addCarry, value]
  | cons b bs ih =>
    have hbyte : ((UInt8.ofNat (((b.toNat : ℤ) + (addCarry bs carry).2) % 256).toNat).toNat : ℤ) =
        ((b.toNat : ℤ) + (addCarry bs carry).2) % 256 := by
      rw [UInt8.toNat_ofNat']
      omega
    have hsplit := Int.emod_add_mul_ediv ((b.toNat : ℤ) + (addCarry bs carry).2) 256
    simp only [addCarry, value, length_addCarry, length_cons, pow_succ, Nat.cast_add,
      Nat.cast_mul, Nat.cast_pow, Nat.cast_ofNat, hbyte]
    linear_combination 256 ^ bs.length * hsplit + ih

variable {n : ℕ}

theorem value_addCarry_of_lt {bs : List UInt8} (h : value bs + n < 256 ^ bs.length) :
    value (addCarry bs n).1 = value bs + n := by
  have hsum := value_addCarry bs n
  have hlow := value_lt (addCarry bs n).1
  rw [length_addCarry] at hlow
  have hpos : (0 : ℤ) < 256 ^ bs.length := by positivity
  have h' : (value bs : ℤ) + n < 256 ^ bs.length := by exact_mod_cast h
  have hlow' : (value (addCarry bs n).1 : ℤ) < 256 ^ bs.length := by exact_mod_cast hlow
  have hcarry : (addCarry bs n).2 = 0 := by
    rcases lt_trichotomy (addCarry bs n).2 0 with hneg | hzero | hbig
    · have hle : (addCarry bs n).2 * 256 ^ bs.length ≤ -1 * 256 ^ bs.length :=
        mul_le_mul_of_nonneg_right (by omega) hpos.le
      omega
    · exact hzero
    · have hle : 1 * 256 ^ bs.length ≤ (addCarry bs n).2 * 256 ^ bs.length :=
        mul_le_mul_of_nonneg_right (by omega) hpos.le
      omega
  rw [hcarry] at hsum
  omega

def cidrMask : ℕ → ℕ → List UInt8
  | _, 0 => []
  | ones, length + 1 =>
    if 8 ≤ ones then 0xff :: cidrMask (ones - 8) length
    else ~~~(0xff >>> UInt8.ofNat ones) :: cidrMask 0 length

variable (ones : ℕ)

@[simp] theorem length_cidrMask (length : ℕ) : (cidrMask ones length).length = length := by
  induction length generalizing ones with
  | zero => rfl
  | succ length ih =>
    unfold cidrMask
    split <;> simp [ih]

def mask (bs : List UInt8) (ones : ℕ) : List UInt8 :=
  List.zipWith (· &&& ·) bs (cidrMask ones bs.length)

@[simp] theorem length_mask : (mask bs ones).length = bs.length := by
  simp [mask]

theorem value_mask_zero : value (mask bs 0) = 0 := by
  induction bs with
  | nil => rfl
  | cons b bs ih =>
    have hhead : b &&& ~~~(0xff >>> UInt8.ofNat 0) = 0 := by
      rw [show (~~~(0xff >>> UInt8.ofNat 0) : UInt8) = 0 by decide]
      exact UInt8.and_zero
    have hmask : mask (b :: bs) 0 = 0 :: mask bs 0 := by
      simp only [mask, length_cons, cidrMask, if_neg (by omega : ¬8 ≤ 0), zipWith_cons_cons, hhead]
    simp [hmask, value, ih]

theorem two_pow_dvd_and_byte (b : UInt8) {ones : ℕ} (h : ones < 8) :
    2 ^ (8 - ones) ∣ (b &&& ~~~(0xff >>> UInt8.ofNat ones)).toNat := by
  have hmask : (~~~(0xff >>> UInt8.ofNat ones) : UInt8).toNat % 2 ^ (8 - ones) = 0 := by
    interval_cases ones <;> decide
  rw [UInt8.toNat_and]
  refine Nat.dvd_of_mod_eq_zero ?_
  rw [Nat.and_mod_two_pow, hmask, Nat.and_zero]

theorem two_pow_dvd_value_mask : 2 ^ (8 * bs.length - ones) ∣ value (mask bs ones) := by
  induction bs generalizing ones with
  | nil => simp [mask, value]
  | cons b bs ih =>
    have hbase : (256 : ℕ) ^ bs.length = 2 ^ (8 * bs.length) := by
      rw [pow_mul]
      rfl
    by_cases h : 8 ≤ ones
    · have hmask : mask (b :: bs) ones = (b &&& 0xff) :: mask bs (ones - 8) := by
        simp only [mask, length_cons, cidrMask, if_pos h, zipWith_cons_cons]
      rw [hmask, value, length_mask, hbase, length_cons,
        show 8 * (bs.length + 1) - ones = 8 * bs.length - (ones - 8) by omega]
      exact Nat.dvd_add (Dvd.dvd.mul_left (pow_dvd_pow 2 (Nat.sub_le _ _)) _) (ih _)
    · have hmask : mask (b :: bs) ones = (b &&& ~~~(0xff >>> UInt8.ofNat ones)) :: mask bs 0 := by
        simp only [mask, length_cons, cidrMask, if_neg h, zipWith_cons_cons]
      rw [hmask, value, length_mask, hbase, value_mask_zero, length_cons,
        show 8 * (bs.length + 1) - ones = (8 - ones) + 8 * bs.length by omega, pow_add,
        Nat.add_zero]
      exact Nat.mul_dvd_mul_right (two_pow_dvd_and_byte b (by omega)) _

structure IP where
  bytes : List UInt8
  length_eq : bytes.length = 4 ∨ bytes.length = 16
  deriving DecidableEq

variable {ip : IP}

namespace IP

/-- What stands before the bytes of an address of four bytes in its form of sixteen bytes. -/
def v4InV6Prefix : List UInt8 := [0, 0, 0, 0, 0, 0, 0, 0, 0, 0, 0xff, 0xff]

def to4 (ip : IP) : Option IP :=
  if ip.bytes.length = 4 then some ip
  else if h : ip.bytes.take 12 = v4InV6Prefix then
    some ⟨ip.bytes.drop 12, .inl (by
      have hlength := ip.length_eq
      have htake := congrArg List.length h
      simp only [List.length_take, v4InV6Prefix, List.length_cons, List.length_nil] at htake
      rw [List.length_drop]
      omega)⟩
  else none

def number (ip : IP) : ℕ :=
  if ip.bytes.length = 4 then value (v4InV6Prefix ++ ip.bytes) else value ip.bytes

theorem length_of_to4 {ip4 : IP} (h : ip.to4 = some ip4) : ip4.bytes.length = 4 := by
  unfold to4 at h
  split_ifs at h with hlength htake
  · cases h
    exact hlength
  · cases h
    have h16 := ip.length_eq.resolve_left hlength
    simp [h16]

@[simp] theorem number_of_to4 {ip4 : IP} (h : ip.to4 = some ip4) : ip4.number = ip.number := by
  have hlength := length_of_to4 h
  unfold to4 at h
  split_ifs at h with h4 htake
  · cases h
    rfl
  · cases h
    rw [number, if_pos hlength, number, if_neg h4, ← htake, take_append_drop]

theorem number_of_value {a b : IP} (hlength : a.bytes.length = b.bytes.length)
    (hvalue : value a.bytes = value b.bytes + n) : a.number = b.number + n := by
  unfold number
  rw [hlength]
  split
  · rw [value_append, value_append, hlength, hvalue]
    omega
  · exact hvalue

def add (ip : IP) (n : ℤ) : IP :=
  ⟨(addCarry ip.bytes n).1, by rw [length_addCarry]; exact ip.length_eq⟩

def dotted (bs : List UInt8) : String := ".".intercalate (bs.map fun b => toString b.toNat)

def groups : List UInt8 → List ℕ
  | hi :: lo :: rest => (hi.toNat * 256 + lo.toNat) :: groups rest
  | _ => []

/-- Where the first longest run of at least two zero groups begins and ends. -/
def zeroRun (gs : List ℕ) : Option (ℕ × ℕ) :=
  (List.range gs.length).foldl (fun best start =>
    let run := ((gs.drop start).takeWhile (· == 0)).length
    if 2 ≤ run ∧ run > best.elim 0 (fun b => b.2 - b.1) then some (start, start + run) else best)
    none

def hex (n : ℕ) : String := String.ofList (Nat.toDigits 16 n)

def colons (gs : List ℕ) : String :=
  match zeroRun gs with
  | none => ":".intercalate (gs.map hex)
  | some (start, stop) =>
    ":".intercalate ((gs.take start).map hex) ++ "::" ++ ":".intercalate ((gs.drop stop).map hex)

def string (ip : IP) : String :=
  match ip.to4 with
  | some ip4 => dotted ip4.bytes
  | none => colons (groups ip.bytes)

theorem intercalate_ne_empty {sep : String} (hsep : sep ≠ "") {l : List String}
    (hl : 2 ≤ l.length) : sep.intercalate l ≠ "" := by
  match l with
  | t :: u :: rest =>
    rw [String.intercalate_cons_cons]
    simp [String.append_eq_empty_iff, hsep]

theorem two_le_length_groups : ∀ {bs : List UInt8}, 4 ≤ bs.length → 2 ≤ (groups bs).length
  | _ :: _ :: _ :: _ :: _, _ => by simp [groups]

theorem string_ne_empty (ip : IP) : ip.string ≠ "" := by
  unfold string
  split
  · next ip4 h =>
    refine intercalate_ne_empty (by decide) ?_
    simp [length_of_to4 h]
  · have hgroups : 2 ≤ (groups ip.bytes).length :=
      two_le_length_groups (by have := ip.length_eq; omega)
    unfold colons
    split
    · exact intercalate_ne_empty (by decide) (by simpa using hgroups)
    · simp [String.append_eq_empty_iff]

end IP

/-- A network: its first address and how many bits of an address name the network. -/
structure IPNet where
  ip : IP
  ones : ℕ
  deriving DecidableEq

variable {net : IPNet}

namespace IPNet

def hostBits (net : IPNet) : ℕ := 8 * net.ip.bytes.length - net.ones

def Contains (net : IPNet) (a : IP) : Prop :=
  net.ip.number ≤ a.number ∧ a.number < net.ip.number + 2 ^ net.hostBits

def ofAddress (ip : IP) (ones : ℕ) : IPNet :=
  ⟨⟨mask ip.bytes ones, by rw [length_mask]; exact ip.length_eq⟩, ones⟩

theorem two_pow_dvd_value_ofAddress (ip : IP) (ones : ℕ) :
    2 ^ (ofAddress ip ones).hostBits ∣ value (ofAddress ip ones).ip.bytes := by
  have h := two_pow_dvd_value_mask ip.bytes ones
  rwa [← length_mask ip.bytes ones] at h

def base (net : IPNet) : IP := net.ip.to4.getD net.ip

theorem number_base (net : IPNet) : net.base.number = net.ip.number := by
  unfold base
  cases h : net.ip.to4 with
  | none => rfl
  | some ip4 => exact IP.number_of_to4 h

theorem add_two_pow_le {h w v : ℕ} (hhw : h ≤ w) (hdvd : 2 ^ h ∣ v) (hv : v < 2 ^ w) :
    v + 2 ^ h ≤ 2 ^ w := by
  obtain ⟨k, rfl⟩ := hdvd
  obtain ⟨d, rfl⟩ := Nat.exists_eq_add_of_le hhw
  rw [pow_add] at hv ⊢
  have hk : k + 1 ≤ 2 ^ d := Nat.lt_of_mul_lt_mul_left hv
  calc 2 ^ h * k + 2 ^ h = 2 ^ h * (k + 1) := by ring
    _ ≤ 2 ^ h * 2 ^ d := Nat.mul_le_mul_left _ hk

theorem value_base_add_lt (hdvd : 2 ^ net.hostBits ∣ value net.ip.bytes)
    (hn : n < 2 ^ net.hostBits) : value net.base.bytes + n < 256 ^ net.base.bytes.length := by
  have hwide : (256 : ℕ) ^ net.ip.bytes.length = 2 ^ (8 * net.ip.bytes.length) := by
    rw [pow_mul]
    rfl
  have hlt := value_lt net.ip.bytes
  rw [hwide] at hlt
  have hroom := add_two_pow_le (Nat.sub_le _ net.ones) hdvd hlt
  unfold base IP.to4
  split_ifs with h4 htake
  · rw [Option.getD_some, hwide]
    exact lt_of_lt_of_le (Nat.add_lt_add_left hn _) hroom
  · have h16 := net.ip.length_eq.resolve_left h4
    have hdrop : (net.ip.bytes.drop 12).length = 4 := by simp [h16]
    have hlow := value_lt (net.ip.bytes.drop 12)
    have hvalue : value net.ip.bytes = 65535 * 2 ^ 32 + value (net.ip.bytes.drop 12) := by
      conv_lhs => rw [← take_append_drop 12 net.ip.bytes, htake, value_append, hdrop]
      rfl
    rw [hdrop] at hlow
    have hbits : net.hostBits ≤ 32 := by
      by_contra hbig
      have hdvd' : 2 ^ 33 ∣ value net.ip.bytes := (pow_dvd_pow 2 (by omega)).trans hdvd
      omega
    have hdvd4 : 2 ^ net.hostBits ∣ value (net.ip.bytes.drop 12) := by
      rw [hvalue] at hdvd
      exact (Nat.dvd_add_right ((pow_dvd_pow 2 hbits).mul_left _)).1 hdvd
    have hroom4 := add_two_pow_le hbits hdvd4 hlow
    simp only [Option.getD_some, hdrop]
    exact lt_of_lt_of_le (Nat.add_lt_add_left hn _) hroom4
  · rw [Option.getD_none, hwide]
    exact lt_of_lt_of_le (Nat.add_lt_add_left hn _) hroom

theorem number_base_add (hdvd : 2 ^ net.hostBits ∣ value net.ip.bytes)
    (hn : n < 2 ^ net.hostBits) : (net.base.add n).number = net.ip.number + n := by
  rw [← number_base]
  exact IP.number_of_value (length_addCarry _ _)
    (value_addCarry_of_lt (value_base_add_lt hdvd hn))

end IPNet

def digits (s : List Char) : Option ℕ :=
  if s ≠ [] ∧ s.all Char.isDigit then some (s.foldl (fun n c => n * 10 + (c.toNat - 48)) 0)
  else none

def parseOctet (s : List Char) : Option UInt8 :=
  if s.head? = some '0' ∧ s ≠ ['0'] then none
  else (digits s).bind fun n => if n ≤ 255 then some (UInt8.ofNat n) else none

def parseIPv4 (s : List Char) : Option (List UInt8) :=
  let fields := Text.split '.' s
  if fields.length = 4 then fields.mapM parseOctet else none

def hexDigit (c : Char) : Option ℕ :=
  if '0' ≤ c ∧ c ≤ '9' then some (c.toNat - '0'.toNat)
  else if 'a' ≤ c ∧ c ≤ 'f' then some (c.toNat - 'a'.toNat + 10)
  else if 'A' ≤ c ∧ c ≤ 'F' then some (c.toNat - 'A'.toNat + 10)
  else none

/-- The loop over the groups, at most so many of them: what has been read, and the place of the
two colons. The address may end in one with dots. -/
def parseGroups : ℕ → List Char → List UInt8 → Option ℕ → Option (List Char × List UInt8 × Option ℕ)
  | 0, s, ip, ellipsis => some (s, ip, ellipsis)
  | left + 1, s, ip, ellipsis =>
    let group := s.takeWhile fun c => (hexDigit c).isSome
    let rest := s.dropWhile fun c => (hexDigit c).isSome
    let acc := (group.filterMap hexDigit).foldl (fun n d => n * 16 + d) 0
    let ip' := ip ++ [UInt8.ofNat (acc / 256), UInt8.ofNat (acc % 256)]
    if group = [] ∨ 4 < group.length then none
    else match rest with
      | '.' :: _ =>
        if (ellipsis = none ∧ ip.length ≠ 12) ∨ 16 < ip.length + 4 then none
        else (parseIPv4 s).map fun v4 => ([], ip ++ v4, ellipsis)
      | [] => some ([], ip', ellipsis)
      | [':'] => none
      | ':' :: ':' :: rest' =>
        if ellipsis.isSome then none
        else if rest' = [] then some ([], ip', some ip'.length)
        else parseGroups left rest' ip' (some ip'.length)
      | ':' :: rest' => parseGroups left rest' ip' ellipsis
      | _ => none

/-- Two colons stand for the groups that are missing, at least one. -/
def expand (ip : List UInt8) : Option ℕ → Option (List UInt8)
  | none => if ip.length = 16 then some ip else none
  | some place =>
    if ip.length < 16 then
      some (ip.take place ++ List.replicate (16 - ip.length) 0 ++ ip.drop place)
    else none

/-- An address with colons. One with a zone is not that of a network. -/
def parseIPv6 (s : List Char) : Option (List UInt8) :=
  let parsed := match s with
    | ':' :: ':' :: [] => some ([], [], some 0)
    | ':' :: ':' :: rest => parseGroups 8 rest [] (some 0)
    | _ => parseGroups 8 s [] none
  parsed.bind fun (rest, ip, ellipsis) => if rest = [] then expand ip ellipsis else none

/-- The first dot or colon tells the kind of the address. -/
def parseAddr (s : List Char) : Option IP :=
  (match s.find? fun c => c == '.' || c == ':' || c == '%' with
    | some '.' => parseIPv4 s
    | some ':' => parseIPv6 s
    | _ => none).bind fun bytes =>
    if h : bytes.length = 4 ∨ bytes.length = 16 then some ⟨bytes, h⟩ else none

def parseCIDR (s : String) : Option (IP × IPNet) :=
  let addr := s.toList.takeWhile (· != '/')
  match s.toList.dropWhile (· != '/') with
  | [] => none
  | _ :: bits =>
    (parseAddr addr).bind fun ip => (digits bits).bind fun ones =>
      if ones ≤ 8 * ip.bytes.length then some (ip, IPNet.ofAddress ip ones) else none

theorem two_pow_dvd_of_parseCIDR {s : String} (h : parseCIDR s = some (ip, net)) :
    2 ^ net.hostBits ∣ value net.ip.bytes := by
  unfold parseCIDR at h
  split at h
  · cases h
  · simp only [Option.bind_eq_some_iff] at h
    obtain ⟨ip', -, ones, -, h⟩ := h
    split_ifs at h
    cases h
    exact IPNet.two_pow_dvd_value_ofAddress _ _

end KubeOne.Net
