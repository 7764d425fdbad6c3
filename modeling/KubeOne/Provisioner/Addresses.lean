import Mathlib.Data.List.Nodup

/-! The addresses of a machine, out of the map of addresses of its instance, which is walked in any
order. An address of the type of an IP address is taken only if it parses as one. -/

namespace KubeOne.Provisioner

inductive AddressType
  | externalIP
  | internalIP
  | hostName
  | externalDNS
  | internalDNS
  | unknown
  | other (name : String)

abbrev Address := String × AddressType

structure IP where
  isPrivate : Bool
  v4 : Bool

structure IPParser where
  parseIP : String → Option IP
  empty : parseIP "" = none

/-- The addresses of an instance, a Go map. -/
structure Instance where
  addresses : List Address
  nodup : (addresses.map Prod.fst).Nodup

structure Machine where
  publicAddress : String
  privateAddress : String
  hostname : String

/-- What an address is taken for. -/
inductive Slot
  | ip (isPrivate v4 : Bool)
  | name
  | internalDNS
  | guessed
  deriving DecidableEq

/-- The variables of the loop: an address for each kind of IP address, and the hostname. -/
structure Found where
  address : Bool → Bool → String := fun _ _ => ""
  hostname : String := ""

variable (parser : IPParser)

def slot (entry : Address) : Option Slot :=
  match entry.2 with
  | .externalIP => (parser.parseIP entry.1).map fun ip => .ip false ip.v4
  | .internalIP => (parser.parseIP entry.1).map fun ip => .ip true ip.v4
  | .hostName | .externalDNS => some .name
  | .internalDNS => some .internalDNS
  | .unknown =>
    match parser.parseIP entry.1 with
    | none => some .guessed
    | some ip => some (.ip ip.isPrivate ip.v4)
  | .other _ => none

def keepFirst (old new : String) : String := if old = "" then new else old

def setHostname (hostname : String) (entry : Address) : String :=
  match slot parser entry with
  | some .name => keepFirst hostname entry.1
  | some .internalDNS => entry.1
  | some .guessed => if hostname ≠ "" then entry.1 else hostname
  | _ => hostname

def Found.add (found : Found) (entry : Address) : Found :=
  { address := fun isPrivate v4 =>
      if slot parser entry = some (.ip isPrivate v4) then
        keepFirst (found.address isPrivate v4) entry.1
      else found.address isPrivate v4
    hostname := setHostname parser found.hostname entry }

/-- The loop over the addresses in the order of an iteration. -/
def getMachineInfo (order : List Address) : Machine :=
  let found := order.foldl (Found.add parser) {}
  { publicAddress := keepFirst (found.address false true) (found.address false false)
    privateAddress := keepFirst (found.address true true) (found.address true false)
    hostname := found.hostname }

def publicAndPrivateIPExist (addresses : List Address) : Bool :=
  let ip := fun isPrivate (entry : Address) =>
    match entry.2 with
    | .externalIP => isPrivate = false
    | .internalIP => isPrivate = true
    | .unknown => (parser.parseIP entry.1).any (·.isPrivate = isPrivate)
    | _ => false
  addresses.any (ip false) && addresses.any (ip true)

variable {parser} {e : Address} {isPrivate v4 : Bool}

theorem ne_empty_of_slot (h : slot parser e = some (.ip isPrivate v4)) : e.1 ≠ "" := by
  intro hempty
  unfold slot at h
  rw [hempty, parser.empty] at h
  cases htype : e.2 <;> simp [htype] at h

theorem keepFirst_ne_empty {old new : String} : keepFirst old new ≠ "" ↔ old ≠ "" ∨ new ≠ "" := by
  by_cases h : old = "" <;> simp [keepFirst, h]

theorem foldl_address_ne_empty (l : List Address) (found : Found) :
    (l.foldl (Found.add parser) found).address isPrivate v4 ≠ "" ↔
      found.address isPrivate v4 ≠ "" ∨ ∃ e ∈ l, slot parser e = some (.ip isPrivate v4) := by
  induction l generalizing found with
  | nil => simp
  | cons e l ih =>
    have hstep : (found.add parser e).address isPrivate v4 ≠ "" ↔
        found.address isPrivate v4 ≠ "" ∨ slot parser e = some (.ip isPrivate v4) := by
      by_cases hslot : slot parser e = some (.ip isPrivate v4)
      · simp [Found.add, hslot, keepFirst_ne_empty, ne_empty_of_slot hslot]
      · simp [Found.add, hslot]
    rw [List.foldl_cons, ih, hstep, List.exists_mem_cons_iff, or_assoc]

/-- A machine that is reported ready has both addresses exactly if one of each kind is an IP
address and not only of the type of one. -/
theorem ready_machine_has_addresses_iff (parser : IPParser) (i : Instance) :
    (publicAndPrivateIPExist parser i.addresses = true → ∀ order, order.Perm i.addresses →
      (getMachineInfo parser order).publicAddress ≠ "" ∧
        (getMachineInfo parser order).privateAddress ≠ "") ↔
      (publicAndPrivateIPExist parser i.addresses = true → ∀ isPrivate,
        ∃ e ∈ i.addresses, ∃ v4, slot parser e = some (.ip isPrivate v4)) := by
  refine imp_congr_right fun _ => ?_
  have hcases : ∀ order, order.Perm i.addresses →
      ((getMachineInfo parser order).publicAddress ≠ "" ∧
        (getMachineInfo parser order).privateAddress ≠ "" ↔
        ∀ isPrivate, ∃ e ∈ i.addresses, ∃ v4, slot parser e = some (.ip isPrivate v4)) := by
    intro order hperm
    simp only [getMachineInfo, keepFirst_ne_empty, foldl_address_ne_empty, ne_eq, not_true_eq_false,
      false_or, Bool.forall_bool, Bool.exists_bool, and_or_left, exists_or, hperm.mem_iff, or_comm]
  exact ⟨fun h => (hcases _ (.refl _)).mp (h _ (.refl _)), fun h order hperm =>
    (hcases order hperm).mpr h⟩

/-- An address of the external type that does not parse is reported and not used. -/
theorem unparsed_address_reported_ready :
    let parser : IPParser :=
      ⟨fun s => if s = "10.0.0.5" then some ⟨true, true⟩ else none, by decide⟩
    let i : Instance := ⟨[("10.0.0.5", .internalIP), ("vm.example.com", .externalIP)], by decide⟩
    publicAndPrivateIPExist parser i.addresses = true ∧
      (getMachineInfo parser i.addresses).publicAddress = "" := by
  decide

end KubeOne.Provisioner
