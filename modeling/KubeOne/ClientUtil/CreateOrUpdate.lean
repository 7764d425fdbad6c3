import Mathlib.Data.Option.Basic

/-! Writing an object that may exist already. The existing object is merged into the one to be
written, where an empty value counts as a missing one. -/

namespace KubeOne.ClientUtil

inductive Part
  | labels
  | annotations
  | data
  deriving DecidableEq

/-- The maps of an object that are merged key by key. -/
abbrev Object := Part → String → Option String

abbrev Updater := Object → Object

/-- A request may be refused; a refused write may have taken effect. -/
structure Answers where
  get : Bool := true
  write : Bool := true
  takesEffect : Bool := true

inductive WriteFailure
  | creating
  | getting
  | updating

/-- Fills the zero values and the missing keys of the destination. -/
def merge (dst src : Object) : Object := fun part key =>
  match dst part key with
  | some value => if value = "" then (src part key).or (some "") else some value
  | none => src part key

def write (a : Answers) (failure : WriteFailure) (obj : Object) (server : Option Object) :
    Option Object × Except WriteFailure Unit :=
  if a.write then (some obj, .ok ())
  else (if a.takesEffect then some obj else server, .error failure)

def createOrUpdate (a : Answers) (obj : Object) (updaters : List Updater)
    (server : Option Object) : Option Object × Except WriteFailure Unit :=
  let obj := updaters.foldl (fun obj update => update obj) obj
  if a.get then
    match server with
    | none => write a .creating obj server
    | some existing => write a .updating (merge obj existing) server
  else (server, .error .getting)

/-- The object has what is desired, and the rest as it was. -/
def Enforces (desired : Object) (server : Option Object) (obj : Object) : Prop :=
  ∀ part key, match desired part key with
    | some value => obj part key = some value
    | none => obj part key = server.bind fun existing => existing part key

theorem enforces_none (desired : Object) : Enforces desired none desired := by
  intro part key
  cases h : desired part key <;> simp

theorem enforces_merge_iff {desired existing : Object} :
    Enforces desired (some existing) (merge desired existing) ↔
      ∀ part key, desired part key = some "" → (existing part key).getD "" = "" := by
  refine forall₂_congr fun part key => ?_
  unfold merge
  cases hdesired : desired part key with
  | none => simp
  | some value =>
    by_cases hempty : value = ""
    · subst hempty
      cases existing part key <;> simp
    · simp [hempty]

/-- A write that succeeds enforces what is desired, exactly if no value that is to become empty
is there with another value. -/
theorem createOrUpdate_enforces_iff (obj : Object) (updaters : List Updater)
    (server : Option Object) :
    (∀ a after, createOrUpdate a obj updaters server = (after, .ok ()) →
      ∃ stored, after = some stored ∧
        Enforces (updaters.foldl (fun obj update => update obj) obj) server stored) ↔
      ∀ existing, server = some existing → ∀ part key,
        updaters.foldl (fun obj update => update obj) obj part key = some "" →
          (existing part key).getD "" = "" := by
  unfold createOrUpdate
  generalize updaters.foldl (fun obj update => update obj) obj = desired
  cases server with
  | none =>
    refine iff_of_true (fun a after h => ?_) (by simp)
    refine ⟨desired, ?_, enforces_none desired⟩
    cases hget : a.get <;> cases hwrite : a.write <;> simp_all [write]
  | some existing =>
    simp only [Option.some.injEq, forall_eq']
    rw [← enforces_merge_iff]
    constructor
    · intro h
      obtain ⟨stored, hstored, henforces⟩ := h {} _ rfl
      cases hstored
      exact henforces
    · intro henforces a after h
      refine ⟨merge desired existing, ?_, henforces⟩
      cases hget : a.get <;> cases hwrite : a.write <;> simp_all [write]

/-- The namespace has a node selector, which is to become empty. -/
theorem node_selector_stays :
    let selector : String → Object := fun value part key =>
      if part = .annotations ∧ key = "scheduler.alpha.kubernetes.io/node-selector" then some value
      else none
    let run := createOrUpdate {} (selector "") [] (some (selector "role=worker"))
    run.2 = .ok () ∧
      run.1.bind (fun ns => ns .annotations "scheduler.alpha.kubernetes.io/node-selector") =
        some "role=worker" := by
  simp [createOrUpdate, write, merge]

end KubeOne.ClientUtil
