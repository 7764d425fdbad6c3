import Mathlib.Data.Rat.Init
import Mathlib.Data.List.Basic

/-! YAML documents that are edited by paths. A mapping from a file is a list of items in order;
mappings that are created on the way to a new value are Go maps. The code edits them in place, so
a document is one in which none stands at two paths. A path has its last step first, so that its
parent is its tail. -/

namespace KubeOne.Yamled

inductive Scalar
  | null
  | bool (b : Bool)
  | number (n : ℚ)
  | str (s : String)
  deriving DecidableEq

/-- What the decoder produces, and Go maps. A mapping without items is a nil slice when it comes
from the decoder. -/
inductive Node
  | scalar (s : Scalar)
  | seq (items : List Node)
  | mapSlice (items : List (Scalar × Node))
  | goMap (items : List (String × Node))

namespace Node

@[induction_eliminator]
theorem induct {P : Node → Prop} (scalar : ∀ s, P (.scalar s))
    (seq : ∀ items, (∀ n ∈ items, P n) → P (.seq items))
    (mapSlice : ∀ items : List (Scalar × Node), (∀ item ∈ items, P item.2) → P (.mapSlice items))
    (goMap : ∀ items : List (String × Node), (∀ item ∈ items, P item.2) → P (.goMap items))
    (n : Node) : P n :=
  @Node.rec P (fun items => ∀ n ∈ items, P n) (fun items => ∀ item ∈ items, P item.2)
    (fun items => ∀ item ∈ items, P item.2) (fun item => P item.2) (fun item => P item.2)
    scalar seq mapSlice goMap (by simp) (by simp +contextual) (by simp) (by simp +contextual)
    (by simp) (by simp +contextual) (by simp) (by simp) n

abbrev null : Node := .scalar .null
abbrev bool (b : Bool) : Node := .scalar (.bool b)
abbrev str (s : String) : Node := .scalar (.str s)

instance (n : Node) : Decidable (n = null) :=
  match n with
  | .scalar s => decidable_of_iff (s = .null) (by simp)
  | .seq _ | .mapSlice _ | .goMap _ => isFalse nofun

instance (x : Option Node) : Decidable (x = some null) :=
  decidable_of_iff (x.any (· = null)) (by cases x <;> simp)

end Node

/-- A step of a type that no lookup knows is `other`. -/
inductive Step
  | key (k : String)
  | index (i : ℕ)
  | other
  deriving DecidableEq

abbrev Path := List Step

/-- A key of a mapping as the step of a path. -/
def Scalar.step : Scalar → Step
  | .str s => .key s
  | .number n => if n.den = 1 ∧ 0 ≤ n.num then .index n.num.toNat else .other
  | _ => .other

/-- A key as a string, empty if it is none. -/
def Scalar.text : Scalar → String
  | .str s => s
  | _ => ""

@[simp] theorem Scalar.step_str (s : String) : (Scalar.str s).step = .key s := rfl

@[simp] theorem Scalar.text_str (s : String) : (Scalar.str s).text = s := rfl

def Node.child : Step → Node → Option Node
  | .key k, .goMap items => (items.find? fun item => item.1 = k).map (·.2)
  | .key k, .mapSlice items => (items.find? fun item => item.1.text = k).map (·.2)
  | .index i, .seq items => items[i]?
  | _, _ => none

section Maps

variable {κ α : Type} [DecidableEq κ]

/-- The value of the first item with the key, or a new item at the end. -/
def setValueInMapSlice (m : List (κ × α)) (key : κ) (value : α) : List (κ × α) :=
  match m with
  | [] => [(key, value)]
  | item :: rest =>
    if item.1 = key then (item.1, value) :: rest else item :: setValueInMapSlice rest key value

def removeKeyFromMapSlice (m : List (κ × α)) (key : κ) : List (κ × α) :=
  m.eraseP fun item => item.1 = key

end Maps

structure Document where
  root : List (Scalar × Node)

namespace Document

def get (d : Document) : Path → Option Node
  | [] => some (.mapSlice d.root)
  | step :: parent => (d.get parent).bind (Node.child step)

def has (d : Document) (path : Path) : Bool := (d.get path).isSome

def setRoot (d : Document) : Node → Document × Bool
  | .goMap items => (⟨items.map fun item => (.str item.1, item.2)⟩, true)
  | .mapSlice items => (⟨items⟩, true)
  | _ => (d, false)

/-- The parent with a new value for the last step, if it is a list or a map as the step needs. -/
def place (target : Option Node) (leaf : Step) (value : Node) : Option Node :=
  match leaf, target with
  | .index i, some (.seq items) =>
    some (.seq ((items ++ List.replicate (i + 1 - items.length) Node.null).set i value))
  | .key k, some (.goMap items) => some (.goMap (setValueInMapSlice items k value))
  | .key k, some (.mapSlice items) => some (.mapSlice (setValueInMapSlice items (.str k) value))
  | _, _ => none

/-- Missing parents are created. -/
def setInternal (d : Document) : Path → Node → Document × Bool
  | [], value => d.setRoot value
  | leaf :: parent, value =>
    let created : Document × Bool :=
      if d.has parent then (d, true)
      else
        match leaf with
        | .index _ => d.setInternal parent (.seq [])
        | .key _ => d.setInternal parent (.goMap [])
        | .other => (d, false)
    if created.2 then
      match place (created.1.get parent) leaf value with
      | some target => created.1.setInternal parent target
      | none => (created.1, false)
    else created

def set (d : Document) (path : Path) (value : Node) : Document × Bool :=
  if path = [] then (d, false) else d.setInternal path value

def without (target : Node) (leaf : Step) : Option Node :=
  match leaf, target with
  | .index i, .seq items => some (.seq (items.eraseIdx i))
  | .key k, .goMap items => some (.goMap (removeKeyFromMapSlice items k))
  | .key k, .mapSlice items => some (.mapSlice (removeKeyFromMapSlice items (.str k)))
  | _, _ => none

def remove (d : Document) : Path → Document × Bool
  | [] => d.setRoot (.mapSlice [])
  | leaf :: parent =>
    match d.get parent with
    | none => (d, true)
    | some target =>
      match without target leaf with
      | some target' => d.setInternal parent target'
      | none => (d, false)

/-- The function is called for a value after the values below it, with the value as it was before.
The steps are those of the value as it was; `fuel` bounds the depth. -/
def walk (walkFn : Path → Node → Document → Document) : ℕ → Path → Document → Document
  | 0, _, d => d
  | fuel + 1, path, d =>
    match d.get path with
    | none => d
    | some target =>
      let steps : List Step :=
        match target with
        | .mapSlice items => items.map fun item => item.1.step
        | .seq items => (List.range items.length).map Step.index
        | _ => []
      walkFn path target (steps.foldl (fun d step => walk walkFn fuel (step :: path) d) d)

end Document

end KubeOne.Yamled
