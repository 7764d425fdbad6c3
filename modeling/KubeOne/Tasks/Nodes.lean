import KubeOne.Apis.Validation
import KubeOne.Collections.Assoc
import Mathlib.Data.List.Induction

/-! Labelling the nodes. The labels of a host are a Go map, in which a key that ends in a dash takes
a label away; they are applied to the Node of the host in the order of an iteration. -/

namespace KubeOne.Tasks.Nodes

open Apis.V1beta3 (HostConfig OperatingSystemName)
open Collections List

abbrev Labels := String → Option String

def OperatingSystemName.text : OperatingSystemName → String
  | .ubuntu => "ubuntu"
  | .debian => "debian"
  | .centos => "centos"
  | .rhel => "rhel"
  | .rockylinux => "rockylinux"
  | .flatcar => "flatcar"
  | .unknown => ""
  | .other name => name

def labelControlPlaneNode : String := "node-role.kubernetes.io/control-plane"

def operatingSystemLabel : String := "v1.kubeone.io/operating-system"

/-- The label that an entry changes, and its value afterwards. -/
def edit (entry : String × String) : String × Option String :=
  if entry.1.toList.getLast? = some '-' then (String.ofList entry.1.toList.dropLast, none)
  else (entry.1, some entry.2)

def addRemoveKeyValues (src : List (String × String)) (dst : Labels) : Labels :=
  src.foldl (fun dst entry => Function.update dst (edit entry).1 (edit entry).2) dst

/-- The labels of the host of a Node; those of a control plane host get the label of the role. -/
def syncedLabels (controlPlane : Bool) (host : HostConfig) : List (String × String) :=
  if controlPlane then put host.labels labelControlPlaneNode "" else host.labels

/-- The update of the Node of a host, with the order in which its labels are walked. -/
def labelNode (host : HostConfig) (order : List (String × String)) (node : Labels) : Labels :=
  addRemoveKeyValues order
    (Function.update node operatingSystemLabel
      (some (OperatingSystemName.text host.operatingSystem)))

/-- No label is set by one entry and removed by another one. -/
def Consistent (src : List (String × String)) : Prop :=
  ∀ entry ∈ src, ∀ entry' ∈ src, (edit entry).1 = (edit entry').1 → (edit entry).2 = (edit entry').2

variable {src : List (String × String)} {order : List (String × String)}

theorem Consistent.perm (h : Consistent src) (hperm : order.Perm src) : Consistent order :=
  fun entry hmem entry' hmem' => h entry (hperm.mem_iff.mp hmem) entry' (hperm.mem_iff.mp hmem')

theorem addRemoveKeyValues_apply (src : List (String × String)) (dst : Labels) (key : String) :
    addRemoveKeyValues src dst key =
      match src.reverse.find? fun entry => (edit entry).1 = key with
      | some entry => (edit entry).2
      | none => dst key := by
  induction src using reverseRecOn with
  | nil => rfl
  | append_singleton src entry ih =>
    unfold addRemoveKeyValues at ih ⊢
    rw [foldl_append, foldl_cons, foldl_nil,
      reverse_append, reverse_singleton, singleton_append, find?_cons]
    by_cases hkey : (edit entry).1 = key
    · simp [← hkey]
    · simpa [hkey, Function.update_of_ne (Ne.symm hkey)] using ih

theorem addRemoveKeyValues_of_ne {key : String} (h : ∀ entry ∈ src, (edit entry).1 ≠ key)
    (dst : Labels) : addRemoveKeyValues src dst key = dst key := by
  rw [addRemoveKeyValues_apply, find?_eq_none.mpr (by simpa using h)]

theorem addRemoveKeyValues_of_mem (h : Consistent src) {entry : String × String}
    (hmem : entry ∈ src) (dst : Labels) :
    addRemoveKeyValues src dst (edit entry).1 = (edit entry).2 := by
  rw [addRemoveKeyValues_apply]
  cases hfind : src.reverse.find? fun other => (edit other).1 = (edit entry).1 with
  | none => simpa using find?_eq_none.mp hfind entry (by simpa using hmem)
  | some other =>
    exact h other (by simpa using mem_of_find?_eq_some hfind) entry hmem
      (by simpa using find?_some hfind)

theorem addRemoveKeyValues_perm (h : Consistent src) (hperm : order.Perm src) (dst : Labels) :
    addRemoveKeyValues order dst = addRemoveKeyValues src dst := by
  funext key
  by_cases hkey : ∀ entry ∈ src, (edit entry).1 ≠ key
  · rw [addRemoveKeyValues_of_ne hkey, addRemoveKeyValues_of_ne fun entry hmem =>
      hkey entry (hperm.mem_iff.mp hmem)]
  · push Not at hkey
    obtain ⟨entry, hmem, rfl⟩ := hkey
    rw [addRemoveKeyValues_of_mem h hmem,
      addRemoveKeyValues_of_mem (h.perm hperm) (hperm.mem_iff.mpr hmem)]

theorem addRemoveKeyValues_again (h : Consistent src) (dst : Labels) (key : String)
    (value : Option String) (hvalue : dst key = value) :
    addRemoveKeyValues src (Function.update (addRemoveKeyValues src dst) key value) =
      addRemoveKeyValues src dst := by
  funext k
  by_cases hk : ∀ entry ∈ src, (edit entry).1 ≠ k
  · rw [addRemoveKeyValues_of_ne hk, addRemoveKeyValues_of_ne hk]
    by_cases hkey : k = key
    · rw [hkey, Function.update_self, hvalue]
    · rw [Function.update_of_ne hkey, addRemoveKeyValues_of_ne hk]
  · push Not at hk
    obtain ⟨entry, hmem, rfl⟩ := hk
    rw [addRemoveKeyValues_of_mem h hmem, addRemoveKeyValues_of_mem h hmem]

theorem consistent_of_orders {dst : Labels} (h : ∀ order order', order.Perm src →
    order'.Perm src → addRemoveKeyValues order dst = addRemoveKeyValues order' dst) :
    Consistent src := by
  have hlast : ∀ entry ∈ src, ∃ order, order.Perm src ∧
      addRemoveKeyValues order dst (edit entry).1 = (edit entry).2 := by
    intro entry hmem
    refine ⟨src.erase entry ++ [entry],
      (perm_append_singleton _ _).trans (perm_cons_erase hmem).symm, ?_⟩
    rw [addRemoveKeyValues, foldl_append, foldl_cons, foldl_nil, Function.update_self]
  intro entry hmem entry' hmem' hkey
  obtain ⟨order, hperm, hvalue⟩ := hlast entry hmem
  obtain ⟨order', hperm', hvalue'⟩ := hlast entry' hmem'
  rw [← hvalue, ← hvalue', h order order' hperm hperm', hkey]

theorem mem_put_self (m : List (String × String)) (key value : String) :
    (key, value) ∈ put m key value :=
  mem_of_lookup_eq_some (by rw [lookup_put, if_pos rfl])

/-- The labels of a Node do not depend on the order of an iteration, the Node of a control plane
host has the label of its role, and a second run changes nothing, exactly if no label of the host
is both set and removed. -/
theorem labels_have_one_outcome_iff (controlPlane : Bool) (host : HostConfig) :
    (∀ node order order', order.Perm (syncedLabels controlPlane host) →
      order'.Perm (syncedLabels controlPlane host) →
        labelNode host order node = labelNode host order' node ∧
        (controlPlane = true → (labelNode host order node labelControlPlaneNode).isSome) ∧
        labelNode host order' (labelNode host order node) = labelNode host order node) ↔
      Consistent (syncedLabels controlPlane host) := by
  constructor
  · intro h
    exact consistent_of_orders fun order order' hperm hperm' =>
      (h (fun _ => none) order order' hperm hperm').1
  · intro h node order order' hperm hperm'
    simp only [labelNode, addRemoveKeyValues_perm h hperm, addRemoveKeyValues_perm h hperm']
    refine ⟨trivial, fun hrole => ?_, ?_⟩
    · subst hrole
      have hmem : (labelControlPlaneNode, "") ∈ syncedLabels true host := mem_put_self ..
      have hedit : edit (labelControlPlaneNode, "") = (labelControlPlaneNode, some "") := by decide
      have hvalue := addRemoveKeyValues_of_mem h hmem
      rw [hedit] at hvalue
      rw [hvalue]
      rfl
    · exact addRemoveKeyValues_again h _ _ _ (Function.update_self ..)

/-- The role of a control plane node is removed and set in one map. -/
theorem removed_role_depends_on_order :
    let host : HostConfig := { labels := [("node-role.kubernetes.io/control-plane-", "")] }
    let synced := syncedLabels true host
    Apis.Validation.validateLabels host.labels "labels" = [] ∧
      labelNode host synced (fun _ => none) labelControlPlaneNode = some "" ∧
      labelNode host synced.reverse (fun _ => none) labelControlPlaneNode = none := by
  decide

end KubeOne.Tasks.Nodes
