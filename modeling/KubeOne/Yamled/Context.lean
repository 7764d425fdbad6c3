import KubeOne.Yamled.Document

/-! Documents around a path. A context is a document with a hole at a path that exists: reading
the path gives what fills the hole, and setting the path fills it with something else. So an edit
far down in a document is an edit of the value at the hole. -/

namespace KubeOne.Yamled

/-- The path leads to the hole. -/
structure Context (path : Path) where
  fill : Node → Document
  get_fill : ∀ n, (fill n).get path = some n
  set_fill : ∀ n n', (fill n).setInternal path n' = (fill n', true)

section Items

variable {k : String} {n : Node} {before after : List (Scalar × Node)}

variable (h : ∀ item ∈ before, item.1.text ≠ k)

include h

theorem child_item : Node.child (.key k) (.mapSlice (before ++ (.str k, n) :: after)) = some n := by
  have hnone : before.find? (fun item => decide (item.1.text = k)) = none := by
    simpa using h
  simp [Node.child, List.find?_append, hnone]

theorem setValue_item (n' : Node) :
    setValueInMapSlice (before ++ (.str k, n) :: after) (.str k) n' =
      before ++ (.str k, n') :: after := by
  induction before with
  | nil => simp [setValueInMapSlice]
  | cons item before ih =>
    rw [List.forall_mem_cons] at h
    have hne : item.1 ≠ .str k := by
      intro heq
      exact h.1 (by rw [heq]; rfl)
    simp [setValueInMapSlice, hne, ih h.2]

theorem removeKey_item :
    removeKeyFromMapSlice (before ++ (.str k, n) :: after) (.str k) = before ++ after := by
  have hne : ∀ item ∈ before, ¬ decide (item.1 = Scalar.str k) = true := by
    intro item hitem heq
    exact h item hitem (by rw [of_decide_eq_true heq]; rfl)
  rw [removeKeyFromMapSlice, List.eraseP_append_right _ hne]
  simp

end Items

namespace Document

variable {d : Document} {path : Path} {leaf : Step} {target t : Node}

theorem setInternal_cons (hget : d.get path = some target) {value : Node}
    (hplace : place (some target) leaf value = some t) :
    d.setInternal (leaf :: path) value = d.setInternal path t := by
  simp [setInternal, has, hget, hplace]

theorem remove_cons (hget : d.get path = some target)
    (hwithout : without target leaf = some t) :
    d.remove (leaf :: path) = d.setInternal path t := by
  simp [remove, hget, hwithout]

end Document

namespace Context

variable {path : Path} (C : Context path)

def item (k : String) (before after : List (Scalar × Node))
    (h : ∀ item ∈ before, item.1.text ≠ k) : Context (.key k :: path) where
  fill n := C.fill (.mapSlice (before ++ (.str k, n) :: after))
  get_fill n := by rw [Document.get, C.get_fill, Option.bind_some, child_item h]
  set_fill n n' := by
    rw [Document.setInternal_cons (C.get_fill _) (t := .mapSlice _), C.set_fill]
    rw [Document.place, setValue_item h]

def elem (before after : List Node) : Context (.index before.length :: path) where
  fill n := C.fill (.seq (before ++ n :: after))
  get_fill n := by simp [Document.get, C.get_fill, Node.child]
  set_fill n n' := by
    rw [Document.setInternal_cons (C.get_fill _) (t := .seq _), C.set_fill]
    simp [Document.place]

variable {before after : List (Scalar × Node)}

theorem remove_item {k : String} (h : ∀ item ∈ before, item.1.text ≠ k) (n : Node) :
    ((C.item k before after h).fill n).remove (.key k :: path) =
      (C.fill (.mapSlice (before ++ after)), true) := by
  rw [item, Document.remove_cons (C.get_fill _) (t := .mapSlice _), C.set_fill]
  rw [Document.without, removeKey_item h]

theorem remove_elem (before after : List Node) (n : Node) :
    ((C.elem before after).fill n).remove (.index before.length :: path) =
      (C.fill (.seq (before ++ after)), true) := by
  rw [elem, Document.remove_cons (C.get_fill _) (t := .seq _), C.set_fill]
  simp [Document.without, List.eraseIdx_append_of_length_le]

end Context

def Context.root (k : String) (before after : List (Scalar × Node))
    (h : ∀ item ∈ before, item.1.text ≠ k) : Context [.key k] where
  fill n := ⟨before ++ (.str k, n) :: after⟩
  get_fill n := child_item h
  set_fill n n' := by
    rw [Document.setInternal_cons rfl (t := .mapSlice _)]
    · rfl
    · rw [Document.place, setValue_item h]

theorem Context.remove_root {k : String} (h : ∀ item ∈ before, item.1.text ≠ k) (n : Node) :
    ((Context.root k before after h).fill n).remove [.key k] = (⟨before ++ after⟩, true) := by
  rw [root, Document.remove_cons rfl (t := .mapSlice _)]
  · rfl
  · rw [Document.without, removeKey_item h]

end KubeOne.Yamled
