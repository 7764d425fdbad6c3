import KubeOne.Config.Schema

/-! Edits of a document in its JSON form. Setting or removing a member of a mapping sets or removes
the member of the object, as long as the key is the name of a field: no number and no truth value
has the same text. -/

namespace KubeOne.Config

open Collections (lookup_cons_pair)
open Yamled List Option Document

/-- Not the text of a number or a truth value. -/
def isName (k : String) : Bool := k.toList.head?.any Char.isAlpha && k ≠ "true" && k ≠ "false"

variable {F : Formats}

theorem keyText_eq_some_iff {k : String} (hk : isName k = true) {key : Scalar} :
    keyText F.numberText key = some k ↔ key = .str k := by
  simp only [isName, ne_eq, Bool.and_eq_true, decide_eq_true_eq] at hk
  obtain ⟨⟨halpha, htrue⟩, hfalse⟩ := hk
  cases key with
  | null => simp [keyText]
  | bool b => cases b <;> simp [keyText, Ne.symm htrue, Ne.symm hfalse]
  | number n =>
    have hne : F.numberText n ≠ k := by
      intro heq
      cases hc : k.toList.head? with
      | none => simp [hc] at halpha
      | some c =>
        have hnot := F.numberText_head n c (by rw [heq, hc])
        simp [hc, hnot] at halpha
    simp [keyText, hne]
  | str s => simp [keyText]

theorem text_eq_iff {k : String} (hk : isName k = true) {key : Scalar} :
    key.text = k ↔ key = .str k := by
  have hne : k ≠ "" := by
    rintro rfl
    simp [isName] at hk
  cases key <;> simp [Scalar.text, Ne.symm hne]

section Maps

variable {entries : List (String × Node)} {k : String} {v : Node}

theorem lookup_setValue (j : String) :
    (setValueInMapSlice entries k v).lookup j = if j = k then some v else entries.lookup j := by
  induction entries with
  | nil => simp [setValueInMapSlice, lookup_cons_pair]
  | cons e rest ih =>
    obtain ⟨name, n⟩ := e
    by_cases hname : name = k
    · subst hname
      by_cases h : j = name <;> simp [setValueInMapSlice, lookup_cons_pair, h]
    · by_cases h : j = name
      · subst h
        simp [setValueInMapSlice, hname]
      · simp [setValueInMapSlice, lookup_cons_pair, hname, h, ih]

theorem mem_keys_setValue {j : String} :
    j ∈ (setValueInMapSlice entries k v).map Prod.fst ↔ j = k ∨ j ∈ entries.map Prod.fst := by
  induction entries with
  | nil => simp [setValueInMapSlice]
  | cons e rest ih =>
    by_cases hname : e.1 = k
    · simp [setValueInMapSlice, hname]
    · simp only [setValueInMapSlice, hname, if_false, map_cons, mem_cons, ih]
      exact or_left_comm

variable (h : (entries.map Prod.fst).Nodup)

include h

theorem nodup_setValue : ((setValueInMapSlice entries k v).map Prod.fst).Nodup := by
  induction entries with
  | nil => simp [setValueInMapSlice]
  | cons e rest ih =>
    rw [map_cons, nodup_cons] at h
    by_cases hname : e.1 = k
    · simpa [setValueInMapSlice, hname] using h
    · simp only [setValueInMapSlice, hname, if_false, map_cons, nodup_cons]
      exact ⟨fun hmem => (mem_keys_setValue.mp hmem).elim hname h.1, ih h.2⟩

theorem nodup_removeKey : ((removeKeyFromMapSlice entries k).map Prod.fst).Nodup :=
  h.sublist (eraseP_sublist.map Prod.fst)

theorem lookup_removeKey (j : String) :
    (removeKeyFromMapSlice entries k).lookup j = if j = k then none else entries.lookup j := by
  unfold removeKeyFromMapSlice
  induction entries with
  | nil => simp
  | cons e rest ih =>
    obtain ⟨name, n⟩ := e
    rw [map_cons, nodup_cons] at h
    by_cases hname : name = k
    · subst hname
      have hnone : rest.lookup name = none := by
        rw [lookup_eq_none_iff]
        intro e he
        simpa using fun heq : name = e.1 => h.1 (mem_map.mpr ⟨e, he, heq.symm⟩)
      by_cases hj : j = name <;> simp [lookup_cons_pair, hj, hnone]
    · rw [eraseP_cons_of_neg (by simpa using hname), lookup_cons_pair, lookup_cons_pair, ih h.2]
      by_cases hj : j = name
      · subst hj
        simp [hname]
      · simp [hj]

end Maps

variable {n : Node}

section Json

variable {items : List (Scalar × Node)} {entries : List (String × Node)} {k : String} {v v' : Node}

theorem forall₂_setValue {κ : Type} [DecidableEq κ] {key : κ} {v v' : Node}
    {R : κ × Node → String × Node → Prop} (hkey : ∀ item e, R item e → (item.1 = key ↔ e.1 = k))
    (hnew : R (key, v) (k, v')) {items : List (κ × Node)} {entries : List (String × Node)}
    (h : List.Forall₂ R items entries) :
    List.Forall₂ R (setValueInMapSlice items key v) (setValueInMapSlice entries k v') := by
  induction h with
  | nil => exact .cons hnew .nil
  | @cons item e _ _ hitem hrest ih =>
    by_cases hname : e.1 = k
    · simp only [setValueInMapSlice, (hkey item e hitem).mpr hname, hname, if_true]
      exact .cons hnew hrest
    · simp only [setValueInMapSlice, hkey item e hitem, hname, if_false]
      exact .cons hitem ih

theorem normalItems_setValue (hk : isName k = true)
    (h : normalItems F.numberText items = some entries) (hv : normal F.numberText v = some v') :
    normalItems F.numberText (setValueInMapSlice items (.str k) v) =
      some (setValueInMapSlice entries k v') := by
  rw [normalItems_eq_some_iff] at h ⊢
  refine forall₂_setValue (fun item e hitem => ?_) ⟨rfl, hv⟩ h
  rw [← keyText_eq_some_iff hk, hitem.1, some.injEq]

theorem normalEntries_setValue {items : List (String × Node)}
    (h : normalEntries F.numberText items = some entries) (hv : normal F.numberText v = some v') :
    normalEntries F.numberText (setValueInMapSlice items k v) =
      some (setValueInMapSlice entries k v') := by
  rw [normalEntries_eq_some_iff] at h ⊢
  exact forall₂_setValue (fun item e hitem => by rw [hitem.1]) ⟨rfl, hv⟩ h

theorem normalItems_removeKey (hk : isName k = true)
    (h : normalItems F.numberText items = some entries) :
    normalItems F.numberText (removeKeyFromMapSlice items (.str k)) =
      some (removeKeyFromMapSlice entries k) := by
  rw [normalItems_eq_some_iff] at h ⊢
  unfold removeKeyFromMapSlice
  induction h with
  | nil => exact .nil
  | @cons item e _ _ hitem hrest ih =>
    have hkey : item.1 = .str k ↔ e.1 = k := by
      rw [← keyText_eq_some_iff hk, hitem.1, some.injEq]
    by_cases hname : e.1 = k
    · rw [eraseP_cons_of_pos (by simpa using hkey.mpr hname),
        eraseP_cons_of_pos (by simpa using hname)]
      exact hrest
    · rw [eraseP_cons_of_neg (by simpa using hkey.not.mpr hname),
        eraseP_cons_of_neg (by simpa using hname)]
      exact .cons hitem ih

theorem child_normal (hk : isName k = true) (h : normal F.numberText (.mapSlice items) = some n) :
    ((Node.mapSlice items).child (.key k)).map (normal F.numberText) =
      (n.child (.key k)).map some := by
  obtain ⟨entries, hentries, hobject⟩ := bind_eq_some_iff.mp h
  rw [child_object hobject, Node.child]
  rw [normalItems_eq_some_iff] at hentries
  clear h hobject
  induction hentries with
  | nil => rfl
  | @cons item e _ _ hitem hrest ih =>
    have hkey : item.1.text = k ↔ e.1 = k := by
      rw [text_eq_iff hk, ← keyText_eq_some_iff hk, hitem.1, some.injEq]
    obtain ⟨name, n⟩ := e
    by_cases hname : name = k
    · simp [hkey.mpr hname, hname, hitem.2]
    · simpa [hkey, lookup_cons_pair, hname, Ne.symm hname] using ih

def Edited (n n' : Node) (k : String) (v : Option Node) : Prop :=
  isObject n' = true ∧ ∀ j, n'.child (.key j) = if j = k then v else n.child (.key j)

theorem edited_object {entries' : List (String × Node)} (h : object entries = some n)
    (hnodup : (entries'.map Prod.fst).Nodup) {v : Option Node}
    (hlookup : ∀ j, entries'.lookup j = if j = k then v else entries.lookup j) :
    ∃ n', object entries' = some n' ∧ Edited n n' k v := by
  have hobject : object entries' = some (ofEntries (sortEntries entries')) :=
    object_eq_some_iff.mpr ⟨hnodup, rfl⟩
  refine ⟨_, hobject, rfl, fun j => ?_⟩
  rw [child_object hobject, child_object h, hlookup]

theorem normal_setValue (hk : isName k = true)
    (h : normal F.numberText (.mapSlice items) = some n) (hv : normal F.numberText v = some v') :
    ∃ n', normal F.numberText (.mapSlice (setValueInMapSlice items (.str k) v)) = some n' ∧
      Edited n n' k (some v') := by
  obtain ⟨entries, hentries, hobject⟩ := bind_eq_some_iff.mp h
  rw [normal, normalItems_setValue hk hentries hv, bind_some]
  exact edited_object hobject (nodup_setValue (object_eq_some_iff.mp hobject).1)
    fun j => lookup_setValue j

theorem normal_setValue_goMap {items : List (String × Node)}
    (h : normal F.numberText (.goMap items) = some n) (hv : normal F.numberText v = some v') :
    ∃ n', normal F.numberText (.goMap (setValueInMapSlice items k v)) = some n' ∧
      Edited n n' k (some v') := by
  obtain ⟨entries, hentries, hobject⟩ := bind_eq_some_iff.mp h
  rw [normal, normalEntries_setValue hentries hv, bind_some]
  exact edited_object hobject (nodup_setValue (object_eq_some_iff.mp hobject).1)
    fun j => lookup_setValue j

theorem normal_removeKey (hk : isName k = true)
    (h : normal F.numberText (.mapSlice items) = some n) :
    ∃ n', normal F.numberText (.mapSlice (removeKeyFromMapSlice items (.str k))) = some n' ∧
      Edited n n' k none := by
  obtain ⟨entries, hentries, hobject⟩ := bind_eq_some_iff.mp h
  rw [normal, normalItems_removeKey hk hentries, bind_some]
  have hnodup := (object_eq_some_iff.mp hobject).1
  exact edited_object hobject (nodup_removeKey hnodup) fun j => lookup_removeKey hnodup j

end Json

section Root

variable {d : Document} {k : String}

theorem get_root : d.get [.key k] = (Node.mapSlice d.root).child (.key k) := rfl

theorem set_root (v : Node) :
    d.set [.key k] v = (⟨setValueInMapSlice d.root (.str k) v⟩, true) := by
  simp [Document.set, Document.setInternal, Document.has, Document.get, Document.place, setRoot]

theorem exists_setValue_eq (hk : isName k = true) (items : List (Scalar × Node)) :
    ∃ before after, (∀ item ∈ before, item.1.text ≠ k) ∧
      removeKeyFromMapSlice items (.str k) = before ++ after ∧
      ∀ v, setValueInMapSlice items (.str k) v = before ++ (.str k, v) :: after := by
  induction items with
  | nil => exact ⟨[], [], by simp, rfl, fun v => rfl⟩
  | cons item rest ih =>
    by_cases hkey : item.1 = .str k
    · refine ⟨[], rest, by simp, ?_, fun v => ?_⟩
      · simp [removeKeyFromMapSlice, hkey]
      · simp [setValueInMapSlice, hkey]
    · obtain ⟨before, after, htext, hremove, hset⟩ := ih
      refine ⟨item :: before, after, ?_, ?_, fun v => ?_⟩
      · exact forall_mem_cons.mpr ⟨(text_eq_iff hk).not.mpr hkey, htext⟩
      · rw [removeKeyFromMapSlice, eraseP_cons_of_neg (by simpa using hkey)]
        exact congrArg (item :: ·) hremove
      · simp [setValueInMapSlice, hkey, hset v]

theorem walk_root (hk : isName k = true) (hn : Plain n) {fuel : ℕ} (hfuel : depth n ≤ fuel) :
    walk cleanupFn fuel [.key k] ⟨setValueInMapSlice d.root (.str k) n⟩ =
      match clean n with
      | some n' => ⟨setValueInMapSlice d.root (.str k) n'⟩
      | none => ⟨removeKeyFromMapSlice d.root (.str k)⟩ := by
  obtain ⟨before, after, htext, hremove, hset⟩ := exists_setValue_eq hk d.root
  have hwalk := cleans_of_plain hn hfuel _ (Context.root k before after htext)
  rw [Context.remove_root] at hwalk
  simp only [hset, hremove]
  exact hwalk

theorem walk_root_none {walkFn : Path → Node → Document → Document} {fuel : ℕ}
    (h : d.get [.key k] = none) : walk walkFn fuel [.key k] d = d := by
  cases fuel with
  | zero => rfl
  | succ fuel => simp [walk, h]

end Root

end KubeOne.Config
