import KubeOne.Collections.Assoc
import Mathlib.Data.List.Dedup
import Mathlib.Data.List.Induction

/-! The map that keeps the order of insertion: a slice of entries and an index into it. It behaves
as a list of keys and values in which a key is written in its place. -/

namespace KubeOne.Maputils

open Collections List

/-- The index is a Go map. -/
structure OrderEntryMap (K V : Type) where
  entries : List (K × V) := []
  index : K → Option ℕ := fun _ => none

namespace OrderEntryMap

variable {K V : Type} {oem : OrderEntryMap K V} {l : List (K × V)} {key : K}

def iter (oem : OrderEntryMap K V) : List (K × V) := oem.entries

/-- Nothing for an index that is out of range, at which Go panics. -/
def get (oem : OrderEntryMap K V) (key : K) : Option (Option V) :=
  match oem.index key with
  | some i => oem.entries[i]?.map fun e => some e.2
  | none => some none

/-- The slice is the list, and the index leads to the place of each key in it. -/
structure Represents (oem : OrderEntryMap K V) (l : List (K × V)) : Prop where
  entries : oem.entries = l
  nodup : (l.map Prod.fst).Nodup
  index : ∀ key i, oem.index key = some i ↔ (l.map Prod.fst)[i]? = some key

theorem Represents.index_eq_none (h : oem.Represents l) :
    oem.index key = none ↔ key ∉ l.map Prod.fst := by
  rw [Option.eq_none_iff_forall_ne_some, mem_iff_getElem?, not_exists]
  exact forall_congr' fun i => not_congr (h.index key i)

theorem Represents.exists_entry (h : oem.Represents l) {i : ℕ} (hi : oem.index key = some i) :
    ∃ e, l[i]? = some e ∧ e.1 = key := by
  simpa using (h.index key i).mp hi

variable [DecidableEq K]

def set (oem : OrderEntryMap K V) (key : K) (value : V) : Option (OrderEntryMap K V) :=
  match oem.index key with
  | some i =>
    oem.entries[i]?.map fun e => { oem with entries := oem.entries.set i (e.1, value) }
  | none => some
    { entries := oem.entries ++ [(key, value)]
      index := Function.update oem.index key (some oem.entries.length) }

def newOrderEntryMap (kv : List (K × V)) : Option (OrderEntryMap K V) :=
  kv.foldlM (fun oem e => oem.set e.1 e.2) {}

theorem Represents.set (h : oem.Represents l) (key : K) (value : V) :
    ∃ oem', oem.set key value = some oem' ∧ oem'.Represents (put l key value) := by
  unfold OrderEntryMap.set
  cases hindex : oem.index key with
  | none =>
    have hnew := h.index_eq_none.mp hindex
    refine ⟨_, rfl, by rw [h.entries, put_of_notMem hnew], nodup_keys_put h.nodup, fun key' i => ?_⟩
    have hno : ∀ i : ℕ, (l.map Prod.fst)[i]? ≠ some key := fun i hi =>
      hnew (mem_of_getElem? hi)
    have hold := h.index key' i
    show Function.update oem.index key (some oem.entries.length) key' = some i ↔ _
    rw [put_of_notMem hnew, map_append, Function.update_apply, h.entries]
    grind
  | some i =>
    have hi := (h.index key i).mp hindex
    obtain ⟨e, he, hfst⟩ := h.exists_entry hindex
    refine ⟨{ oem with entries := put l key value }, ?_, rfl, nodup_keys_put h.nodup, ?_⟩
    · simp [h.entries, he, hfst, put_eq_set h.nodup hi]
    · rw [keys_put, if_pos (mem_of_getElem? hi)]
      exact h.index

theorem Represents.get (h : oem.Represents l) (key : K) : oem.get key = some (l.lookup key) := by
  unfold OrderEntryMap.get
  cases hindex : oem.index key with
  | none => rw [lookup_eq_none_iff_keys.mpr (h.index_eq_none.mp hindex)]
  | some i =>
    obtain ⟨e, he, hfst⟩ := h.exists_entry hindex
    have hlookup : l.lookup key = some e.2 :=
      (lookup_eq_some_iff_mem h.nodup).mpr (hfst ▸ mem_of_getElem? he)
    simp [h.entries, he, hlookup]

theorem represents_foldlM (kv : List (K × V)) (h : oem.Represents l) :
    ∃ oem', kv.foldlM (fun oem e => oem.set e.1 e.2) oem = some oem' ∧
      oem'.Represents (kv.foldl (fun l e => put l e.1 e.2) l) := by
  induction kv generalizing oem l with
  | nil => exact ⟨oem, rfl, h⟩
  | cons e kv ih =>
    obtain ⟨next, hset, hnext⟩ := h.set e.1 e.2
    rw [foldlM_cons, hset]
    exact ih hnext

theorem keys_foldl_put_nil (kv : List (K × V)) :
    (kv.foldl (fun l e => put l e.1 e.2) []).map Prod.fst =
      (kv.map Prod.fst).reverse.dedup.reverse := by
  induction kv using reverseRec with
  | nil => rfl
  | append_singleton kv e ih =>
    rw [foldl_append, foldl_cons, foldl_nil, keys_put, ih]
    by_cases h : e.1 ∈ kv.map Prod.fst
    · rw [if_pos (by simpa using h)]
      simp [dedup_cons_of_mem, h]
    · rw [if_neg (by simpa using h)]
      simp [dedup_cons_of_notMem, h]

/-- After any calls of `Set` the keys are iterated in the order of their first call, each once and
with the value of its last call. `Get` agrees, and the index leads to the entry of its key. -/
theorem insertion_order_kept (kv : List (K × V)) :
    ∃ oem, newOrderEntryMap kv = some oem ∧
      oem.iter.map Prod.fst = (kv.map Prod.fst).reverse.dedup.reverse ∧
      (∀ key, oem.iter.lookup key = kv.reverse.lookup key) ∧
      (∀ key, oem.get key = some (oem.iter.lookup key)) ∧
      ∀ key i, oem.index key = some i ↔ (oem.iter.map Prod.fst)[i]? = some key := by
  have hempty : ({} : OrderEntryMap K V).Represents [] := ⟨rfl, nodup_nil, by simp⟩
  obtain ⟨oem, hnew, hrep⟩ := represents_foldlM kv hempty
  refine ⟨oem, hnew, ?_⟩
  rw [iter, hrep.entries, keys_foldl_put_nil]
  refine ⟨rfl, fun key => ?_, hrep.get, ?_⟩
  · rw [lookup_foldl_put]
    simp
  · rw [← keys_foldl_put_nil]
    exact hrep.index

end OrderEntryMap

end KubeOne.Maputils
