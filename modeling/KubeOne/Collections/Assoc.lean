import Mathlib.Data.List.Nodup

/-! Maps as lists of keys and values, in the order in which the keys came. A key is written or,
where the first value is to stay, offered. -/

namespace KubeOne.Collections

open List Option

variable {κ α β : Type*} [DecidableEq κ]

/-- Write a value. A key that is there keeps its place. -/
def put : List (κ × α) → κ → α → List (κ × α)
  | [], k, v => [(k, v)]
  | (k', v') :: m, k, v => if k' = k then (k, v) :: m else (k', v') :: put m k v

/-- Write a value for a key that is not there. -/
def offer (m : List (κ × α)) (k : κ) (v : α) : List (κ × α) :=
  if k ∈ m.map Prod.fst then m else m ++ [(k, v)]

variable {m : List (κ × α)} {k : κ} {v : α}

theorem forall₂_mem_left {R : α → β → Prop} {as : List α} {bs : List β}
    (h : List.Forall₂ R as bs) {a : α} (ha : a ∈ as) : ∃ b ∈ bs, R a b := by
  induction h with
  | nil => cases ha
  | cons hhead htail ih =>
    rcases mem_cons.mp ha with rfl | ha
    · exact ⟨_, mem_cons_self, hhead⟩
    · obtain ⟨b, hb, hR⟩ := ih ha
      exact ⟨b, mem_cons_of_mem _ hb, hR⟩

theorem lookup_cons_pair (k' : κ) (p : κ × α) (m : List (κ × α)) :
    (p :: m).lookup k' = if k' = p.1 then some p.2 else m.lookup k' := by
  obtain ⟨k, v⟩ := p
  rw [lookup_cons]
  by_cases h : k' = k
  · simp [h]
  · have hne : (k' == k) = false := by simpa using h
    simp [h, hne]

theorem lookup_map_pair (keys : List κ) (f : κ → α) (k : κ) :
    (keys.map fun k => (k, f k)).lookup k = if k ∈ keys then some (f k) else none := by
  induction keys with
  | nil => rfl
  | cons k' keys ih =>
    rw [map_cons, lookup_cons_pair, ih]
    by_cases h : k = k' <;> simp [h]

theorem lookup_eq_none_iff_keys : m.lookup k = none ↔ k ∉ m.map Prod.fst := by
  simp only [lookup_eq_none_iff, bne_iff_ne, List.mem_map, not_exists, not_and, ne_comm, Ne]

theorem mem_of_lookup_eq_some (h : m.lookup k = some v) : (k, v) ∈ m := by
  obtain ⟨before, after, rfl, -⟩ := lookup_eq_some_iff.mp h
  simp

theorem lookup_eq_some_iff_mem (hnodup : (m.map Prod.fst).Nodup) :
    m.lookup k = some v ↔ (k, v) ∈ m := by
  constructor
  · exact mem_of_lookup_eq_some
  · intro hmem
    obtain ⟨v', hv'⟩ : ∃ v', m.lookup k = some v' := by
      rw [← ne_none_iff_exists', Ne, lookup_eq_none_iff_keys, not_not]
      exact mem_map.mpr ⟨(k, v), hmem, rfl⟩
    have heq := inj_on_of_nodup_map hnodup (mem_of_lookup_eq_some hv') hmem rfl
    rw [hv', (Prod.mk.inj heq).2]

theorem lookup_of_perm {m' : List (κ × α)} (h : m'.Perm m) (hnodup : (m.map Prod.fst).Nodup)
    (k : κ) : m'.lookup k = m.lookup k := by
  refine ext fun v => ?_
  rw [lookup_eq_some_iff_mem hnodup,
    lookup_eq_some_iff_mem ((h.map Prod.fst).nodup_iff.2 hnodup), h.mem_iff]

theorem lookup_put (m : List (κ × α)) (k : κ) (v : α) (k' : κ) :
    (put m k v).lookup k' = if k' = k then some v else m.lookup k' := by
  induction m with
  | nil => simp [put, lookup_cons_pair]
  | cons p m ih =>
    obtain ⟨k₀, v₀⟩ := p
    rw [put]
    split
    · next h =>
      subst h
      rw [lookup_cons_pair, lookup_cons_pair]
      split <;> rfl
    · next h =>
      rw [lookup_cons_pair, ih, lookup_cons_pair]
      by_cases hk : k' = k₀
      · subst hk
        simp [h]
      · simp [hk]

theorem keys_put (m : List (κ × α)) (k : κ) (v : α) :
    (put m k v).map Prod.fst =
      if k ∈ m.map Prod.fst then m.map Prod.fst else m.map Prod.fst ++ [k] := by
  induction m with
  | nil => rfl
  | cons p m ih =>
    obtain ⟨k₀, v₀⟩ := p
    rw [put]
    by_cases h : k₀ = k
    · simp [h]
    · have hne : k ≠ k₀ := Ne.symm h
      rw [if_neg h, map_cons, ih]
      by_cases hk : k ∈ m.map Prod.fst
      · simp [hk]
      · rw [if_neg hk, if_neg (by simpa [hne] using hk)]
        rfl

theorem nodup_keys_put (h : (m.map Prod.fst).Nodup) : ((put m k v).map Prod.fst).Nodup := by
  rw [keys_put]
  split
  · exact h
  · next hk => exact List.Nodup.append h (nodup_singleton k) (disjoint_singleton.mpr hk)

theorem nodup_keys_foldl_put (writes : List (κ × α)) (h : (m.map Prod.fst).Nodup) :
    ((writes.foldl (fun m w => put m w.1 w.2) m).map Prod.fst).Nodup := by
  induction writes generalizing m with
  | nil => exact h
  | cons w writes ih => exact ih (nodup_keys_put h)

theorem put_of_notMem (hk : k ∉ m.map Prod.fst) : put m k v = m ++ [(k, v)] := by
  induction m with
  | nil => rfl
  | cons p m ih =>
    rw [map_cons, mem_cons, not_or] at hk
    rw [put, if_neg (Ne.symm hk.1), ih hk.2, cons_append]

theorem put_eq_set {i : ℕ} (hnodup : (m.map Prod.fst).Nodup) (hi : (m.map Prod.fst)[i]? = some k) :
    put m k v = m.set i (k, v) := by
  induction m generalizing i with
  | nil => simp at hi
  | cons p m ih =>
    rw [map_cons, nodup_cons] at hnodup
    cases i with
    | zero =>
      obtain rfl : p.1 = k := by simpa using hi
      simp [put]
    | succ i =>
      have hrest : (m.map Prod.fst)[i]? = some k := by simpa using hi
      have hne : p.1 ≠ k := fun h => hnodup.1 (h ▸ mem_of_getElem? hrest)
      rw [put, if_neg hne, ih hnodup.2 hrest, set_cons_succ]

theorem foldl_put_of_nodup {writes : List (κ × α)} (hnodup : (writes.map Prod.fst).Nodup)
    (hnew : ∀ w ∈ writes, w.1 ∉ m.map Prod.fst) :
    writes.foldl (fun m w => put m w.1 w.2) m = m ++ writes := by
  induction writes generalizing m with
  | nil => simp
  | cons w writes ih =>
    rw [map_cons, nodup_cons] at hnodup
    rw [forall_mem_cons] at hnew
    rw [foldl_cons, put_of_notMem hnew.1, ih hnodup.2 ?_, append_assoc, singleton_append]
    intro w' hw'
    rw [map_append, mem_append, map_singleton, mem_singleton, not_or]
    exact ⟨hnew.2 w' hw', fun heq => hnodup.1 (heq ▸ mem_map_of_mem hw')⟩

/-- The texts of the entries are read in any order. -/
theorem foldl_put_read {render : κ × α → β} {read : β → Option (κ × α)} {texts : List β}
    (htexts : texts.Perm (m.map render)) (hread : ∀ e ∈ m, read (render e) = some e)
    (hnodup : (m.map Prod.fst).Nodup) :
    ((texts.filterMap read).foldl (fun m w => put m w.1 w.2) []).Perm m := by
  have hperm : (texts.filterMap read).Perm m := by
    refine (htexts.filterMap read).trans (.of_eq ?_)
    rw [filterMap_map]
    exact (filterMap_congr hread).trans filterMap_some
  rw [foldl_put_of_nodup ((hperm.map Prod.fst).nodup_iff.2 hnodup) (by simp), nil_append]
  exact hperm

theorem keys_foldl_put (v : α) {keys : List κ} (hnodup : keys.Nodup)
    (hnew : ∀ k ∈ keys, k ∉ m.map Prod.fst) :
    (keys.foldl (fun m k => put m k v) m).map Prod.fst = m.map Prod.fst ++ keys := by
  have hwrites := @foldl_put_of_nodup _ _ _ m (keys.map (·, v))
    (by simpa [Function.comp_def] using hnodup) (by simpa using hnew)
  rw [foldl_map] at hwrites
  simp [hwrites, Function.comp_def]

theorem lookup_offer (m : List (κ × α)) (k : κ) (v : α) (k' : κ) :
    (offer m k v).lookup k' = (m.lookup k').or (if k' = k then some v else none) := by
  unfold offer
  split
  · next h =>
    by_cases hk : k' = k
    · subst hk
      have hsome : m.lookup k' ≠ none := fun hnone => lookup_eq_none_iff_keys.mp hnone h
      obtain ⟨v', hv'⟩ := ne_none_iff_exists'.mp hsome
      simp [hv']
    · simp [hk]
  · rw [lookup_append, lookup_cons_pair]
    rfl

theorem lookup_foldl_put (writes m : List (κ × α)) (k : κ) :
    (writes.foldl (fun m w => put m w.1 w.2) m).lookup k =
      (writes.reverse.lookup k).or (m.lookup k) := by
  induction writes generalizing m with
  | nil => rfl
  | cons w writes ih =>
    rw [foldl_cons, ih, lookup_put, reverse_cons, lookup_append, lookup_cons_pair, Option.or_assoc]
    congr 1
    split <;> simp

theorem lookup_foldl_offer (offers m : List (κ × α)) (k : κ) :
    (offers.foldl (fun m o => offer m o.1 o.2) m).lookup k = (m.lookup k).or (offers.lookup k) := by
  induction offers generalizing m with
  | nil => simp
  | cons o offers ih =>
    rw [foldl_cons, ih, lookup_offer, lookup_cons_pair, Option.or_assoc]
    congr 1
    split <;> simp

variable {f : β → List (κ × α)}

theorem lookup_flatMap (l : List β) (k : κ) :
    (l.flatMap f).lookup k = l.findSome? fun x => (f x).lookup k := by
  induction l with
  | nil => rfl
  | cons x l ih =>
    rw [flatMap_cons, lookup_append, ih, findSome?_cons]
    cases (f x).lookup k <;> rfl

theorem lookup_flatMap_eq_some_iff {l : List β} : (l.flatMap f).lookup k = some v ↔
      ∃ before x after, l = before ++ x :: after ∧ (∀ y ∈ before, (f y).lookup k = none) ∧
        (f x).lookup k = some v := by
  simp only [lookup_flatMap, findSome?_eq_some_iff, and_comm]

theorem lookup_flatMap_ne_none {l : List β} {x : β} (hx : x ∈ l)
    (h : (f x).lookup k = some v) : (l.flatMap f).lookup k ≠ none := by
  rw [lookup_flatMap, Ne, findSome?_eq_none_iff]
  intro hnone
  cases h.symm.trans (hnone x hx)

end KubeOne.Collections
