import Mathlib.Data.List.Nodup

/-! Updates with optimistic locking. An attempt reads an object, changes it and writes it back; a
refusal because of a conflict is answered by a further attempt. The attempt that decides is the
first one without a conflict, or the last one. -/

namespace KubeOne.Process

open List

/-- How the server answers a request. A lost request took effect, although its sender is
told of an error. -/
inductive Reply
  | ok
  | conflict
  | failed
  | lost

structure Attempt where
  get : Reply := .ok
  update : Reply := .ok

/-- How an attempt ends. A rejection names the request that was rejected; the change itself
may crash. -/
inductive Ending
  | updated
  | rejectedGet (conflict : Bool)
  | rejectedUpdate (conflict : Bool)
  | crashed
  deriving DecidableEq

def Ending.isConflict : Ending → Bool
  | .rejectedGet conflict => conflict
  | .rejectedUpdate conflict => conflict
  | _ => false

section Update

variable {V : Type*} (modify : V → Option V)

/-- Reads the object, changes it and writes it back. An object that is not there is not
found; the change has no result where it crashes. -/
def Attempt.run (a : Attempt) (v : Option V) : Option V × Ending :=
  match a.get, v with
  | .ok, none => (v, .rejectedGet false)
  | .ok, some x =>
    match modify x with
    | none => (v, .crashed)
    | some y =>
      match a.update with
      | .ok => (some y, .updated)
      | .conflict => (v, .rejectedUpdate true)
      | .failed => (v, .rejectedUpdate false)
      | .lost => (some y, .rejectedUpdate false)
  | .conflict, _ => (v, .rejectedGet true)
  | .failed, _ => (v, .rejectedGet false)
  | .lost, _ => (v, .rejectedGet false)

/-- The first attempt, and after a conflict up to `again` further ones. -/
def retryOnConflict : ℕ → (ℕ → Attempt) → Option V → Option V × Ending
  | 0, answers, v => (answers 0).run modify v
  | again + 1, answers, v =>
    let r := (answers 0).run modify v
    if r.2.isConflict then retryOnConflict again (fun n => answers (n + 1)) r.1 else r

/-- The attempt whose answers decide: the first one without a conflict, or the last one. -/
def deciding : ℕ → (ℕ → Attempt) → Option V → Attempt
  | 0, answers, _ => answers 0
  | again + 1, answers, v =>
    if ((answers 0).run modify v).2.isConflict then deciding again (fun n => answers (n + 1)) v
    else answers 0

variable {modify}

theorem Attempt.run_conflict {a : Attempt} {v : Option V}
    (h : (a.run modify v).2.isConflict = true) : (a.run modify v).1 = v := by
  unfold Attempt.run at h ⊢
  split <;> try rfl
  split <;> try rfl
  split <;> simp_all [Ending.isConflict]

theorem retryOnConflict_eq (again : ℕ) (answers : ℕ → Attempt) (v : Option V) :
    retryOnConflict modify again answers v = (deciding modify again answers v).run modify v := by
  induction again generalizing answers with
  | zero => rfl
  | succ again ih =>
    simp only [retryOnConflict, deciding]
    split_ifs with hconflict
    · rw [Attempt.run_conflict hconflict, ih]
    · rfl

end Update

section Each

variable {I K V : Type*} (key : I → K) (modify : I → V → Option V) (again : ℕ)
  (answers : I → ℕ → Attempt)

def update (s : K → Option V) (i : I) : Option V × Ending :=
  retryOnConflict (modify i) again (answers i) (s (key i))

/-- Updates the objects one after the other. The second component names the object at which
it stopped, and how. -/
def updateEach [DecidableEq K] : List I → (K → Option V) → (K → Option V) × Option (I × Ending)
  | [], s => (s, none)
  | i :: items, s =>
    let r := update key modify again answers s i
    if r.2 = .updated then updateEach items (Function.update s (key i) r.1)
    else (Function.update s (key i) r.1, some (i, r.2))

def decidingFor (s : K → Option V) (i : I) : Attempt :=
  deciding (modify i) again (answers i) (s (key i))

/-- The object is there, and both requests of the deciding attempt are accepted. -/
def Accepted (s : K → Option V) (i : I) : Prop :=
  (∃ x y, s (key i) = some x ∧ modify i x = some y) ∧
    (decidingFor key modify again answers s i).get = .ok ∧
      (decidingFor key modify again answers s i).update = .ok

/-- The change reaches the server, whatever the sender is told. -/
def Reached (s : K → Option V) (i : I) : Prop :=
  (∃ x y, s (key i) = some x ∧ modify i x = some y) ∧
    (decidingFor key modify again answers s i).get = .ok ∧
      ((decidingFor key modify again answers s i).update = .ok ∨
        (decidingFor key modify again answers s i).update = .lost)

def Unread (s : K → Option V) (i : I) : Prop :=
  (decidingFor key modify again answers s i).get ≠ .ok ∨ s (key i) = none

def Crashes (s : K → Option V) (i : I) : Prop :=
  (∃ x, s (key i) = some x ∧ modify i x = none) ∧
    (decidingFor key modify again answers s i).get = .ok

/-- All updates before that of the object are accepted. -/
def Turn (s : K → Option V) : List I → I → Prop
  | [], _ => False
  | j :: items, i => i = j ∨ Accepted key modify again answers s j ∧ Turn s items i

variable {key modify again answers} {s t : K → Option V} {items : List I} {i : I}

theorem update_eq : update key modify again answers s i =
    (decidingFor key modify again answers s i).run (modify i) (s (key i)) :=
  retryOnConflict_eq _ _ _

theorem update_spec :
    ((update key modify again answers s i).2 = .updated ↔ Accepted key modify again answers s i) ∧
    ((update key modify again answers s i).2 = .crashed ↔ Crashes key modify again answers s i) ∧
    ((∃ conflict, (update key modify again answers s i).2 = .rejectedGet conflict) ↔
      Unread key modify again answers s i) ∧
    ((Reached key modify again answers s i ∧
        ∃ x y, modify i x = some y ∧ (update key modify again answers s i).1 = some y) ∨
      (¬ Reached key modify again answers s i ∧
        (update key modify again answers s i).1 = s (key i))) := by
  rw [update_eq, Accepted, Crashes, Unread, Reached]
  generalize decidingFor key modify again answers s i = a
  rcases a with ⟨get, upd⟩
  rcases hv : s (key i) with _ | x
  · cases get <;> simp [Attempt.run]
  · rcases hm : modify i x with _ | y <;> cases get <;> cases upd <;> simp [Attempt.run, hm]
    all_goals exact ⟨x, hm⟩

/-! An update depends on its own object only. -/

section Congr

variable (h : s (key i) = t (key i))

include h

theorem update_congr :
    update key modify again answers s i = update key modify again answers t i := by
  rw [update, update, h]

theorem accepted_congr :
    Accepted key modify again answers s i ↔ Accepted key modify again answers t i := by
  rw [Accepted, Accepted, decidingFor, decidingFor, h]

theorem reached_congr :
    Reached key modify again answers s i ↔ Reached key modify again answers t i := by
  rw [Reached, Reached, decidingFor, decidingFor, h]

end Congr

theorem Turn.mem (h : Turn key modify again answers s items i) : i ∈ items := by
  induction items with
  | nil => exact h.elim
  | cons j items ih =>
    rcases h with rfl | ⟨-, h⟩
    · exact mem_cons_self
    · exact mem_cons_of_mem _ (ih h)

theorem turn_congr (h : ∀ j ∈ items, s (key j) = t (key j)) :
    Turn key modify again answers s items i ↔ Turn key modify again answers t items i := by
  induction items with
  | nil => rfl
  | cons j items ih =>
    rw [forall_mem_cons] at h
    rw [Turn, Turn, accepted_congr h.1, ih h.2]

variable [DecidableEq K]

theorem update_of_nodup {j : I} {v : Option V} (hnd : ((j :: items).map key).Nodup) :
    ∀ i ∈ items, Function.update s (key j) v (key i) = s (key i) := by
  intro i hi
  rw [map_cons, nodup_cons] at hnd
  refine Function.update_of_ne (fun heq => hnd.1 ?_) _ _
  rw [← heq]
  exact mem_map_of_mem hi

theorem updateEach_stopped_iff (modify : I → V → Option V) (again : ℕ)
    (answers : I → ℕ → Attempt) (s : K → Option V)
    (hnd : (items.map key).Nodup) {E : Ending → Prop}
    (hE : ¬ E .updated) :
    (∃ i e, (updateEach key modify again answers items s).2 = some (i, e) ∧ E e) ↔
      ∃ i, Turn key modify again answers s items i ∧ E (update key modify again answers s i).2 := by
  induction items generalizing s with
  | nil => simp [updateEach, Turn]
  | cons j items ih =>
    have hsame := update_of_nodup (s := s) (v := (update key modify again answers s j).1) hnd
    have hrest : (items.map key).Nodup := (nodup_cons.mp hnd).2
    unfold updateEach
    dsimp only
    split_ifs with hok
    · rw [ih _ hrest]
      refine exists_congr fun i => ?_
      rw [turn_congr hsame, Turn]
      constructor
      · rintro ⟨hturn, he⟩
        rw [update_congr (hsame i hturn.mem)] at he
        exact ⟨.inr ⟨update_spec.1.mp hok, hturn⟩, he⟩
      · rintro ⟨rfl | ⟨-, hturn⟩, he⟩
        · rw [hok] at he
          exact absurd he hE
        · rw [update_congr (hsame i hturn.mem)]
          exact ⟨hturn, he⟩
    · have hno : ¬ Accepted key modify again answers s j := fun h => hok (update_spec.1.mpr h)
      simp [Turn, hno]

theorem updateEach_of_notMem {k : K} (hk : k ∉ items.map key) :
    (updateEach key modify again answers items s).1 k = s k := by
  induction items generalizing s with
  | nil => rfl
  | cons j items ih =>
    rw [map_cons, mem_cons, not_or] at hk
    unfold updateEach
    dsimp only
    split_ifs with hok
    · rw [ih hk.2]
      exact Function.update_of_ne hk.1 _ _
    · exact Function.update_of_ne hk.1 _ _

theorem updateEach_value (modify : I → V → Option V) (again : ℕ) (answers : I → ℕ → Attempt)
    (s : K → Option V) (hnd : (items.map key).Nodup) (hi : i ∈ items) :
    ((Turn key modify again answers s items i ∧ Reached key modify again answers s i) ∧
        ∃ x y, modify i x = some y ∧
          (updateEach key modify again answers items s).1 (key i) = some y) ∨
      (¬ (Turn key modify again answers s items i ∧ Reached key modify again answers s i) ∧
        (updateEach key modify again answers items s).1 (key i) = s (key i)) := by
  induction items generalizing s with
  | nil => simp at hi
  | cons j items ih =>
    have hsame := update_of_nodup (s := s) (v := (update key modify again answers s j).1) hnd
    obtain ⟨hj, hrest⟩ := nodup_cons.mp hnd
    have hself : Function.update s (key j) (update key modify again answers s j).1 (key j) =
        (update key modify again answers s j).1 := Function.update_self _ _ _
    rw [Turn]
    rcases mem_cons.mp hi with rfl | hmem
    · -- whether or not the list goes on, it does not come back to its first object
      have hfinal : (updateEach key modify again answers (i :: items) s).1 (key i) =
          (update key modify again answers s i).1 := by
        unfold updateEach
        dsimp only
        split_ifs with hok
        · rw [updateEach_of_notMem hj, hself]
        · exact hself
      rw [hfinal]
      simpa using update_spec.2.2.2
    · have hne : i ≠ j := by
        rintro rfl
        exact hj (mem_map_of_mem hmem)
      unfold updateEach
      dsimp only
      split_ifs with hok
      · have hacc := update_spec.1.mp hok
        have hvalue := ih (Function.update s (key j) (update key modify again answers s j).1)
          hrest hmem
        rw [turn_congr hsame, reached_congr (hsame i hmem), hsame i hmem] at hvalue
        simpa [hne, hacc] using hvalue
      · have hno : ¬ Accepted key modify again answers s j :=
          fun h => hok (update_spec.1.mpr h)
        exact .inr ⟨by simp [hne, hno], hsame i hmem⟩

theorem updateEach_holds_iff (again : ℕ) (answers : I → ℕ → Attempt) (s : K → Option V)
    (hnd : (items.map key).Nodup) {Holds : I → Option V → Prop}
    (hmodify : ∀ i x y, modify i x = some y → Holds i (some y)) :
    (∀ i ∈ items, Holds i ((updateEach key modify again answers items s).1 (key i))) ↔
      ∀ i ∈ items, Holds i (s (key i)) ∨
        Turn key modify again answers s items i ∧ Reached key modify again answers s i := by
  refine forall₂_congr fun i hi => ?_
  rcases updateEach_value modify again answers s hnd hi with
    ⟨hreached, x, y, hy, hfinal⟩ | ⟨hno, hfinal⟩
  · rw [hfinal]
    exact iff_of_true (hmodify i x y hy) (.inr hreached)
  · rw [hfinal]
    simp [hno]

end Each

end KubeOne.Process
