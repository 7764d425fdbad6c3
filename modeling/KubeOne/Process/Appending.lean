import KubeOne.Process.Stage
import Mathlib.Data.List.Forall2

/-! Stages that only append to a list. They append the same elements and end the same way whatever
the list is. A retried stage appends once exactly when no attempt fails after it has appended
something. -/

namespace KubeOne.Process

open List

namespace Stage

variable {σ α ε : Type*}

/-- Runs the attempts in turn until one succeeds, the first one and up to `again` others. -/
def retry : ℕ → (ℕ → Stage σ ε) → Stage σ ε
  | 0, attempt => attempt 0
  | again + 1, attempt => fun s =>
    match attempt 0 s with
    | (s', .success) => (s', .success)
    | (s', _) => retry again (fun n => attempt (n + 1)) s'

theorem retry_eq {attempt : ℕ → Stage σ ε} {again : ℕ} {s t : σ}
    (h : ∀ n, attempt n s = (t, .success) ∨ ∃ r ≠ .success, attempt n s = (s, r))
    (hrec : ∃ n ≤ again, attempt n s = (t, .success)) : retry again attempt s = (t, .success) := by
  induction again generalizing attempt with
  | zero =>
    obtain ⟨n, hn, hok⟩ := hrec
    obtain rfl : n = 0 := by omega
    exact hok
  | succ again ih =>
    rcases h 0 with hok | ⟨r, hr, hfailed⟩
    · simp [retry, hok]
    · have hrest : ∃ n ≤ again, attempt (n + 1) s = (t, .success) := by
        obtain ⟨_ | n, hn, hok⟩ := hrec
        · rw [hfailed] at hok
          exact absurd (congrArg Prod.snd hok) hr
        · exact ⟨n, by omega, hok⟩
      have hnext := ih (fun n => h (n + 1)) hrest
      cases r with
      | success => exact absurd rfl hr
      | failed errors => simp [retry, hfailed, hnext]
      | stopped => simp [retry, hfailed, hnext]

/-- The stage appends the elements and ends with the status, whatever the list is. -/
def Appends (f : Stage (List α) ε) (p : List α × Status ε) : Prop := ∀ s, f s = (s ++ p.1, p.2)

def retried : ℕ → (ℕ → List α × Status ε) → List α × Status ε
  | 0, p => p 0
  | again + 1, p =>
    match p 0 with
    | (out, .success) => (out, .success)
    | (out, _) => (out ++ (retried again fun n => p (n + 1)).1,
        (retried again fun n => p (n + 1)).2)

variable {f g : Stage (List α) ε} {p q : List α × Status ε}

theorem appends_skip : Appends (skip : Stage (List α) ε) ([], .success) := fun s => by
  simp [skip]

theorem Appends.andThen (hf : f.Appends (p.1, .success)) (hg : g.Appends q) :
    (f.andThen g).Appends (p.1 ++ q.1, q.2) := fun s => by
  rw [andThen_of_success (hf s), hg, append_assoc]

theorem Appends.andThen_failed (hf : f.Appends p) (hp : p.2 ≠ .success) :
    (f.andThen g).Appends p := fun s => andThen_of_ne (hf s) hp

theorem Appends.run_nil (h : f.Appends p) : f [] = p := by
  simpa using h []

theorem Appends.self (h : f.Appends p) : f.Appends (f []) := by
  rw [h.run_nil]
  exact h

theorem sequence_append (fs gs : List (Stage σ ε)) (s : σ) :
    sequence (fs ++ gs) s = (sequence fs).andThen (sequence gs) s := by
  induction fs generalizing s with
  | nil =>
    have hnil : sequence ([] : List (Stage σ ε)) s = (s, .success) := rfl
    rw [nil_append, andThen_of_success hnil]
  | cons f fs ih =>
    rcases hf : f s with ⟨t, r⟩
    by_cases hr : r = .success
    · subst hr
      have hfirst : sequence (f :: fs) s = sequence fs t := andThen_of_success hf
      rw [cons_append, sequence, andThen_of_success hf, ih, andThen, andThen, hfirst]
    · have hfirst : sequence (f :: fs) s = (t, r) := andThen_of_ne hf hr
      rw [cons_append, sequence, andThen_of_ne hf hr, andThen_of_ne hfirst hr]

variable {fs : List (Stage (List α) ε)}

theorem appends_sequence {outs : List (List α)}
    (h : List.Forall₂ (fun f out => f.Appends (out, .success)) fs outs) :
    (sequence fs).Appends (outs.flatten, .success) := by
  induction h with
  | nil => exact appends_skip
  | cons hf _ ih => exact Appends.andThen (p := (_, .success)) hf ih

/-- What stages one after the other append together, up to the first that does not succeed. -/
def ran : List (List α × Status ε) → List α × Status ε
  | [] => ([], .success)
  | (out, .success) :: rest => (out ++ (ran rest).1, (ran rest).2)
  | p :: _ => p

variable {rest : List (List α × Status ε)}

theorem ran_of_success (h : p.2 = .success) :
    ran (p :: rest) = (p.1 ++ (ran rest).1, (ran rest).2) := by
  obtain ⟨out, r⟩ := p
  cases h
  rfl

theorem ran_of_ne (h : p.2 ≠ .success) : ran (p :: rest) = p := by
  obtain ⟨out, _ | errors | _⟩ := p
  · exact absurd rfl h
  · rfl
  · rfl

variable {ps : List (List α × Status ε)}

theorem Appends.sequence (h : List.Forall₂ Appends fs ps) : (sequence fs).Appends (ran ps) := by
  induction h with
  | nil => exact appends_skip
  | @cons f p fs ps hf _ ih =>
    by_cases hp : p.2 = .success
    · rw [ran_of_success hp]
      exact Appends.andThen (p := p) (by rw [← hp]; exact hf) ih
    · rw [ran_of_ne hp]
      exact hf.andThen_failed hp

theorem ran_success_iff : (ran ps).2 = .success ↔ ∀ q ∈ ps, q.2 = .success := by
  induction ps with
  | nil => simp [ran]
  | cons p ps ih =>
    by_cases hp : p.2 = .success
    · simp [ran_of_success hp, hp, ih]
    · simp [ran_of_ne hp, hp]

theorem mem_ran_iff {x : α} :
    x ∈ (ran ps).1 ↔ ∃ (k : ℕ) (q : List α × Status ε), ps[k]? = some q ∧ x ∈ q.1 ∧
      ∀ j < k, ∀ r : List α × Status ε, ps[j]? = some r → r.2 = .success := by
  induction ps with
  | nil => simp [ran]
  | cons p ps ih =>
    by_cases hp : p.2 = .success
    · rw [ran_of_success hp, mem_append, ih]
      constructor
      · rintro (h | ⟨k, q, hq, hx, hbefore⟩)
        · exact ⟨0, p, rfl, h, by simp⟩
        · refine ⟨k + 1, q, hq, hx, fun j hj r hr => ?_⟩
          cases j with
          | zero => cases hr; exact hp
          | succ j => exact hbefore j (by omega) r hr
      · rintro ⟨_ | k, q, hq, hx, hbefore⟩
        · cases hq
          exact .inl hx
        · exact .inr ⟨k, q, hq, hx, fun j hj r hr => hbefore (j + 1) (by omega) r hr⟩
    · rw [ran_of_ne hp]
      constructor
      · exact fun h => ⟨0, p, rfl, h, by simp⟩
      · rintro ⟨_ | k, q, hq, hx, hbefore⟩
        · cases hq
          exact hx
        · exact absurd (hbefore 0 (by omega) p rfl) hp

variable {attempt : ℕ → Stage (List α) ε}

theorem Appends.retry {p : ℕ → List α × Status ε} (h : ∀ n, (attempt n).Appends (p n)) (again : ℕ) :
    (Stage.retry again attempt).Appends (retried again p) := by
  induction again generalizing attempt p with
  | zero => exact h 0
  | succ again ih =>
    intro s
    have hrest := ih fun n => h (n + 1)
    simp only [Stage.retry, retried, h 0 s]
    rcases hp : p 0 with ⟨out, _ | errors | _⟩
    · rfl
    · simp only
      rw [hrest, append_assoc]
    · simp only
      rw [hrest, append_assoc]

section Retried

variable {again : ℕ} {p : ℕ → List α × Status ε}

def Recovers (again : ℕ) (p : ℕ → List α × Status ε) : Prop := ∃ k ≤ again, (p k).2 = .success

/-- No attempt before the first success fails with something appended. -/
def Clean (again : ℕ) (p : ℕ → List α × Status ε) : Prop :=
  ∀ k ≤ again, (∀ j ≤ k, (p j).2 ≠ .success) → (p k).1 = []

theorem retried_of_success (h : (p 0).2 = .success) : retried again p = ((p 0).1, .success) := by
  cases again with
  | zero => exact Prod.ext rfl h
  | succ again =>
    unfold retried
    rcases hp : p 0 with ⟨out, status⟩
    rw [hp] at h
    cases h
    rfl

theorem retried_of_failed (h : (p 0).2 ≠ .success) :
    retried (again + 1) p = ((p 0).1 ++ (retried again fun n => p (n + 1)).1,
      (retried again fun n => p (n + 1)).2) := by
  rcases hp : p 0 with ⟨out, _ | errors | _⟩
  · exact absurd (by rw [hp]) h
  · simp only [retried, hp]
  · simp only [retried, hp]

theorem recovers_succ (h : (p 0).2 ≠ .success) :
    Recovers (again + 1) p ↔ Recovers again fun n => p (n + 1) := by
  constructor
  · rintro ⟨_ | k, hk, hsuccess⟩
    · exact absurd hsuccess h
    · exact ⟨k, by omega, hsuccess⟩
  · rintro ⟨k, hk, hsuccess⟩
    exact ⟨k + 1, by omega, hsuccess⟩

theorem clean_succ (h : (p 0).2 ≠ .success) :
    Clean (again + 1) p ↔ (p 0).1 = [] ∧ Clean again fun n => p (n + 1) := by
  constructor
  · intro hclean
    refine ⟨hclean 0 (by omega) fun j hj => ?_, fun k hk hfailed => ?_⟩
    · obtain rfl : j = 0 := by omega
      exact h
    · refine hclean (k + 1) (by omega) fun j hj => ?_
      cases j with
      | zero => exact h
      | succ j => exact hfailed j (by omega)
  · rintro ⟨hfirst, hclean⟩ k hk hfailed
    cases k with
    | zero => exact hfirst
    | succ k => exact hclean k (by omega) fun j hj => hfailed (j + 1) (by omega)

theorem clean_of_success (h : (p 0).2 = .success) : Clean again p :=
  fun k _ hfailed => absurd h (hfailed 0 (Nat.zero_le k))

theorem retried_success_iff : (retried again p).2 = .success ↔ Recovers again p := by
  induction again generalizing p with
  | zero =>
    constructor
    · exact fun h => ⟨0, Nat.le_refl 0, h⟩
    · rintro ⟨k, hk, h⟩
      obtain rfl : k = 0 := by omega
      exact h
  | succ again ih =>
    by_cases h : (p 0).2 = .success
    · rw [retried_of_success h]
      exact iff_of_true rfl ⟨0, by omega, h⟩
    · rw [retried_of_failed h, recovers_succ h, ih]

theorem mem_retried_iff {x : α} :
    x ∈ (retried again p).1 ↔ ∃ n ≤ again, (∀ m < n, (p m).2 ≠ .success) ∧ x ∈ (p n).1 := by
  induction again generalizing p with
  | zero => simp [retried]
  | succ again ih =>
    by_cases hfirst : (p 0).2 = .success
    · rw [retried_of_success hfirst]
      constructor
      · exact fun h => ⟨0, by omega, by simp, h⟩
      · rintro ⟨_ | n, -, hfailed, h⟩
        · exact h
        · exact absurd hfirst (hfailed 0 (by omega))
    · rw [retried_of_failed hfirst, mem_append, ih]
      constructor
      · rintro (h | ⟨n, hn, hfailed, h⟩)
        · exact ⟨0, by omega, by simp, h⟩
        · refine ⟨n + 1, by omega, fun m hm => ?_, h⟩
          cases m with
          | zero => exact hfirst
          | succ m => exact hfailed m (by omega)
      · rintro ⟨_ | n, hn, hfailed, h⟩
        · exact .inl h
        · exact .inr ⟨n, by omega, fun m hm => hfailed (m + 1) (by omega), h⟩

theorem mem_retried {x : α} (h : x ∈ (retried again p).1) : ∃ n, x ∈ (p n).1 := by
  obtain ⟨n, -, -, hn⟩ := mem_retried_iff.mp h
  exact ⟨n, hn⟩

theorem retried_eq_iff (hrec : Recovers again p) :
    (Clean again p → ∃ k ≤ again, (p k).2 = .success ∧ (retried again p).1 = (p k).1) ∧
      (¬ Clean again p → ∃ k ≤ again, (p k).2 = .success ∧
        (p k).1.length < (retried again p).1.length) := by
  induction again generalizing p with
  | zero =>
    obtain ⟨k, hk, h⟩ := hrec
    obtain rfl : k = 0 := by omega
    exact ⟨fun _ => ⟨0, Nat.le_refl 0, h, rfl⟩, fun hno => absurd (clean_of_success h) hno⟩
  | succ again ih =>
    by_cases h : (p 0).2 = .success
    · rw [retried_of_success h]
      exact ⟨fun _ => ⟨0, by omega, h, rfl⟩, fun hno => absurd (clean_of_success h) hno⟩
    · rw [recovers_succ h] at hrec
      obtain ⟨hclean, hdirty⟩ := ih hrec
      rw [retried_of_failed h, clean_succ h]
      constructor
      · rintro ⟨hfirst, hrest⟩
        obtain ⟨k, hk, hsuccess, heq⟩ := hclean hrest
        exact ⟨k + 1, by omega, hsuccess, by simpa [hfirst] using heq⟩
      · intro hno
        by_cases hrest : Clean again fun n => p (n + 1)
        · obtain ⟨k, hk, hsuccess, heq⟩ := hclean hrest
          have hfirst : 0 < (p 0).1.length := length_pos_iff.mpr fun hnil => hno ⟨hnil, hrest⟩
          refine ⟨k + 1, by omega, hsuccess, ?_⟩
          simp only [length_append, heq]
          omega
        · obtain ⟨k, hk, hsuccess, hlt⟩ := hdirty hrest
          refine ⟨k + 1, by omega, hsuccess, ?_⟩
          simp only [length_append]
          omega

theorem Appends.retry_clean (h : ∀ n, (attempt n).Appends (p n))
    (hrec : Recovers again p) (hclean : Clean again p) :
    ∃ k ≤ again, (p k).2 = .success ∧ (Stage.retry again attempt).Appends ((p k).1, .success) := by
  obtain ⟨k, hk, hsuccess, hout⟩ := (retried_eq_iff hrec).1 hclean
  refine ⟨k, hk, hsuccess, ?_⟩
  have hretried : retried again p = ((p k).1, .success) :=
    Prod.ext hout (retried_success_iff.mpr hrec)
  rw [← hretried]
  exact Appends.retry h again

end Retried

end Stage

end KubeOne.Process
