import Mathlib.Init

/-! Procedures in stages. A stage changes a state and succeeds, fails with errors, or is stopped
on its way; the next stage runs only after a success. -/

namespace KubeOne.Process

open List

inductive Status (ε : Type*) where
  | success
  | failed (errors : List ε)
  | stopped
  deriving DecidableEq

abbrev Stage (σ ε : Type*) := σ → σ × Status ε

theorem bind_eq_ok {ε : Type*} {α β : Type _} {x : Except ε α} {f : α → Except ε β} {b : β} :
    (x >>= f) = .ok b ↔ ∃ a, x = .ok a ∧ f a = .ok b := by
  cases x <;> simp [bind, Except.bind]

namespace Stage

variable {σ ε : Type*}

def skip : Stage σ ε := fun s => (s, .success)

def andThen (first second : Stage σ ε) : Stage σ ε := fun s =>
  match first s with
  | (s', .success) => second s'
  | r => r

def sequence : List (Stage σ ε) → Stage σ ε
  | [] => skip
  | f :: fs => f.andThen (sequence fs)

/-- Started with `P`, the stage succeeds with `Q` or ends with `E`. -/
def Meets (P : σ → Prop) (f : Stage σ ε) (Q E : σ → Prop) : Prop :=
  ∀ s s' r, P s → f s = (s', r) → (r = .success → Q s') ∧ (r ≠ .success → E s')

variable {f g : Stage σ ε} {P P' Q Q' R E E' : σ → Prop}

theorem andThen_of_success {s t : σ} (h : f s = (t, .success)) : f.andThen g s = g t := by
  simp [andThen, h]

variable {r : Status ε}

theorem eq_of_snd {p : σ × Status ε} (h : p.2 = r) : p = (p.1, r) := by
  rw [← h]

theorem andThen_of_snd {s : σ} (h : (f s).2 = .success) : f.andThen g s = g (f s).1 :=
  andThen_of_success (eq_of_snd h)

theorem andThen_of_ne {s t : σ} (h : f s = (t, r)) (hr : r ≠ .success) :
    f.andThen g s = (t, r) := by
  unfold andThen
  rw [h]
  cases r with
  | success => exact absurd rfl hr
  | failed errors => rfl
  | stopped => rfl

theorem andThen_eq {s s' : σ} (h : f.andThen g s = (s', r)) :
    f s = (s', r) ∧ r ≠ .success ∨ ∃ t, f s = (t, .success) ∧ g t = (s', r) := by
  rcases hf : f s with ⟨t, status⟩
  by_cases hstatus : status = .success
  · subst hstatus
    exact .inr ⟨t, rfl, by rw [← h, andThen_of_success hf]⟩
  · rw [andThen_of_ne hf hstatus] at h
    cases h
    exact .inl ⟨rfl, hstatus⟩

theorem of_andThen_success {s s' : σ} (h : f.andThen g s = (s', .success)) :
    ∃ t, f s = (t, .success) ∧ g t = (s', .success) :=
  (andThen_eq h).resolve_left fun hfirst => hfirst.2 rfl

theorem andThen_assoc (f g h : Stage σ ε) : (f.andThen g).andThen h = f.andThen (g.andThen h) := by
  funext s
  rcases hf : f s with ⟨t, r⟩
  by_cases hr : r = .success
  · subst hr
    rw [andThen_of_success hf, andThen, andThen_of_success hf, andThen]
  · rw [andThen_of_ne hf hr, andThen_of_ne (andThen_of_ne hf hr) hr]

theorem Meets.andThen (hf : Meets P f Q E) (hg : Meets Q g R E) : Meets P (f.andThen g) R E := by
  intro s s' r hs hx
  rcases andThen_eq hx with ⟨hfirst, hr⟩ | ⟨t, hfirst, hrest⟩
  · exact ⟨fun h => absurd h hr, (hf s s' r hs hfirst).2⟩
  · exact hg t s' r ((hf s t .success hs hfirst).1 rfl) hrest

theorem Meets.weaken (hf : Meets P f Q E) (hP : ∀ s, P' s → P s) (hQ : ∀ s, Q s → Q' s)
    (hE : ∀ s, E s → E' s) : Meets P' f Q' E' := by
  intro s s' r hs hx
  obtain ⟨hdone, hfailed⟩ := hf s s' r (hP s hs) hx
  exact ⟨fun h => hQ s' (hdone h), fun h => hE s' (hfailed h)⟩

/-- The relation holds between the states before and after the stage, however it ends. -/
def Relates (R : σ → σ → Prop) (f : Stage σ ε) : Prop := ∀ s, R s (f s).1

section Relates

variable {R R' : σ → σ → Prop} {fs : List (Stage σ ε)}

theorem relates_skip (hrefl : ∀ s, R s s) : Relates R (skip : Stage σ ε) := hrefl

theorem Relates.andThen (htrans : ∀ s t u, R s t → R t u → R s u) (hf : Relates R f)
    (hg : Relates R g) : Relates R (f.andThen g) := by
  intro s
  rcases hs : f.andThen g s with ⟨s', r⟩
  rcases andThen_eq hs with ⟨hfirst, -⟩ | ⟨t, hfirst, hrest⟩
  · simpa [hfirst] using hf s
  · refine htrans s t s' ?_ ?_
    · simpa [hfirst] using hf s
    · simpa [hrest] using hg t

theorem Relates.sequence (hrefl : ∀ s, R s s) (htrans : ∀ s t u, R s t → R t u → R s u)
    (h : ∀ f ∈ fs, Relates R f) : Relates R (sequence fs) := by
  induction fs with
  | nil => exact relates_skip hrefl
  | cons f fs ih =>
    refine Relates.andThen htrans (h f mem_cons_self) (ih fun g hg => ?_)
    exact h g (mem_cons_of_mem _ hg)

theorem exists_of_mem_sequence (hrefl : ∀ s, R s s) (htrans : ∀ s t u, R s t → R t u → R s u)
    (h : ∀ f ∈ fs, Relates R f) (hf : f ∈ fs) {s s' : σ} (hs : sequence fs s = (s', .success)) :
    ∃ t t', f t = (t', .success) ∧ R t' s' := by
  induction fs generalizing s with
  | nil => cases hf
  | cons first fs ih =>
    have hrest : ∀ f ∈ fs, Relates R f := fun g hg => h g (mem_cons_of_mem _ hg)
    obtain ⟨t, hfirst, hnext⟩ := of_andThen_success hs
    rcases mem_cons.mp hf with rfl | hf
    · refine ⟨s, t, hfirst, ?_⟩
      have hafter := Relates.sequence hrefl htrans hrest t
      rwa [hnext] at hafter
    · exact ih hrest hf hnext

theorem sequence_reaches {H : σ → Prop} (hkeep : ∀ f ∈ fs, ∀ s, H s → H (f s).1)
    (hstep : ∀ f ∈ fs, ∀ s, (f s).2 = .success ∨ H (f s).1) (hf : f ∈ fs)
    (hreach : ∀ s, H (f s).1) (s : σ) : H (sequence fs s).1 := by
  induction fs generalizing s with
  | nil => cases hf
  | cons first fs ih =>
    have hrest : Relates (fun s s' => H s → H s') (sequence fs) :=
      Relates.sequence (fun _ h => h) (fun _ _ _ h h' hs => h' (h hs))
        fun g hg s => hkeep g (mem_cons_of_mem _ hg) s
    have hdone : H (first s).1 → H (sequence (first :: fs) s).1 := by
      intro hH
      rcases hfirst : first s with ⟨t, r⟩
      rw [hfirst] at hH
      by_cases hr : r = .success
      · rw [sequence, andThen_of_success (hr ▸ hfirst)]
        exact hrest t hH
      · rw [sequence, andThen_of_ne hfirst hr]
        exact hH
    rcases mem_cons.mp hf with rfl | hf
    · exact hdone (hreach s)
    · rcases hstep first mem_cons_self s with hok | hH
      · rw [sequence, andThen_of_snd hok]
        exact ih (fun g hg => hkeep g (mem_cons_of_mem _ hg))
          (fun g hg => hstep g (mem_cons_of_mem _ hg)) hf (first s).1
      · exact hdone hH

theorem sequence_success (h : ∀ f ∈ fs, ∀ s, (f s).2 = .success) (s : σ) :
    (sequence fs s).2 = .success := by
  induction fs generalizing s with
  | nil => rfl
  | cons first fs ih =>
    rw [sequence, andThen_of_snd (h first mem_cons_self s)]
    exact ih (fun g hg => h g (mem_cons_of_mem _ hg)) _

end Relates

end Stage

end KubeOne.Process
