import KubeOne.Process.Stage
import Mathlib.Data.Nat.Notation

/-! Attempts at a stage. A stage that fails is tried again as long as there are attempts left,
from the state that the attempt before it has left; one that is stopped is not. The attempts that
are made are kept, so that a property of a run is proved from what one attempt adds. -/

namespace KubeOne.Process.Stage

variable {σ ε χ : Type*} (attempt : χ → Stage σ ε)

/-- Up to `n` attempts. The status is the one of the last attempt. -/
def retryFailed : ℕ → Status ε → (ℕ → χ) → Stage σ ε
  | 0, last, _ => fun s => (s, last)
  | n + 1, _, surroundings => fun s =>
    match attempt (surroundings 0) s with
    | (s', .failed errors) => retryFailed n (.failed errors) (fun k => surroundings (k + 1)) s'
    | r => r

/-- The attempts that are made, each with the state it starts from. -/
def attempts : ℕ → (ℕ → χ) → σ → List (σ × χ)
  | 0, _, _ => []
  | n + 1, surroundings, s =>
    (s, surroundings 0) ::
      match attempt (surroundings 0) s with
      | (s', .failed _) => attempts n (fun k => surroundings (k + 1)) s'
      | _ => []

variable {attempt}

theorem retryFailed_invariant {J : List (σ × χ) → σ → Prop}
    (hstep : ∀ past s x, J past s → J (past ++ [(s, x)]) (attempt x s).1) (n : ℕ)
    (last : Status ε) (surroundings : ℕ → χ) {past : List (σ × χ)} {s : σ} (h : J past s) :
    J (past ++ attempts attempt n surroundings s)
      (retryFailed attempt n last surroundings s).1 := by
  induction n generalizing last surroundings past s with
  | zero => simpa [attempts, retryFailed] using h
  | succ n ih =>
    have hnext := hstep past s (surroundings 0) h
    rcases hout : attempt (surroundings 0) s with ⟨s', status⟩
    cases status with
    | success => simpa only [attempts, retryFailed, hout] using hnext
    | stopped => simpa only [attempts, retryFailed, hout] using hnext
    | failed errors =>
      have hrest := ih (.failed errors) (fun k => surroundings (k + 1)) hnext
      simpa only [attempts, retryFailed, hout, List.append_assoc, List.singleton_append] using hrest

variable {surroundings : ℕ → χ}

theorem exists_of_retryFailed_success {n : ℕ} {last : Status ε} {s s' : σ}
    (h : retryFailed attempt n last surroundings s = (s', .success))
    (hn : n ≠ 0 ∨ last ≠ .success) :
    ∃ past t x, attempts attempt n surroundings s = past ++ [(t, x)] ∧
      attempt x t = (s', .success) := by
  induction n generalizing last surroundings s with
  | zero => exact absurd (congrArg Prod.snd h) (hn.resolve_left fun hzero => hzero rfl)
  | succ n ih =>
    rcases hout : attempt (surroundings 0) s with ⟨t, status⟩
    cases status with
    | success =>
      simp only [retryFailed, hout] at h
      exact ⟨[], s, surroundings 0, by simp only [attempts, hout, List.nil_append], hout.trans h⟩
    | stopped =>
      simp only [retryFailed, hout] at h
      cases congrArg Prod.snd h
    | failed errors =>
      simp only [retryFailed, hout] at h
      have hlast : n ≠ 0 ∨ Status.failed errors ≠ .success := .inr fun hfalse => by cases hfalse
      obtain ⟨past, u, x, hmade, hx⟩ := ih h hlast
      refine ⟨(s, surroundings 0) :: past, u, x, ?_, hx⟩
      simp only [attempts, hout, hmade, List.cons_append]

/-- From states with an invariant that the attempts keep, the run succeeds as an attempt does. -/
theorem retryFailed_success {I Q : σ → Prop}
    (hstep : ∀ x s, I s → I (attempt x s).1 ∧ ((attempt x s).2 = .success → Q (attempt x s).1))
    {n : ℕ} {last : Status ε} {s s' : σ} (hI : I s)
    (h : retryFailed attempt n last surroundings s = (s', .success))
    (hn : n ≠ 0 ∨ last ≠ .success) : Q s' := by
  obtain ⟨past, t, x, hmade, hx⟩ := exists_of_retryFailed_success h hn
  have hinv := retryFailed_invariant (J := fun past s => I s ∧ ∀ y ∈ past, I y.1)
    (fun past s x hJ => ⟨(hstep x s hJ.1).1, List.forall_mem_append.mpr ⟨hJ.2, by simp [hJ.1]⟩⟩)
    n last surroundings (show I s ∧ ∀ y : σ × χ, y ∈ [] → I y.1 from ⟨hI, by simp⟩)
  have hq := (hstep x t (hinv.2 (t, x) (by simp [hmade]))).2
  rw [hx] at hq
  exact hq rfl

end KubeOne.Process.Stage
