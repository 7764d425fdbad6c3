import Mathlib.Data.Finset.Card
import Mathlib.Tactic.Linarith

/-! Majority quorums of a finite ring and the removal of members one at a time. The removal of a
set keeps a majority exactly when a linear inequality between its alive and dead members holds, so
the worst order takes every alive member first. -/

namespace KubeOne.Quorum

open List

variable {α : Type*}

def majority (n : ℕ) : ℕ := n / 2 + 1

theorem majority_le_iff (n a : ℕ) : majority n ≤ a ↔ n < 2 * a := by
  unfold majority
  omega

/-- The alive members of the ring are a majority of it. -/
def Quorate (alive : α → Bool) (ring : List α) : Prop := majority ring.length ≤ ring.countP alive

instance (alive : α → Bool) (ring : List α) : Decidable (Quorate alive ring) :=
  inferInstanceAs (Decidable (_ ≤ _))

variable (alive : α → Bool)

theorem quorate_iff (ring : List α) : Quorate alive ring ↔ ring.length < 2 * ring.countP alive :=
  majority_le_iff _ _

theorem Quorate.perm {alive : α → Bool} {ring ring' : List α} (h : ring.Perm ring')
    (hq : Quorate alive ring) : Quorate alive ring' := by
  unfold Quorate at hq ⊢
  rwa [← h.length_eq, ← h.countP_eq]

variable (gone : List α)

/-- The removal of `gone` from a ring keeps a majority exactly when the margin of
the alive members covers the alive members that go, less the dead ones. -/
theorem quorate_append_iff (rest : List α) :
    Quorate alive rest ↔
      (gone ++ rest).length + gone.countP alive <
        2 * (gone ++ rest).countP alive + gone.countP (fun x => !alive x) := by
  have hsplit : gone.length = gone.countP alive + gone.countP (fun x => !alive x) := by
    simpa using length_eq_countP_add_countP alive (l := gone)
  rw [quorate_iff, length_append, countP_append]
  omega

/-- Every way to take the listed members out one after the other leaves a
majority after each removal. -/
def KeepsQuorum (alive : α → Bool) (gone rest : List α) : Prop :=
  ∀ first later, (first ++ later).Perm gone → first ≠ [] → Quorate alive (later ++ rest)

/-- A quorate ring keeps its majority in every order of the removals exactly when
the alive members among them are fewer than the margin of the alive members. -/
theorem keepsQuorum_iff (rest : List α) (hq : Quorate alive (gone ++ rest)) :
    KeepsQuorum alive gone rest ↔
      (gone ++ rest).length + gone.countP alive < 2 * (gone ++ rest).countP alive := by
  constructor
  · intro hk
    by_cases hnone : gone.filter alive = []
    · -- only dead members go, so the inequality is the quorum of the whole ring
      have hzero : gone.countP alive = 0 := by
        rw [countP_eq_length_filter, hnone, length_nil]
      rw [quorate_iff] at hq
      omega
    · have hlast := hk _ _ (filter_append_perm alive gone) hnone
      rw [quorate_append_iff alive (gone.filter alive)] at hlast
      have hperm : (gone.filter alive ++ (gone.filter (fun x => !alive x) ++ rest)).Perm
          (gone ++ rest) := by
        rw [← append_assoc]
        exact (filter_append_perm alive gone).append_right rest
      have hdead : (gone.filter alive).countP (fun x => !alive x) = 0 := by
        simp [countP_eq_zero]
      have halive : (gone.filter alive).countP alive = gone.countP alive := by
        rw [countP_filter]
        simp
      rw [hperm.length_eq, hperm.countP_eq, hdead, halive] at hlast
      omega
  · intro hlt first later hperm _
    have hall : (first ++ (later ++ rest)).Perm (gone ++ rest) := by
      rw [← append_assoc]
      exact hperm.append_right rest
    have hle : first.countP alive ≤ gone.countP alive := by
      rw [← hperm.countP_eq, countP_append]
      exact Nat.le_add_right _ _
    rw [quorate_append_iff alive first, hall.length_eq, hall.countP_eq]
    omega

end KubeOne.Quorum
