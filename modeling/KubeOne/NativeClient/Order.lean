import KubeOne.NativeClient.Delete
import KubeOne.NativeClient.Safety

/-! The order in which the objects of a manifest are applied and deleted. -/

namespace KubeOne.NativeClient

open Process List

/-- What has the same priority as the new object stays behind it. -/
theorem orderedInsert_between {a : Unstructured} {l l₁ l₂ : List Unstructured} (h : l = l₁ ++ l₂)
    (h₁ : ∀ b ∈ l₁, applyPriority b < applyPriority a)
    (h₂ : ∀ b ∈ l₂, applyPriority a ≤ applyPriority b) :
    orderedInsert (applyPriority · ≤ applyPriority ·) a l = l₁ ++ a :: l₂ := by
  subst h
  induction l₁ with
  | nil =>
    cases l₂ with
    | nil => rfl
    | cons b l => simp [h₂ b mem_cons_self]
  | cons b l ih =>
    rw [forall_mem_cons] at h₁
    simp [Nat.not_le.mpr h₁.1, ih h₁.2]

theorem phaseOrder_eq_sortForApply (objs : List Unstructured) :
    phaseOrder objs = sortForApply objs := by
  induction objs with
  | nil => rfl
  | cons obj objs ih =>
    rw [sortForApply, insertionSort_cons, ← sortForApply, ← ih]
    have hne : namespaceGroupKind ≠ crdGroupKind := by decide
    unfold phaseOrder splitPhases
    by_cases hcrd : obj.gvk.groupKind = crdGroupKind
    · rw [orderedInsert_between (nil_append _).symm]
      · simp [hcrd, hne.symm]
      · simp
      · simp [applyPriority, hcrd]
    by_cases hns : obj.gvk.groupKind = namespaceGroupKind
    · rw [orderedInsert_between (append_assoc _ _ _)]
      · simp [hns, hne]
      · simp +contextual [applyPriority, hns, hne]
      · simp +contextual [applyPriority, hns, hne, or_imp]
    · rw [orderedInsert_between rfl]
      · simp [hcrd, hns]
      · simp +contextual [applyPriority, hcrd, hns, hne, or_imp]
      · simp +contextual [applyPriority, hcrd, hns]

theorem forms_of_apply {applier : Applier} {server : Server} {env : Environment}
    {objs : List Unstructured} {opts : ApplyOptions} {c : Cluster} {p' : Progress}
    (h : applier.apply server env objs opts c = (p', .success)) :
    Forall₂ (fun obj ref => ref ∈ (server.forms obj).map refOf) (phaseOrder objs)
      p'.result.applied := by
  rcases Stage.andThen_eq h with ⟨-, hr⟩ | ⟨p, hphases, hrest⟩
  · exact absurd rfl hr
  rcases Stage.andThen_eq hrest with ⟨-, hr⟩ | ⟨q, hprune, hfinal⟩
  · exact absurd rfl hr
  obtain ⟨refs, hrefs, hall⟩ := (phases_eq hphases).2 rfl
  have hkept : q.result.applied = p.result.applied := by
    rcases pruneStale_eq hprune with ⟨rfl, -⟩ | ⟨_, _, -, hswept⟩
    · rfl
    · exact hswept.applied
  rw [(finalizeInventory_eq hfinal).2.1, hkept, hrefs, nil_append]
  exact hall.forms

/-- The phases are the stable order of the kinds. A call that succeeds has applied its objects in
that order, however the requests of a phase interleave, and a delete goes through the kinds in
the reverse order. -/
theorem objects_in_order (objs : List Unstructured) :
    (splitPhases objs).1 ++ (splitPhases objs).2.1 ++ (splitPhases objs).2.2 = sortForApply objs ∧
    (∀ (applier : Applier) server env opts c p',
      applier.apply server env objs opts c = (p', .success) →
        Forall₂ (fun obj ref => ref = refOf obj ∨ ref = refOf (server.desired obj))
          (sortForApply objs) p'.result.applied) ∧
    (sortForDelete objs).Perm objs ∧
    (sortForDelete objs).Pairwise fun a b => applyPriority b ≤ applyPriority a := by
  refine ⟨phaseOrder_eq_sortForApply objs, fun applier server env opts c p' h => ?_, ?_, ?_⟩
  · rw [← phaseOrder_eq_sortForApply]
    refine (forms_of_apply h).imp fun obj ref hform => ?_
    simpa [Server.forms] using hform
  · exact (reverse_perm _).trans (perm_insertionSort _ objs)
  · rw [sortForDelete, pairwise_reverse]
    exact pairwise_insertionSort _ _

end KubeOne.NativeClient
