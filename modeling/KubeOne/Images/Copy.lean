import Mathlib.Algebra.Order.Ring.Int
import Mathlib.Data.List.Count

/-! Copying images to another registry. Every image is copied to its destinations by a goroutine
of its own, and CoreDNS has two of them. Failures are noted for destinations, while the report is
about images; and an image whose reference does not parse ends the report early. -/

namespace KubeOne.Images

open List

/-- A parsed reference: what is to be copied of a repository is a tag or a digest. -/
structure Reference where
  repository : String
  identifier : String
  isDigest : Bool := false

inductive Failure
  | failedToPrepare (source : String)
  | failedImages (lines : List String)

structure Report where
  copied : ℤ
  total : ℕ
  error : Option Failure := none

variable (parseReference : String → Option Reference) (registry : String)

def retagImage (source : String) : Option (List String) :=
  (parseReference source).map fun ref =>
    let separator := if ref.isDigest then "@" else ":"
    if ref.repository = "coredns/coredns" then
      [registry ++ "/coredns/coredns" ++ separator ++ ref.identifier,
        registry ++ "/coredns" ++ separator ++ ref.identifier]
    else [registry ++ "/" ++ ref.repository ++ separator ++ ref.identifier]

/-- The images that are copied, with their destinations, and the one that ends the loop. -/
def started : List String → List (String × List String) × Option String
  | [] => ([], none)
  | source :: images =>
    match retagImage parseReference registry source with
    | none => ([], some source)
    | some dests => ((source, dests) :: (started images).1, (started images).2)

/-- The lines about each of the images that are copied, given which copies fail. -/
def failures (fails : ℕ → String → Bool) (images : List String) : List (List String) :=
  (started parseReference registry images).1.mapIdx fun i image =>
    (image.2.filter (fails i)).map fun dest => "  - " ++ image.1 ++ " → " ++ dest

/-- The reports of a run: the goroutines add their lines in any order. -/
def CopyImages (dryRun : Bool) (fails : ℕ → String → Bool) (images : List String) (r : Report) :
    Prop :=
  match (started parseReference registry images).2 with
  | some source => r = ⟨0, images.length, some (.failedToPrepare source)⟩
  | none => ∃ failedImages : List String, failedImages.Perm
      (if dryRun then [] else (failures parseReference registry fails images).flatten) ∧
    r = ⟨images.length - failedImages.length, images.length,
      if failedImages = [] then none else some (.failedImages failedImages)⟩

/-- The report counts the images with nothing failed, and has an error if anything failed. -/
structure Report.Truthful (r : Report) (failures : List (List String)) : Prop where
  copied : r.copied = failures.countP (·.isEmpty)
  bounds : 0 ≤ r.copied ∧ r.copied ≤ r.total
  error : r.error = none ↔ failures.flatten = []

theorem length_eq_countP_add_iff {α : Type*} (ls : List (List α)) :
    ls.length ≤ ls.countP (·.isEmpty) + ls.flatten.length ∧
      (ls.length = ls.countP (·.isEmpty) + ls.flatten.length ↔ ∀ l ∈ ls, l.length ≤ 1) := by
  induction ls with
  | nil => simp
  | cons l ls ih =>
    obtain ⟨hle, hiff⟩ := ih
    rw [forall_mem_cons, ← hiff]
    cases l with
    | nil =>
      simp only [countP_cons, isEmpty_nil, if_true, length_cons,
        flatten_cons, nil_append, length_nil]
      omega
    | cons a l =>
      simp only [countP_cons, isEmpty_cons, Bool.false_eq_true, if_false,
        length_cons, flatten_cons, length_append]
      omega

variable {parseReference registry} {fails : ℕ → String → Bool} {images : List String}

theorem length_started (h : (started parseReference registry images).2 = none) :
    (started parseReference registry images).1.length = images.length := by
  induction images with
  | nil => simp [started]
  | cons source images ih =>
    unfold started at h ⊢
    split at h
    · simp at h
    · simpa using ih h

/-- Every report is truthful exactly if all references parse and no image fails at two
destinations, or if one does not parse and every image before it, of which there is one, fails. -/
theorem copyImages_truthful_iff (parseReference : String → Option Reference) (registry : String)
    (fails : ℕ → String → Bool) (images : List String) :
    (∀ r, CopyImages parseReference registry false fails images r →
      r.Truthful (failures parseReference registry fails images)) ↔
      match (started parseReference registry images).2 with
      | none => ∀ l ∈ failures parseReference registry fails images, l.length ≤ 1
      | some _ => failures parseReference registry fails images ≠ [] ∧
          ∀ l ∈ failures parseReference registry fails images, l ≠ [] := by
  have hlength : (failures parseReference registry fails images).length =
      (started parseReference registry images).1.length := by simp [failures]
  unfold CopyImages
  generalize failures parseReference registry fails images = ls at hlength ⊢
  cases hstarted : (started parseReference registry images).2 with
  | none =>
    rw [length_started hstarted] at hlength
    obtain ⟨hle, hiff⟩ := length_eq_countP_add_iff ls
    have hcount := countP_le_length (p := (·.isEmpty)) (l := ls)
    rw [← hiff]
    constructor
    · intro h
      have hcopied := (h _ ⟨_, .refl _, rfl⟩).copied
      simp only [Bool.false_eq_true, if_false] at hcopied
      omega
    · rintro heq r ⟨failed, hperm, rfl⟩
      have hfailed := hperm.length_eq
      simp only [Bool.false_eq_true, if_false] at hfailed
      refine ⟨by simp only; omega, by constructor <;> simp only <;> omega, ?_⟩
      have hnil : failed = [] ↔ ls.flatten = [] := by
        rw [← length_eq_zero_iff, hfailed, length_eq_zero_iff]
      rw [← hnil]
      by_cases h : failed = [] <;> simp [h]
  | some source =>
    simp only [forall_eq]
    constructor
    · rintro ⟨hcopied, -, herror⟩
      have hnone : ∀ l ∈ ls, l ≠ [] := by
        have hzero : ls.countP (·.isEmpty) = 0 := by simpa using hcopied.symm
        simpa using countP_eq_zero.mp hzero
      refine ⟨?_, hnone⟩
      rintro rfl
      simp at herror
    · rintro ⟨hne, hnone⟩
      have hzero : ls.countP (·.isEmpty) = 0 := countP_eq_zero.mpr (by simpa using hnone)
      refine ⟨by simp [hzero], by simp, ?_⟩
      obtain ⟨l, hl⟩ := exists_mem_of_ne_nil ls hne
      simp only [reduceCtorEq, flatten_eq_nil_iff, false_iff, not_forall]
      exact ⟨l, hl, hnone l hl⟩

/-- With both copies of CoreDNS failed there is one image less than none. -/
theorem failed_coredns_counts_twice :
    let parse : String → Option Reference := fun _ => some ⟨"coredns/coredns", "v1.11.1", false⟩
    ∃ r, CopyImages parse "10.0.0.1:5000" false (fun _ _ => true)
      ["registry.k8s.io/coredns/coredns:v1.11.1"] r ∧ r.copied = -1 :=
  ⟨_, ⟨_, .refl _, rfl⟩, by decide⟩

end KubeOne.Images
