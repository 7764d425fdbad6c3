import KubeOne.Process.Machine

/-! Proof outlines for interruptible task lists: what holds before a list, what holds once it has
finished, and an invariant of the world that holds throughout, also while tasks are retried and
after the process has been stopped. -/

namespace KubeOne.Process

open Engine

variable {ω μ τ χ ε : Type*}

/-- Assertions about the world and the memory of a process. -/
abbrev Assertion (ω μ : Type*) := ω → μ → Prop

/-- The parts of an outline that every task shares: the engine, the condition on
the events, and an invariant that the environment keeps. -/
structure Frame (ω μ τ χ ε : Type*) where
  engine : Engine ω μ τ χ ε
  guard : Guard ω μ τ χ
  invariant : ω → Prop
  env : ∀ e w, invariant w → invariant (engine.env e w)

namespace Frame

variable (F : Frame ω μ τ χ ε)

/-- The events of a run that starts no further process. -/
def NoStart : List (Event μ χ ε) → Prop
  | [] => True
  | .start _ :: _ => False
  | _ :: es => NoStart es

/-- From here on, until the next start, the invariant holds at all times and `Q`
holds once the process has finished. -/
def Sound (Q : Assertion ω μ) (c : Machine ω μ τ) : Prop :=
  ∀ es c', NoStart es → F.engine.run c es = some c' → F.engine.Meets F.guard c es →
    F.invariant c'.world ∧ ∀ p, c'.process = some p → p.todo = [] → Q c'.world p.memory

/-- Started with `P`, the list keeps the invariant and finishes with `Q`. -/
def Valid (P : Assertion ω μ) (ts : List τ) (Q : Assertion ω μ) : Prop :=
  ∀ w tries m, P w m → F.Sound Q ⟨w, some ⟨ts, tries, m⟩⟩

/-- An assertion that implies the invariant and that the environment keeps. -/
structure Steady (P : Assertion ω μ) : Prop where
  invariant : ∀ w m, P w m → F.invariant w
  env : ∀ e w m, P w m → P (F.engine.env e w) m

variable {F} {P P' Q R : Assertion ω μ} {c c' : Machine ω μ τ} {t : τ} {ts us : List τ}

theorem Sound.invariant (h : F.Sound Q c) : F.invariant c.world := (h [] c trivial rfl trivial).1

theorem Sound.step (h : F.Sound Q c) {e : Event μ χ ε}
    (hstep : F.engine.step c e = some c') (hallow : F.guard.Allows c e) (hne : NoStart [e]) :
    F.Sound Q c' := by
  intro es d hns hrun hmeets
  refine h (e :: es) d ?_ ?_ (.of_step hallow hstep hmeets)
  · cases e <;> simp_all [NoStart]
  · simpa [run, hstep] using hrun

/-- A world without a process keeps the invariant. -/
theorem sound_idle {w : ω} (hw : F.invariant w) : F.Sound Q ⟨w, none⟩ := by
  intro es
  induction es generalizing w with
  | nil =>
    intro c' _ hrun _
    cases hrun
    exact ⟨hw, by simp⟩
  | cons e es ih =>
    intro c' hns hrun hmeets
    cases e with
    | start m => exact hns.elim
    | attempt choice => simp [run, step] at hrun
    | stop => exact ih hw c' hns hrun (hmeets.tail rfl)
    | env e => exact ih (F.env e w hw) c' hns hrun (hmeets.tail rfl)

theorem Valid.nil (hP : F.Steady P) (hPQ : ∀ w m, P w m → Q w m) : F.Valid P [] Q := by
  intro w tries m hw es
  induction es generalizing w with
  | nil =>
    intro c' _ hrun _
    cases hrun
    exact ⟨hP.invariant w m hw, by rintro p ⟨⟩ _; exact hPQ w m hw⟩
  | cons e es ih =>
    intro c' hns hrun hmeets
    cases e with
    | start m => exact hns.elim
    | attempt choice => simp [run, step] at hrun
    | stop => exact sound_idle (hP.invariant w m hw) es c' hns hrun (hmeets.tail rfl)
    | env e => exact ih _ (hP.env e w m hw) c' hns hrun (hmeets.tail rfl)

theorem Valid.weaken (h : F.Valid P ts Q) (hP : ∀ w m, P' w m → P w m) : F.Valid P' ts Q :=
  fun w tries m hw => h w tries m (hP w m hw)

theorem Valid.exists {ι : Type*} {P : ι → Assertion ω μ} (h : ∀ i, F.Valid (P i) ts Q) :
    F.Valid (fun w m => ∃ i, P i w m) ts Q :=
  fun w tries m ⟨i, hw⟩ => h i w tries m hw

/-- The rule for one task. A failed attempt must keep the assertion, since the task
is tried again; what follows an attempt that succeeds may depend on the tasks it
puts in front. -/
theorem Valid.task (hP : F.Steady P)
    (hskip : ∀ w m, P w m → F.engine.predicate t w m = false →
      F.Valid (fun w' m' => w' = w ∧ m' = m) ts Q)
    (hdone : ∀ choice w m w' m' more, P w m → F.engine.predicate t w m = true →
      F.guard.attempt t choice w m → F.engine.exec t choice w m = (w', m', .done more) →
      F.Valid (fun v n => v = w' ∧ n = m') (more ++ ts) Q)
    (hfailed : ∀ choice w m w' m', P w m → F.guard.attempt t choice w m →
      F.engine.exec t choice w m = (w', m', .failed) → P w' m')
    (haborted : ∀ choice w m w' m', P w m → F.guard.attempt t choice w m →
      F.engine.exec t choice w m = (w', m', .aborted) → F.invariant w') :
    F.Valid P (t :: ts) Q := by
  intro w tries m hw es
  induction es generalizing w tries m with
  | nil =>
    intro c' _ hrun _
    cases hrun
    exact ⟨hP.invariant w m hw, by rintro p ⟨⟩ h; simp at h⟩
  | cons e es ih =>
    intro c' hns hrun hmeets
    cases e with
    | start m => exact hns.elim
    | stop => exact sound_idle (hP.invariant w m hw) es c' hns hrun (hmeets.tail rfl)
    | env e => exact ih _ _ _ (hP.env e w m hw) c' hns hrun (hmeets.tail rfl)
    | attempt choice =>
      have hallow : F.guard.attempt t choice w m := hmeets.1
      obtain ⟨d, hd, hrest⟩ := Option.bind_eq_some_iff.mp hrun
      have hmeets' := hmeets.tail hd
      simp only [step] at hd
      split_ifs at hd with hpred
      · cases hd
        rcases hx : F.engine.exec t choice w m with ⟨w', m', outcome⟩
        rw [hx] at hrest hmeets'
        cases outcome with
        | done more =>
          exact hdone choice w m w' m' more hw hpred hallow hx w' 0 m' ⟨rfl, rfl⟩ es c' hns hrest
            hmeets'
        | failed =>
          have hw' := hfailed choice w m w' m' hw hallow hx
          simp only [conclude] at hrest hmeets'
          split_ifs at hrest hmeets' with hmore
          · exact ih w' _ m' hw' c' hns hrest hmeets'
          · exact sound_idle (hP.invariant w' m' hw') es c' hns hrest hmeets'
        | aborted =>
          exact sound_idle (haborted choice w m w' m' hw hallow hx) es c' hns hrest hmeets'
      · cases hd
        have hfalse : F.engine.predicate t w m = false := by simpa using hpred
        exact hskip w m hw hfalse w 0 m ⟨rfl, rfl⟩ es c' hns hrest hmeets'

/-- The end of an attempt at a task with the precondition `P` and the postcondition `R`
that adds no further tasks. -/
def Ends (F : Frame ω μ τ χ ε) (P R : Assertion ω μ) : ω × μ × Outcome τ → Prop
  | (w, m, .done more) => more = [] ∧ R w m
  | (w, m, .failed) => P w m
  | (w, _, .aborted) => F.invariant w

/-- A task that adds no further tasks: `P` before it, also after each failed attempt,
and `R` once it has succeeded or been skipped. -/
structure Spec (F : Frame ω μ τ χ ε) (P : Assertion ω μ) (t : τ) (R : Assertion ω μ) : Prop where
  steady : F.Steady P
  skip : ∀ w m, P w m → F.engine.predicate t w m = false → R w m
  attempt : ∀ choice w m, P w m → F.guard.attempt t choice w m →
    F.Ends P R (F.engine.exec t choice w m)

theorem Spec.weaken {R' : Assertion ω μ} (ht : F.Spec P t R) (hR : ∀ w m, R w m → R' w m) :
    F.Spec P t R' := by
  refine ⟨ht.steady, fun w m hw hskip => hR w m (ht.skip w m hw hskip), fun choice w m hw hg => ?_⟩
  have hends := ht.attempt choice w m hw hg
  revert hends
  rcases F.engine.exec t choice w m with ⟨w', m', _ | _ | _⟩ <;> intro hends
  · exact ⟨hends.1, hR w' m' hends.2⟩
  · exact hends
  · exact hends

theorem Valid.cons (ht : F.Spec P t R) (hts : F.Valid R ts Q) : F.Valid P (t :: ts) Q := by
  refine Valid.task ht.steady (fun w m hw hfalse => ?_)
    (fun choice w m w' m' more hw _ hg hx => ?_) (fun choice w m w' m' hw hg hx => ?_)
    (fun choice w m w' m' hw hg hx => ?_)
  · exact hts.weaken (by rintro _ _ ⟨rfl, rfl⟩; exact ht.skip _ _ hw hfalse)
  · have hends := ht.attempt choice w m hw hg
    rw [hx] at hends
    obtain ⟨rfl, hR⟩ := hends
    exact hts.weaken (by rintro _ _ ⟨rfl, rfl⟩; exact hR)
  · have hends := ht.attempt choice w m hw hg
    rwa [hx] at hends
  · have hends := ht.attempt choice w m hw hg
    rwa [hx] at hends

/-- Tasks that keep an assertion can be put in front of a list. -/
theorem Valid.append_inert (hts : ∀ t ∈ ts, F.Spec P t P) (hus : F.Valid P us Q) :
    F.Valid P (ts ++ us) Q := by
  induction ts with
  | nil => exact hus
  | cons t ts ih =>
    exact Valid.cons (hts t List.mem_cons_self) (ih fun t ht => hts t (List.mem_cons_of_mem _ ht))

/-- Every start is the start of a valid list. -/
def Startable (F : Frame ω μ τ χ ε) (Q : Assertion ω μ) : Prop :=
  ∀ w m, F.invariant w → F.guard.start w m →
    F.Valid (fun w' m' => w' = w ∧ m' = m) (F.engine.main m) Q

variable {es : List (Event μ χ ε)}

/-- Along every allowed run from a world with the invariant, whatever processes are
started, stopped and retried, the invariant holds, and every process that finishes
does so with `Q`. -/
theorem Startable.run (h : F.Startable Q) {w : ω} (hw : F.invariant w)
    (hrun : F.engine.run ⟨w, none⟩ es = some c)
    (hmeets : F.engine.Meets F.guard ⟨w, none⟩ es) :
    F.invariant c.world ∧ ∀ p, c.process = some p → p.todo = [] → Q c.world p.memory := by
  have hsound : F.Sound Q c := by
    refine run_invariant F.engine F.guard (fun c e c' hc hallow hstep => ?_) hrun hmeets
      (sound_idle hw)
    cases e with
    | start m =>
      rw [step_start hstep]
      exact h c.world m hc.invariant hallow c.world 0 m ⟨rfl, rfl⟩
    | attempt choice => exact hc.step hstep hallow trivial
    | stop => exact hc.step hstep hallow trivial
    | env e => exact hc.step hstep hallow trivial
  exact hsound [] c trivial rfl trivial

/-- The last process of a history that ends with `Q` does so whatever happened before it
was started. -/
theorem Startable.last_run (h : F.Startable Q) (hinv : F.invariant c.world) {m : μ}
    (hns : NoStart es) (hrun : F.engine.run c (.start m :: es) = some c')
    (hmeets : F.engine.Meets F.guard c (.start m :: es)) :
    F.invariant c'.world ∧ ∀ p, c'.process = some p → p.todo = [] → Q c'.world p.memory := by
  obtain ⟨d, hd, hrest⟩ := Option.bind_eq_some_iff.mp hrun
  have hmeets' := hmeets.tail hd
  rw [step_start hd] at hrest hmeets'
  exact h c.world m hinv hmeets.1 c.world 0 m ⟨rfl, rfl⟩ es c' hns hrest hmeets'

end Frame

end KubeOne.Process
