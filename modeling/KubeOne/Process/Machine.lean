import Mathlib.Data.List.Basic

/-! A machine that works through a list of tasks. A task is attempted until it succeeds or its
retries are used up, the process can be stopped between any two attempts, and the environment acts
on the world at any time. The memory of the process is lost when it ends. A task can put further
tasks in front of the remaining ones. -/

namespace KubeOne.Process

variable {ω μ τ χ ε : Type*}

/-- The end of one attempt. An aborted process ends without a retry. -/
inductive Outcome (τ : Type*) where
  | done (more : List τ)
  | failed
  | aborted

/-- Tasks `τ` over a world `ω` and a memory `μ`. What an attempt meets in the world
beyond its state is the choice `χ`. -/
structure Engine (ω μ τ χ ε : Type*) where
  retries : τ → ℕ
  predicate : τ → ω → μ → Bool
  exec : τ → χ → ω → μ → ω × μ × Outcome τ
  env : ε → ω → ω
  main : μ → List τ

/-- A running process: the tasks left, the failed attempts at the first of them,
and the memory. A process without tasks has finished. -/
structure Running (μ τ : Type*) where
  todo : List τ
  tries : ℕ
  memory : μ

structure Machine (ω μ τ : Type*) where
  world : ω
  process : Option (Running μ τ)

inductive Event (μ χ ε : Type*) where
  | start (memory : μ)
  | attempt (choice : χ)
  | stop
  | env (e : ε)

variable {c c' : Machine ω μ τ}

namespace Engine

variable (E : Engine ω μ τ χ ε)

/-- The machine after an attempt at the task `t`. -/
def conclude (t : τ) (ts : List τ) (tries : ℕ) : ω × μ × Outcome τ → Machine ω μ τ
  | (w, m, .done more) => ⟨w, some ⟨more ++ ts, 0, m⟩⟩
  | (w, m, .failed) =>
    if tries + 1 < E.retries t then ⟨w, some ⟨t :: ts, tries + 1, m⟩⟩ else ⟨w, none⟩
  | (w, _, .aborted) => ⟨w, none⟩

/-- One event; a process only starts when none is at work. -/
def step (c : Machine ω μ τ) : Event μ χ ε → Option (Machine ω μ τ)
  | .start m =>
    match c.process with
    | some ⟨_ :: _, _, _⟩ => none
    | _ => some ⟨c.world, some ⟨E.main m, 0, m⟩⟩
  | .attempt choice =>
    match c.process with
    | some ⟨t :: ts, tries, m⟩ =>
      if E.predicate t c.world m then
        some (E.conclude t ts tries (E.exec t choice c.world m))
      else some ⟨c.world, some ⟨ts, 0, m⟩⟩
    | _ => none
  | .stop => some ⟨c.world, none⟩
  | .env e => some ⟨E.env e c.world, c.process⟩

variable {E} in
theorem step_start {m : μ} (h : E.step c (.start m : Event μ χ ε) = some c') :
    c' = ⟨c.world, some ⟨E.main m, 0, m⟩⟩ := by
  simp only [step] at h
  split at h
  · cases h
  · exact (Option.some.inj h).symm

def run (c : Machine ω μ τ) : List (Event μ χ ε) → Option (Machine ω μ τ)
  | [] => some c
  | e :: es => (E.step c e).bind fun c' => run c' es

end Engine

/-- A condition on the runs to start and on the attempts to make. -/
structure Guard (ω μ τ χ : Type*) where
  start : ω → μ → Prop
  attempt : τ → χ → ω → μ → Prop

def Guard.Allows (G : Guard ω μ τ χ) (c : Machine ω μ τ) : Event μ χ ε → Prop
  | .start m => G.start c.world m
  | .attempt choice =>
    match c.process with
    | some ⟨t :: _, _, m⟩ => G.attempt t choice c.world m
    | _ => True
  | _ => True

variable {es : List (Event μ χ ε)}

namespace Engine

variable (E : Engine ω μ τ χ ε) (G : Guard ω μ τ χ)

/-- Every event of the list meets the condition when it happens. -/
def Meets (c : Machine ω μ τ) : List (Event μ χ ε) → Prop
  | [] => True
  | e :: es => G.Allows c e ∧
    match E.step c e with
    | some c' => Meets c' es
    | none => True

variable {E G} in
theorem Meets.tail {e : Event μ χ ε} (h : E.Meets G c (e :: es)) (hstep : E.step c e = some c') :
    E.Meets G c' es := by
  have hrest := h.2
  rwa [hstep] at hrest

variable {E G} in
theorem Meets.of_step {e : Event μ χ ε} (hallow : G.Allows c e) (hstep : E.step c e = some c')
    (hrest : E.Meets G c' es) : E.Meets G c (e :: es) := by
  refine ⟨hallow, ?_⟩
  rwa [hstep]

instance decidableAllows [∀ w m, Decidable (G.start w m)]
    [∀ t choice w m, Decidable (G.attempt t choice w m)] (c : Machine ω μ τ) :
    ∀ e : Event μ χ ε, Decidable (G.Allows c e)
  | .start _ => inferInstanceAs (Decidable (G.start _ _))
  | .attempt choice =>
    match c with
    | ⟨w, some ⟨t :: _, _, m⟩⟩ => inferInstanceAs (Decidable (G.attempt t choice w m))
    | ⟨_, some ⟨[], _, _⟩⟩ => isTrue trivial
    | ⟨_, none⟩ => isTrue trivial
  | .stop => isTrue trivial
  | .env _ => isTrue trivial

instance decidableMeets [∀ w m, Decidable (G.start w m)]
    [∀ t choice w m, Decidable (G.attempt t choice w m)] :
    ∀ (es : List (Event μ χ ε)) (c : Machine ω μ τ), Decidable (E.Meets G c es)
  | [], _ => isTrue trivial
  | e :: es, c =>
    have : Decidable (match E.step c e with | some c' => E.Meets G c' es | none => True) :=
      match E.step c e with
      | some c' => decidableMeets es c'
      | none => isTrue trivial
    inferInstanceAs (Decidable (_ ∧ _))

/-- A property that every allowed event keeps holds along every allowed run. -/
theorem run_invariant {P : Machine ω μ τ → Prop}
    (hstep : ∀ c e c', P c → G.Allows c e → E.step c e = some c' → P c')
    (hrun : E.run c es = some c') (hmeets : E.Meets G c es) (hP : P c) : P c' := by
  induction es generalizing c with
  | nil =>
    cases hrun
    exact hP
  | cons e es ih =>
    obtain ⟨d, hd, hrest⟩ := Option.bind_eq_some_iff.mp hrun
    exact ih hrest (hmeets.tail hd) (hstep c e d hP hmeets.1 hd)

end Engine

end KubeOne.Process
