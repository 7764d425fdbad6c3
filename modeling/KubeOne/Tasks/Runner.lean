import KubeOne.Process.Attempts
import KubeOne.Process.Pool

/-! How tasks are run. A task on nodes has a goroutine for each of them, on a shared state and
with a shared list of errors. A task as a whole is tried again until it succeeds, up to a number
of times. -/

namespace KubeOne.Tasks

open Process

inductive ErrorKind
  | ssh
  | runtime
  | config
  | kubeClient
  | etcd
  | wrap
  deriving DecidableEq

inductive Failure
  | new (text : String)
  | wrapped (kind : ErrorKind) (op : String) (err : Failure)
  deriving DecidableEq

def quote (s : String) : String := "\"" ++ s ++ "\""

/-- The task on a node under way, or its error before it stands in the shared list. -/
inductive Goroutine (α : Type*) where
  | task (publicAddress : String) (a : α)
  | record (err : Failure)

section Nodes

variable {σ α χ γ : Type*}

def nodeError (publicAddress : String) (err : Failure) : Failure :=
  .wrapped .runtime ("running task on " ++ quote publicAddress) err

/-- A task starts with the connection to its node. -/
def runTask (publicAddress : String) : Except Failure α → Goroutine α
  | .error err => .record (nodeError publicAddress err)
  | .ok a => .task publicAddress a

/-- One step of a goroutine. The shared list is locked for each error. -/
def Goroutine.step (request : χ → α → σ → σ × (α ⊕ Option Failure)) (choice : χ) :
    Goroutine α → σ × List Failure → (σ × List Failure) × (Goroutine α ⊕ Unit)
  | .task publicAddress a, (s, aggregateErrs) =>
    match request choice a s with
    | (s', .inl a') => ((s', aggregateErrs), .inl (.task publicAddress a'))
    | (s', .inr none) => ((s', aggregateErrs), .inr ())
    | (s', .inr (some err)) =>
      ((s', aggregateErrs), .inl (.record (nodeError publicAddress (.wrapped .runtime "" err))))
  | .record err, (s, aggregateErrs) => ((s, aggregateErrs ++ [err]), .inr ())

/-- Every node has a goroutine, so none has to wait for another one. The run is stopped where the
events end before all goroutines do. -/
def runTaskOnNodes (request : χ → α → σ → σ × (α ⊕ Option Failure))
    (nodes : List (String × Except Failure α)) (events : List (Pool.Event χ)) :
    Stage σ Failure := fun s =>
  let p := Pool.run (Goroutine.step request) nodes.length
    ⟨(s, []), nodes.map fun node => runTask node.1 node.2, []⟩ events
  match p.results with
  | none => (p.shared.1, .stopped)
  | some _ => (p.shared.1, if p.shared.2 = [] then .success else .failed p.shared.2)

/-- What a step of a task does to the assertion `A` about the task: it keeps the invariant, takes
its own assertion along as long as it does not fail, and keeps the assertions of all others. -/
structure TaskContract (request : χ → α → σ → σ × (α ⊕ Option Failure)) (I : σ → Prop)
    (A : γ → σ → α ⊕ Unit → Prop) : Prop where
  invariant : ∀ choice g a s, I s → A g s (.inl a) → I (request choice a s).1
  next : ∀ choice g a a' s s', I s → A g s (.inl a) → request choice a s = (s', .inl a') →
    A g s' (.inl a')
  done : ∀ choice g a s s', I s → A g s (.inl a) → request choice a s = (s', .inr none) →
    A g s' (.inr ())
  others : ∀ choice g a s g' x, I s → A g s (.inl a) → A g' s x → A g' (request choice a s).1 x

/-- The assertion about a goroutine. Its task has not been done if there is an error. -/
def Goroutine.Holds (A : γ → σ → α ⊕ Unit → Prop) (g : γ) (s : σ × List Failure) :
    Goroutine α ⊕ Unit → Prop
  | .inl (.task _ a) => A g s.1 (.inl a)
  | .inl (.record _) => True
  | .inr () => A g s.1 (.inr ()) ∨ s.2 ≠ []

variable {request : χ → α → σ → σ × (α ⊕ Option Failure)} {I : σ → Prop}
  {A : γ → σ → α ⊕ Unit → Prop}

open Goroutine

theorem TaskContract.pool (hc : TaskContract request I A) :
    Pool.Contract (step request) (fun s => I s.1) (Holds A) where
  invariant := by
    rintro choice g (⟨addr, a⟩ | err) ⟨s, errs⟩ hI hA
    · have hnext := hc.invariant choice g a s hI hA
      rcases hout : request choice a s with ⟨s', a' | _ | err⟩ <;> rw [hout] at hnext <;>
        simpa only [step, hout] using hnext
    · exact hI
  own := by
    rintro choice g (⟨addr, a⟩ | err) ⟨s, errs⟩ hI hA
    · rcases hout : request choice a s with ⟨s', a' | _ | err⟩ <;>
        simp only [step, hout, Holds]
      · exact hc.next choice g a a' s s' hI hA hout
      · exact .inl (hc.done choice g a s s' hI hA hout)
    · simp [step, Holds]
  others := by
    rintro choice g (⟨addr, a⟩ | err) ⟨s, errs⟩ g' x hI hA hx
    · have hkept : ∀ y, A g' s y → A g' (request choice a s).1 y := fun y hy =>
        hc.others choice g a s g' y hI hA hy
      have hstep : (step request choice (.task addr a) (s, errs)).1 =
          ((request choice a s).1, errs) := by
        rcases hout : request choice a s with ⟨s', a' | _ | err⟩ <;>
          simp only [step, hout]
      rw [hstep]
      rcases x with (⟨_, b⟩ | _) | _
      · exact hkept _ hx
      · trivial
      · exact hx.imp_left (hkept _)
    · rcases x with (⟨_, b⟩ | _) | _
      · exact hx
      · trivial
      · exact hx.imp_right fun _ => by simp [step]

theorem TaskContract.carry (hc : TaskContract request I A) (gs : List γ) :
    TaskContract request (fun s => I s ∧ ∀ g ∈ gs, A g s (.inr ())) A where
  invariant choice g a s h hA := ⟨hc.invariant choice g a s h.1 hA,
    fun g' hg' => hc.others choice g a s g' _ h.1 hA (h.2 g' hg')⟩
  next choice g a a' s s' h hA hstep := hc.next choice g a a' s s' h.1 hA hstep
  done choice g a s s' h hA hstep := hc.done choice g a s s' h.1 hA hstep
  others choice g a s g' x h hA hx := hc.others choice g a s g' x h.1 hA hx

variable {gs : List γ} {nodes : List (String × Except Failure α)} {events : List (Pool.Event χ)}
  {s s' : σ}

variable (hc : TaskContract request I A) (hI : I s)
  (hnodes : List.Forall₂ (fun g node => ∀ a, node.2 = .ok a → A g s (.inl a)) gs nodes)

include hc hI hnodes

theorem TaskContract.run (events : List (Pool.Event χ)) :
    Pool.Holds (fun s => I s.1) (Holds A) gs
      (Pool.run (step request) nodes.length
        ⟨(s, []), nodes.map fun node => runTask node.1 node.2, []⟩ events) := by
  refine Pool.Holds.run hc.pool ⟨hI, ?_⟩ events
  simp only [List.nil_append, List.map_map, List.forall₂_map_right_iff]
  refine hnodes.imp ?_
  rintro g ⟨addr, err | a⟩ hA
  · trivial
  · exact hA a rfl

theorem runTaskOnNodes_invariant {status : Status Failure}
    (hs : runTaskOnNodes request nodes events s = (s', status)) :
    I s' := by
  have hrun := (hc.run hI hnodes events).1
  simp only [runTaskOnNodes] at hs
  split at hs
  · exact (Prod.mk.inj hs).1 ▸ hrun
  · exact (Prod.mk.inj hs).1 ▸ hrun

theorem runTaskOnNodes_success (hs : runTaskOnNodes request nodes events s = (s', .success)) :
    ∀ g ∈ gs, A g s' (.inr ()) := by
  have hrun := hc.run hI hnodes events
  simp only [runTaskOnNodes] at hs
  split at hs
  · cases congrArg Prod.snd hs
  · rename_i bs hbs
    obtain ⟨hstate, hstatus⟩ := Prod.mk.inj hs
    split_ifs at hstatus with herrs
    intro g hg
    obtain ⟨b, -, hb⟩ := Collections.forall₂_mem_left (hrun.results hbs) hg
    rw [← hstate]
    exact hb.resolve_right fun hne => hne herrs

end Nodes

namespace Task

variable {σ χ : Type*}

/-- A task without a number of retries has ten attempts. -/
def run (retries : ℕ) (fn : χ → Stage σ Failure) (surroundings : ℕ → χ) : Stage σ Failure :=
  Stage.retryFailed fn (if retries = 0 then 10 else retries) .success surroundings

def attempts (retries : ℕ) (fn : χ → Stage σ Failure) (surroundings : ℕ → χ) : σ → List (σ × χ) :=
  Stage.attempts fn (if retries = 0 then 10 else retries) surroundings

variable {fn : χ → Stage σ Failure} {retries : ℕ} {surroundings : ℕ → χ} {s s' : σ}

theorem run_invariant {J : List (σ × χ) → σ → Prop}
    (hstep : ∀ past s x, J past s → J (past ++ [(s, x)]) (fn x s).1) (h : J [] s) :
    J (attempts retries fn surroundings s) (run retries fn surroundings s).1 := by
  have hall := Stage.retryFailed_invariant hstep (if retries = 0 then 10 else retries) .success
    surroundings h
  rwa [List.nil_append] at hall

theorem run_of_success (retries : ℕ) (h : fn (surroundings 0) s = (s', .success)) :
    run retries fn surroundings s = (s', .success) ∧
      attempts retries fn surroundings s = [] ++ [(s, surroundings 0)] := by
  obtain ⟨n, hn⟩ : ∃ n, (if retries = 0 then 10 else retries) = n + 1 :=
    Nat.exists_eq_succ_of_ne_zero (by split_ifs <;> omega)
  simp only [run, attempts, hn, Stage.retryFailed, Stage.attempts, h, List.nil_append, and_self]

theorem last_success (h : run retries fn surroundings s = (s', .success))
    {past : List (σ × χ)} {t : σ} {x : χ}
    (hlast : attempts retries fn surroundings s = past ++ [(t, x)]) : fn x t = (s', .success) := by
  have hne : (if retries = 0 then 10 else retries) ≠ 0 := by split_ifs <;> omega
  obtain ⟨past', t', x', hmade, hsuccess⟩ := Stage.exists_of_retryFailed_success h (.inl hne)
  obtain ⟨-, hpair⟩ := List.append_inj' (hmade.symm.trans hlast) rfl
  obtain ⟨rfl, rfl⟩ := Prod.mk.inj (List.singleton_inj.mp hpair)
  exact hsuccess

end Task

end KubeOne.Tasks
