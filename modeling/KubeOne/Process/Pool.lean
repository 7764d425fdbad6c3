import KubeOne.Collections.Assoc

/-! A pool of workers. At most a limit of the jobs are under way; a job sends requests, each of
which is one step on the shared state. The first rule proves the results from what a single
request does, for every limit and interleaving. The second says that the jobs in turn are a run
under every limit. -/

namespace KubeOne.Process

open List

/-- The jobs that wait, and those that have been started with their state or their result. -/
structure Pool (σ α β : Type*) where
  shared : σ
  queue : List α
  slots : List (α ⊕ β)

namespace Pool

inductive Event (χ : Type*) where
  | start
  | request (i : ℕ) (choice : χ)

variable {σ α β χ γ : Type*}

def inFlight (p : Pool σ α β) : ℕ := p.slots.countP Sum.isLeft

section Run

variable (request : χ → α → σ → σ × (α ⊕ β)) (limit : ℕ)

/-- An event that is not possible changes nothing. -/
def step (p : Pool σ α β) : Event χ → Pool σ α β
  | .start =>
    match p.queue with
    | [] => p
    | a :: queue =>
      if p.inFlight < limit then { p with queue := queue, slots := p.slots ++ [.inl a] } else p
  | .request i choice =>
    match p.slots[i]? with
    | some (.inl a) =>
      { p with
        shared := (request choice a p.shared).1
        slots := p.slots.set i (request choice a p.shared).2 }
    | _ => p

def run (p : Pool σ α β) (es : List (Event χ)) : Pool σ α β := es.foldl (step request limit) p

end Run

/-- The results, once every job has one. -/
def results (p : Pool σ α β) : Option (List β) :=
  if p.queue.isEmpty && p.slots.all Sum.isRight then some (p.slots.filterMap Sum.getRight?)
  else none

/-- What a request does to the assertion `A` about a job and its slot: it keeps the invariant
and takes the assertion of its own job along, and it keeps the assertions of all others. -/
structure Contract (request : χ → α → σ → σ × (α ⊕ β)) (I : σ → Prop) (A : γ → σ → α ⊕ β → Prop) :
    Prop where
  invariant : ∀ choice g a s, I s → A g s (.inl a) → I (request choice a s).1
  own : ∀ choice g a s, I s → A g s (.inl a) → A g (request choice a s).1 (request choice a s).2
  others : ∀ choice g a s g' x, I s → A g s (.inl a) → A g' s x → A g' (request choice a s).1 x

variable {gs : List γ}

theorem forall₂_set {δ : Type*} {R R' : γ → δ → Prop} {xs : List δ}
    (h : List.Forall₂ R gs xs) (himp : ∀ g z, R g z → R' g z) {i : ℕ} {x y : δ}
    (hx : xs[i]? = some x) (hy : ∀ g, R g x → R' g y) : List.Forall₂ R' gs (xs.set i y) := by
  induction h generalizing i with
  | nil => exact .nil
  | cons hhead htail ih =>
    cases i with
    | zero =>
      obtain rfl := Option.some.inj hx
      exact .cons (hy _ hhead) (htail.imp himp)
    | succ i => exact .cons (himp _ _ hhead) (ih hx)

variable {request : χ → α → σ → σ × (α ⊕ β)} {limit : ℕ} {I : σ → Prop}
  {A : γ → σ → α ⊕ β → Prop} {gs : List γ}

/-- The invariant, and the assertion for every job, started or not. -/
def Holds (I : σ → Prop) (A : γ → σ → α ⊕ β → Prop) (gs : List γ) (p : Pool σ α β) : Prop :=
  I p.shared ∧ List.Forall₂ (fun g x => A g p.shared x) gs (p.slots ++ p.queue.map .inl)

variable {p : Pool σ α β}

theorem Holds.step (hc : Contract request I A) (hp : Holds I A gs p)
    (e : Event χ) : Holds I A gs (p.step request limit e) := by
  cases e with
  | start =>
    rcases hq : p.queue with _ | ⟨a, queue⟩
    · simpa only [Pool.step, hq] using hp
    · by_cases hlimit : p.inFlight < limit
      · simp only [Pool.step, hq, hlimit, if_true]
        refine ⟨hp.1, ?_⟩
        have hslots := hp.2
        rw [hq] at hslots
        simpa using hslots
      · simpa only [Pool.step, hq, hlimit, if_false] using hp
  | request i choice =>
    rcases hi : p.slots[i]? with _ | (a | b)
    · simpa only [Pool.step, hi] using hp
    · have hlt : i < p.slots.length := (List.getElem?_eq_some_iff.mp hi).1
      have hx : (p.slots ++ p.queue.map Sum.inl)[i]? = some (.inl a) := by
        rw [List.getElem?_append_left hlt, hi]
      obtain ⟨g, -, hg⟩ := Collections.forall₂_mem_left hp.2.flip (mem_of_getElem? hx)
      have hset := forall₂_set hp.2 (fun g' z => hc.others choice g a p.shared g' z hp.1 hg) hx
        (fun g' hg' => hc.own choice g' a p.shared hp.1 hg')
      rw [set_append_left _ _ hlt] at hset
      simp only [Pool.step, hi]
      exact ⟨hc.invariant choice g a p.shared hp.1 hg, hset⟩
    · simpa only [Pool.step, hi] using hp

/-- Under a contract the assertions hold along every run. -/
theorem Holds.run (hc : Contract request I A) (hp : Holds I A gs p)
    (es : List (Event χ)) : Holds I A gs (p.run request limit es) := by
  induction es generalizing p with
  | nil => exact hp
  | cons e es ih => exact ih (hp.step hc e)

theorem slots_of_isRight {slots : List (α ⊕ β)} (h : slots.all Sum.isRight = true) :
    slots = (slots.filterMap Sum.getRight?).map .inr := by
  induction slots with
  | nil => rfl
  | cons x slots ih =>
    obtain ⟨hx, htail⟩ := Bool.and_eq_true_iff.mp h
    cases x with
    | inl a => cases hx
    | inr b => simpa using ih htail

variable {bs : List β}

/-- The results of a run, in the order of the jobs. -/
theorem Holds.results (hp : Holds I A gs p) (hbs : p.results = some bs) :
    List.Forall₂ (fun g b => A g p.shared (.inr b)) gs bs := by
  unfold Pool.results at hbs
  split_ifs at hbs with hdone
  obtain ⟨hqueue, hall⟩ := Bool.and_eq_true_iff.mp hdone
  obtain rfl := Option.some.inj hbs
  have hslots := hp.2
  rw [isEmpty_iff.mp hqueue, map_nil, append_nil, slots_of_isRight hall,
    forall₂_map_right_iff] at hslots
  exact hslots

section Trace

variable {ω : Type*} (observe : χ → α → σ → List ω)

def observed (p : Pool σ α β) : Event χ → List ω
  | .start => []
  | .request i choice =>
    match p.slots[i]? with
    | some (.inl a) => observe choice a p.shared
    | _ => []

variable (request limit) in

/-- What is observed at the requests of a run. -/
def trace (p : Pool σ α β) : List (Event χ) → List ω
  | [] => []
  | e :: es => p.observed observe e ++ trace (p.step request limit e) es

end Trace

section Solo

variable (request)

def solo : List χ → α → σ → σ × (α ⊕ β)
  | [], a, s => (s, .inl a)
  | choice :: choices, a, s =>
    match request choice a s with
    | (s', .inl a') => solo choices a' s'
    | (s', .inr b) => (s', .inr b)

/-- Each job ends before the next one starts. -/
inductive InTurn : List α → σ → σ → List β → Prop
  | nil (s : σ) : InTurn [] s s []
  | cons {choices : List χ} {a : α} {as : List α} {s s₁ s' : σ} {b : β} {bs : List β}
      (first : solo request choices a s = (s₁, .inr b)) (rest : InTurn as s₁ s' bs) :
      InTurn (a :: as) s s' (b :: bs)

end Solo

variable {s : σ}

/-- A property that every request keeps holds when the job is alone. -/
theorem solo_invariant {P : σ → α ⊕ β → Prop}
    (hstep : ∀ choice a s, P s (.inl a) → P (request choice a s).1 (request choice a s).2)
    (choices : List χ) {a : α} (h : P s (.inl a)) :
    P (solo request choices a s).1 (solo request choices a s).2 := by
  induction choices generalizing a s with
  | nil => exact h
  | cons choice choices ih =>
    have hnext := hstep choice a s h
    rcases hout : request choice a s with ⟨s₁, a₁ | b⟩
    · rw [hout] at hnext
      simpa only [solo, hout] using ih hnext
    · simpa only [solo, hout] using hnext

variable {choices : List χ}

theorem solo_snoc {a a' : α} {s s' : σ}
    (h : solo request choices a s = (s', .inl a')) (choice : χ) :
    solo request (choices ++ [choice]) a s = request choice a' s' := by
  induction choices generalizing a s with
  | nil =>
    cases h
    rcases hnext : request choice a' s' with ⟨s₁, a₁ | b⟩ <;> simp [solo, hnext]
  | cons first choices ih =>
    rcases hnext : request first a s with ⟨s₁, a₁ | b⟩
    · simp only [solo, hnext, cons_append] at h ⊢
      exact ih h
    · simp [solo, hnext] at h

variable {as : List α}

theorem InTurn.snoc {s s₁ s' : σ} (h : InTurn request as s s₁ bs) {a : α} {b : β}
    (hlast : solo request choices a s₁ = (s', .inr b)) :
    InTurn request (as ++ [a]) s s' (bs ++ [b]) := by
  induction h with
  | nil s => exact .cons hlast (.nil s')
  | cons first _ ih => exact .cons first (ih hlast)

variable (request limit) in
/-- The requests of one job do not touch the slots around it. -/
theorem run_requests (choices : List χ) (a : α) (s : σ) (queue : List α)
    (before after : List (α ⊕ β)) :
    run request limit ⟨s, queue, before ++ .inl a :: after⟩
        (choices.map (.request before.length)) =
      ⟨(solo request choices a s).1, queue, before ++ (solo request choices a s).2 :: after⟩ := by
  have hidle : ∀ (choices : List χ) (s : σ) (b : β),
      run request limit ⟨s, queue, before ++ .inr b :: after⟩
          (choices.map (.request before.length)) =
        ⟨s, queue, before ++ .inr b :: after⟩ := by
    intro choices s b
    induction choices with
    | nil => rfl
    | cons choice choices ih => simpa [run, step] using ih
  induction choices generalizing a s with
  | nil => rfl
  | cons choice choices ih =>
    rcases hnext : request choice a s with ⟨s₁, a₁ | b⟩
    · simpa [run, step, solo, hnext] using ih a₁ s₁
    · simpa [run, step, solo, hnext] using hidle choices s₁ b

theorem filterMap_getRight? (bs : List β) :
    (bs.map (Sum.inr : β → α ⊕ β)).filterMap Sum.getRight? = bs := by
  rw [filterMap_map]
  exact filterMap_some

theorem results_map_inr (s : σ) (bs : List β) :
    (⟨s, [], bs.map .inr⟩ : Pool σ α β).results = some bs := by
  have hall : (bs.map (Sum.inr : β → α ⊕ β)).all Sum.isRight = true := by simp
  simp only [results, hall, isEmpty_nil, Bool.and_self, if_true, filterMap_getRight?]

theorem run_append (p : Pool σ α β) (es es' : List (Event χ)) :
    p.run request limit (es ++ es') = (p.run request limit es).run request limit es' :=
  foldl_append

/-- Jobs in turn are a run, next to other jobs that are under way. -/
theorem InTurn.run {s s' : σ} (h : InTurn request as s s' bs)
    (queue : List α) {slots : List (α ⊕ β)} (hlimit : slots.countP Sum.isLeft < limit) :
    ∃ es, Pool.run request limit ⟨s, as ++ queue, slots⟩ es =
      ⟨s', queue, slots ++ bs.map .inr⟩ := by
  induction h generalizing slots with
  | nil s => exact ⟨[], by simp [Pool.run]⟩
  | @cons choices a as s s₁ s' b bs first rest ih =>
    have hlimit' : (slots ++ [Sum.inr b]).countP Sum.isLeft < limit := by simpa using hlimit
    obtain ⟨es, hes⟩ := ih hlimit'
    have hturn : Pool.run request limit ⟨s, a :: as ++ queue, slots⟩
        (.start :: choices.map (.request slots.length)) = ⟨s₁, as ++ queue, slots ++ [.inr b]⟩ := by
      have hrequests := run_requests request limit choices a s (as ++ queue) slots []
      rw [first] at hrequests
      simpa [Pool.run, step, inFlight, hlimit] using hrequests
    refine ⟨(.start :: choices.map (.request slots.length)) ++ es, ?_⟩
    rw [run_append, hturn, hes]
    simp

/-- With more than one worker a job can wait for all jobs behind it. -/
theorem InTurn.run_waiting {as as' : List α} {a : α} {s s₁ s₂ s' : σ} {bs bs' : List β} {b : β}
    (hbefore : InTurn request as s s₁ bs) (hafter : InTurn request as' s₁ s₂ bs')
    (hlast : solo request choices a s₂ = (s', .inr b)) (hlimit : 1 < limit) :
    ∃ es, Pool.run request limit ⟨s, as ++ a :: as', []⟩ es =
      ⟨s', [], (bs ++ b :: bs').map .inr⟩ := by
  have hempty : ([] : List (α ⊕ β)).countP Sum.isLeft < limit := by
    rw [countP_nil]
    omega
  obtain ⟨es₁, hes₁⟩ := hbefore.run (a :: as') hempty
  have hidle : (bs.map (Sum.inr : β → α ⊕ β)).countP Sum.isLeft = 0 := by
    simp [countP_eq_zero]
  have hstart : Pool.run request limit ⟨s₁, a :: as', bs.map .inr⟩ [.start] =
      ⟨s₁, as', bs.map .inr ++ [.inl a]⟩ := by
    have hfree : 0 < limit := by omega
    simp [Pool.run, step, inFlight, hidle, hfree]
  have hone : (bs.map (Sum.inr : β → α ⊕ β) ++ [Sum.inl a]).countP Sum.isLeft < limit := by
    rw [countP_append, hidle]
    simpa using hlimit
  obtain ⟨es₂, hes₂⟩ := hafter.run [] hone
  have hrequests := run_requests request limit choices a s₂ [] (bs.map .inr) (bs'.map .inr)
  rw [hlast] at hrequests
  refine ⟨es₁ ++ [.start] ++ es₂ ++
    choices.map (.request (bs.map (Sum.inr : β → α ⊕ β)).length), ?_⟩
  rw [append_nil] at hes₂
  rw [run_append, run_append, run_append, hes₁, nil_append, hstart, hes₂, append_assoc,
    singleton_append, hrequests, map_append, map_cons]

/-- The jobs `as` in turn, with the next of them under way or not. -/
def Sequential (request : χ → α → σ → σ × (α ⊕ β)) (as : List α) (s : σ) (p : Pool σ α β) : Prop :=
  ∃ done bs s₁, InTurn request done s s₁ bs ∧
    (as = done ++ p.queue ∧ p.slots = bs.map .inr ∧ p.shared = s₁ ∨
      ∃ a choices a', as = done ++ a :: p.queue ∧ p.slots = bs.map .inr ++ [.inl a'] ∧
        solo request choices a s₁ = (p.shared, .inl a'))

theorem Sequential.step (h : Sequential request as s p)
    (e : Event χ) : Sequential request as s (p.step request 1 e) := by
  obtain ⟨shared, queue, slots⟩ := p
  obtain ⟨done, bs, s₁, hdone, ⟨has, hslots, hshared⟩ | ⟨a, choices, a', has, hslots, hsolo⟩⟩ := h
  · subst hslots hshared
    cases e with
    | start =>
      cases queue with
      | nil => exact ⟨done, bs, shared, hdone, .inl ⟨has, rfl, rfl⟩⟩
      | cons a queue =>
        refine ⟨done, bs, shared, hdone, .inr ⟨a, [], a, ?_, ?_, ?_⟩⟩
        · simpa [Pool.step, inFlight, countP_eq_zero] using has
        · simp [Pool.step, inFlight, countP_eq_zero]
        · simp [Pool.step, inFlight, countP_eq_zero, solo]
    | request i choice =>
      have hidle : Pool.step request 1 ⟨shared, queue, bs.map .inr⟩ (.request i choice) =
          ⟨shared, queue, bs.map .inr⟩ := by
        rcases hi : bs[i]? with _ | b <;> simp [Pool.step, hi]
      rw [hidle]
      exact ⟨done, bs, shared, hdone, .inl ⟨has, rfl, rfl⟩⟩
  · subst hslots
    have hbusy : ∀ e, Pool.step request 1 ⟨shared, queue, bs.map .inr ++ [.inl a']⟩ e =
        ⟨shared, queue, bs.map .inr ++ [.inl a']⟩ →
        Sequential request as s
          (Pool.step request 1 ⟨shared, queue, bs.map .inr ++ [.inl a']⟩ e) := by
      intro e h
      rw [h]
      exact ⟨done, bs, s₁, hdone, .inr ⟨a, choices, a', has, rfl, hsolo⟩⟩
    cases e with
    | start =>
      apply hbusy
      cases queue <;> simp [Pool.step, inFlight]
    | request i choice =>
      rcases Nat.lt_trichotomy i bs.length with hlt | rfl | hgt
      · apply hbusy
        have hin : (bs.map Sum.inr ++ [Sum.inl a'])[i]? = some (.inr bs[i]) := by
          rw [getElem?_append_left (by simpa using hlt)]
          simp [hlt]
        simp [Pool.step, hin]
      · have hnext := solo_snoc hsolo choice
        have hstep : Pool.step request 1 ⟨shared, queue, bs.map .inr ++ [.inl a']⟩
            (.request bs.length choice) = ⟨(request choice a' shared).1, queue,
              bs.map .inr ++ [(request choice a' shared).2]⟩ := by
          simp [Pool.step]
        rw [hstep]
        rcases hout : request choice a' shared with ⟨s₂, a₂ | b⟩
        · rw [hout] at hnext
          exact ⟨done, bs, s₁, hdone, .inr ⟨a, _, a₂, has, rfl, hnext⟩⟩
        · rw [hout] at hnext
          refine ⟨done ++ [a], bs ++ [b], s₂, hdone.snoc hnext, .inl ⟨?_, ?_, rfl⟩⟩
          · simpa using has
          · simp
      · apply hbusy
        have hout : (bs.map Sum.inr ++ [Sum.inl a'])[i]? = none := by
          rw [getElem?_eq_none_iff]
          simp
          omega
        simp [Pool.step, hout]

theorem Sequential.run (h : Sequential request as s p)
    (es : List (Event χ)) : Sequential request as s (p.run request 1 es) := by
  induction es generalizing p with
  | nil => exact h
  | cons e es ih => exact ih (h.step e)

/-- With a single worker the results are those of the jobs in turn. -/
theorem inTurn_of_results {es : List (Event χ)}
    (h : (Pool.run request 1 ⟨s, as, []⟩ es).results = some bs) :
    InTurn request as s (Pool.run request 1 ⟨s, as, []⟩ es).shared bs := by
  have hstart : Sequential request as s ⟨s, as, []⟩ := ⟨[], [], s, .nil s, .inl ⟨rfl, rfl, rfl⟩⟩
  obtain ⟨done, bs', s₁, hdone, hnow⟩ := hstart.run es
  unfold Pool.results at h
  split_ifs at h with hall
  obtain ⟨hqueue, hslots⟩ := Bool.and_eq_true_iff.mp hall
  rcases hnow with ⟨has, hright, hshared⟩ | ⟨a, choices, a', -, hleft, -⟩
  · rw [isEmpty_iff.mp hqueue, append_nil] at has
    rw [hright] at h
    have hbs : bs' = bs := by
      rw [filterMap_getRight?] at h
      exact Option.some.inj h
    rw [hshared, has, ← hbs]
    exact hdone
  · rw [hleft] at hslots
    simp at hslots

end Pool

end KubeOne.Process
