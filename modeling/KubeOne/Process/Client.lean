import Mathlib.Init

/-! Clients of a service. A client sends requests one after the other, and can be stopped after
any of them. A service says which answers are possible in a state, and how the state changes. If
each run sends only requests that are allowed when they are sent, and these keep an invariant, the
invariant holds over whole histories of runs. -/

namespace KubeOne.Process

/-- The requests `ρ` have answers of the types `β`. -/
inductive Client (ρ : Type) (β : ρ → Type) (ε α : Type) where
  | done (a : α)
  | fail (e : ε)
  | send (r : ρ) (next : β r → Client ρ β ε α)

/-- The answers that are possible in a state, with the state they leave. -/
abbrev Service (σ ρ : Type) (β : ρ → Type) := (r : ρ) → σ → β r → σ → Prop

namespace Client

variable {ρ : Type} {β : ρ → Type} {ε α γ σ : Type}

def bind : Client ρ β ε α → (α → Client ρ β ε γ) → Client ρ β ε γ
  | .done a, f => f a
  | .fail e, _ => .fail e
  | .send r next, f => .send r fun b => (next b).bind f

instance : Monad (Client ρ β ε) where
  pure := .done
  bind := bind

def call (r : ρ) : Client ρ β ε (β r) := .send r .done

/-- A run sends requests, each in some state, and ends or is stopped. -/
inductive Run (S : Service σ ρ β) :
    Client ρ β ε α → σ → List (ρ × σ) → σ → Option (Except ε α) → Prop
  | stop (c : Client ρ β ε α) (s : σ) : Run S c s [] s none
  | done (a : α) (s : σ) : Run S (.done a) s [] s (some (.ok a))
  | fail (e : ε) (s : σ) : Run S (.fail e) s [] s (some (.error e))
  | send {r : ρ} {next : β r → Client ρ β ε α} {s t u : σ} {b : β r} {calls : List (ρ × σ)}
      {out : Option (Except ε α)} (answer : S r s b t) (rest : Run S (next b) t calls u out) :
      Run S (.send r next) s ((r, s) :: calls) u out

/-- A run can be stopped before each of its requests. -/
theorem Run.stopped {S : Service σ ρ β} {c : Client ρ β ε α} {s t : σ}
    {out : Option (Except ε α)} {x : ρ × σ} {after : List (ρ × σ)} (before : List (ρ × σ))
    (h : Run S c s (before ++ x :: after) t out) : Run S c s before x.2 none := by
  induction before generalizing c s with
  | nil =>
    cases h with
    | send answer rest => exact .stop _ _
  | cons y before ih =>
    cases h with
    | send answer rest => exact .send answer (ih rest)

/-- The run with a service that is a function. -/
def exec (f : (r : ρ) → σ → β r × σ) : Client ρ β ε α → σ → List (ρ × σ) × σ × Except ε α
  | .done a, s => ([], s, .ok a)
  | .fail e, s => ([], s, .error e)
  | .send r next, s =>
    let rest := (next (f r s).1).exec f (f r s).2
    ((r, s) :: rest.1, rest.2)

variable {f : (r : ρ) → σ → β r × σ}

theorem run_exec {S : Service σ ρ β}
    (hf : ∀ r s, S r s (f r s).1 (f r s).2) (c : Client ρ β ε α) (s : σ) :
    Run S c s (c.exec f s).1 (c.exec f s).2.1 (some (c.exec f s).2.2) := by
  induction c generalizing s with
  | done a => exact .done a s
  | fail e => exact .fail e s
  | send r next ih => exact .send (hf r s) (ih _ _)

variable {calls : List (ρ × σ)} {s t : σ} {g : γ → Client ρ β ε α}

theorem exec_bind {c : Client ρ β ε γ} {a : γ} (h : c.exec f s = (calls, t, .ok a)) :
    (c >>= g).exec f s = (calls ++ ((g a).exec f t).1, ((g a).exec f t).2) := by
  induction c generalizing s calls with
  | done b =>
    simp only [exec, Prod.mk.injEq, Except.ok.injEq] at h
    obtain ⟨rfl, rfl, rfl⟩ := h
    rfl
  | fail e => simp [exec] at h
  | send r next ih =>
    obtain ⟨rfl, hrest⟩ := Prod.mk.inj h
    have hnext := ih _ (Prod.ext rfl hrest)
    exact congrArg (fun rest => ((r, s) :: rest.1, rest.2)) hnext

theorem mem_exec_bind {c : Client ρ β ε γ} {a : γ} (h : c.exec f s = (calls, t, .ok a)) {x : ρ × σ}
    (hx : x ∈ ((g a).exec f t).1) : x ∈ ((c >>= g).exec f s).1 := by
  rw [exec_bind h]
  exact List.mem_append_right calls hx

section Meets

variable (S : Service σ ρ β) (allowed : ρ → σ → Prop)

/-- Started in the state, the client sends only allowed requests, and a result satisfies the
assertion. -/
def Meets (Q : α → σ → Prop) : Client ρ β ε α → σ → Prop
  | .done a, s => Q a s
  | .fail _, _ => True
  | .send r next, s => allowed r s ∧ ∀ b t, S r s b t → Meets Q (next b) t

variable {S allowed} {Q Q' : α → σ → Prop} {s : σ} {c : Client ρ β ε α}

theorem Meets.weaken (h : c.Meets S allowed Q s)
    (hQ : ∀ a t, Q a t → Q' a t) : c.Meets S allowed Q' s := by
  induction c generalizing s with
  | done a => exact hQ a s h
  | fail e => trivial
  | send r next ih => exact ⟨h.1, fun b t hb => ih b (h.2 b t hb)⟩

variable {allowed' : ρ → σ → Prop}

/-- What the allowed requests keep is known when each of them is sent. -/
theorem Meets.strengthen {I : σ → Prop}
    (h : c.Meets S allowed Q s) (keeps : ∀ r s b t, I s → allowed r s → S r s b t → I t)
    (hr : ∀ r t, I t → allowed r t → allowed' r t) (hI : I s) : c.Meets S allowed' Q s := by
  induction c generalizing s with
  | done a => exact h
  | fail e => trivial
  | send r next ih =>
    refine ⟨hr r s hI h.1, fun b t hb => ?_⟩
    exact ih b (h.2 b t hb) (keeps r s b t hI h.1 hb)

theorem Meets.allow (h : c.Meets S allowed Q s)
    (hr : ∀ r t, allowed r t → allowed' r t) : c.Meets S allowed' Q s :=
  h.strengthen (fun _ _ _ _ _ _ _ => trivial) (fun r t _ => hr r t) trivial

theorem Meets.bind {c : Client ρ β ε γ} {f : γ → Client ρ β ε α}
    (h : c.Meets S allowed (fun a t => (f a).Meets S allowed Q t) s) :
    (c >>= f).Meets S allowed Q s := by
  induction c generalizing s with
  | done a => exact h
  | fail e => trivial
  | send r next ih => exact ⟨h.1, fun b t hb => ih b (h.2 b t hb)⟩

theorem Meets.ite {p : Prop} [Decidable p] {d : Client ρ β ε α} (hc : p → c.Meets S allowed Q s)
    (hd : ¬ p → d.Meets S allowed Q s) : (if p then c else d).Meets S allowed Q s := by
  split
  · next hp => exact hc hp
  · next hp => exact hd hp

/-- What every allowed request preserves of the state before it, the whole run preserves. -/
theorem Meets.track {R : σ → σ → Prop} (refl : ∀ s, R s s) (trans : ∀ s t u, R s t → R t u → R s u)
    (step : ∀ r s b t, allowed r s → S r s b t → R s t)
    (h : c.Meets S allowed Q s) : c.Meets S allowed (fun a t => Q a t ∧ R s t) s := by
  induction c generalizing s with
  | done a => exact ⟨h, refl s⟩
  | fail e => trivial
  | send r next ih =>
    refine ⟨h.1, fun b t hb => (ih b (h.2 b t hb)).weaken ?_⟩
    rintro a u ⟨hq, hr⟩
    exact ⟨hq, trans s t u (step r s b t h.1 hb) hr⟩

theorem Meets.and (h : c.Meets S allowed Q s) (h' : c.Meets S allowed' Q' s) :
    c.Meets S (fun r t => allowed r t ∧ allowed' r t) (fun a t => Q a t ∧ Q' a t) s := by
  induction c generalizing s with
  | done a => exact ⟨h, h'⟩
  | fail e => trivial
  | send r next ih => exact ⟨⟨h.1, h'.1⟩, fun b t hb => ih b (h.2 b t hb) (h'.2 b t hb)⟩

/-- A service with fewer answers makes a client do no more. -/
theorem Meets.refine {S' : Service σ ρ β} (hS : ∀ r s b t, S' r s b t → S r s b t)
    (h : c.Meets S allowed Q s) : c.Meets S' allowed Q s := by
  induction c generalizing s with
  | done a => exact h
  | fail e => trivial
  | send r next ih => exact ⟨h.1, fun b t hb => ih b (h.2 b t (hS r s b t hb))⟩

theorem meets_call {r : ρ} {Q : β r → σ → Prop} (hr : allowed r s)
    (h : ∀ b t, S r s b t → Q b t) : (call r : Client ρ β ε (β r)).Meets S allowed Q s :=
  ⟨hr, h⟩

end Meets

variable {c : Client ρ β ε α}

/-- What a run of allowed requests leaves behind, and how it ended. -/
theorem Meets.run {S : Service σ ρ β} {allowed : ρ → σ → Prop} {I : σ → Prop}
    {Q : α → σ → Prop} {out : Option (Except ε α)}
    (keeps : ∀ r s b t, I s → allowed r s → S r s b t → I t)
    (h : c.Meets S allowed Q s) (hI : I s) (hrun : Run S c s calls t out) :
    I t ∧ (∀ x ∈ calls, I x.2 ∧ allowed x.1 x.2) ∧ ∀ a, out = some (.ok a) → Q a t := by
  induction hrun with
  | stop c s => exact ⟨hI, by simp, by simp⟩
  | done a s =>
    refine ⟨hI, by simp, ?_⟩
    rintro _ ⟨⟩
    exact h
  | fail e s => exact ⟨hI, by simp, by simp⟩
  | @send r next s t u b calls out answer rest ih =>
    obtain ⟨hu, hcalls, hout⟩ := ih (h.2 b t answer) (keeps r s b t hI h.1 answer)
    refine ⟨hu, ?_, hout⟩
    rintro x (_ | ⟨_, hx⟩)
    · exact ⟨hI, h.1⟩
    · exact hcalls x hx

section Sends

/-- Whatever the answers are, all requests of the client satisfy the predicate, and so does its
result. -/
def Sends (P : ρ → Prop) (R : α → Prop) : Client ρ β ε α → Prop
  | .done a => R a
  | .fail _ => True
  | .send r next => P r ∧ ∀ b, Sends P R (next b)

variable {P : ρ → Prop} {R : α → Prop}

theorem Sends.bind {T : γ → Prop} {c : Client ρ β ε γ} {f : γ → Client ρ β ε α}
    (hc : c.Sends P T) (hf : ∀ a, T a → (f a).Sends P R) : (c >>= f).Sends P R := by
  induction c with
  | done a => exact hf a hc
  | fail e => trivial
  | send r next ih => exact ⟨hc.1, fun b => ih b (hc.2 b)⟩

theorem Sends.meets (h : c.Sends P R) (S : Service σ ρ β) (s : σ) :
    c.Meets S (fun r _ => P r) (fun a _ => R a) s := by
  induction c generalizing s with
  | done a => exact h
  | fail e => trivial
  | send r next ih => exact ⟨h.1, fun b t _ => ih b (h.2 b) t⟩

end Sends

section Ends

variable (S : Service σ ρ β)

/-- Every run from the state that comes to an end satisfies the assertion there. -/
def Ends (Q : Except ε α → σ → Prop) : Client ρ β ε α → σ → Prop
  | .done a, s => Q (.ok a) s
  | .fail e, s => Q (.error e) s
  | .send r next, s => ∀ b t, S r s b t → Ends Q (next b) t

variable {S} {Q Q' : Except ε α → σ → Prop} {s t : σ}

theorem Ends.bind {c : Client ρ β ε γ} {f : γ → Client ρ β ε α}
    (h : c.Ends S (fun r t => match r with
      | .ok a => (f a).Ends S Q t
      | .error e => Q (.error e) t) s) : (c >>= f).Ends S Q s := by
  induction c generalizing s with
  | done a => exact h
  | fail e => exact h
  | send r next ih => exact fun b t hb => ih b (h b t hb)

theorem Ends.weaken (h : c.Ends S Q s) (hQ : ∀ r t, Q r t → Q' r t) : c.Ends S Q' s := by
  induction c generalizing s with
  | done a => exact hQ _ s h
  | fail e => exact hQ _ s h
  | send r next ih => exact fun b t hb => ih b (h b t hb)

/-- What a client ends with from every state does not depend on what ran before it. -/
theorem ends_bind_of_forall {c : Client ρ β ε γ} {f : γ → Client ρ β ε α}
    (herror : ∀ e t, Q (.error e) t) (hf : ∀ a t, (f a).Ends S Q t) : (c >>= f).Ends S Q s := by
  induction c generalizing s with
  | done a => exact hf a s
  | fail e => exact herror e s
  | send r next ih => exact fun b _ _ => ih b

theorem ends_call {r : ρ} {Q : Except ε (β r) → σ → Prop} (h : ∀ b t, S r s b t → Q (.ok b) t) :
    (call r : Client ρ β ε (β r)).Ends S Q s := h

theorem Ends.run {out : Except ε α}
    (h : c.Ends S Q s) (hrun : Run S c s calls t (some out)) : Q out t := by
  generalize hout : some out = o at hrun
  induction hrun with
  | stop c s => cases hout
  | done a s =>
    obtain rfl := Option.some.inj hout
    exact h
  | fail e s =>
    obtain rfl := Option.some.inj hout
    exact h
  | send answer _ ih => exact ih (h _ _ answer) hout

/-- A service that answers every request lets every client come to an end. -/
theorem exists_run (hS : ∀ r s, ∃ b t, S r s b t) (c : Client ρ β ε α) (s : σ) :
    ∃ calls t out, Run S c s calls t (some out) := by
  induction c generalizing s with
  | done a => exact ⟨[], s, .ok a, .done a s⟩
  | fail e => exact ⟨[], s, .error e, .fail e s⟩
  | send r next ih =>
    obtain ⟨b, t, hb⟩ := hS r s
    obtain ⟨calls, u, out, hrun⟩ := ih b t
    exact ⟨_, u, out, .send hb hrun⟩

end Ends

/-- A request that was sent by a run of a program, and the state it met. -/
structure Sent (κ ρ σ : Type) where
  program : κ
  request : ρ
  state : σ

section History

variable {κ : Type} (S : Service σ ρ β) (code : κ → Client ρ β ε α) (starts : κ → σ → Prop)
  (env : σ → σ → Prop)

/-- Runs of programs one after the other, each of them possibly stopped on its way, with changes
from outside between them. -/
inductive History : σ → List (Sent κ ρ σ) → σ → Prop
  | nil (s : σ) : History s [] s
  | run {k : κ} {s t u : σ} {calls : List (ρ × σ)} {out : Option (Except ε α)}
      {rest : List (Sent κ ρ σ)} (start : starts k s) (run : Run S (code k) s calls t out)
      (next : History t rest u) : History s (calls.map (fun x => ⟨k, x.1, x.2⟩) ++ rest) u
  | env {s t u : σ} {rest : List (Sent κ ρ σ)} (change : env s t) (next : History t rest u) :
      History s rest u

variable {S code starts env}

/-- If every program, started as it may be, sends only allowed requests, then all requests of a
history were allowed when they were sent, and the invariant held. -/
theorem History.invariant (I : σ → Prop) (allowed : κ → ρ → σ → Prop)
    (keeps : ∀ k r s b t, I s → allowed k r s → S r s b t → I t)
    (keepsEnv : ∀ s t, I s → env s t → I t)
    (meets : ∀ k s, I s → starts k s → (code k).Meets S (allowed k) (fun _ _ => True) s)
    {sent : List (Sent κ ρ σ)} (h : History S code starts env s sent t) (hI : I s) :
    I t ∧ ∀ x ∈ sent, I x.state ∧ allowed x.program x.request x.state := by
  induction h with
  | nil s => exact ⟨hI, by simp⟩
  | @run k s t u calls out rest start run next ih =>
    obtain ⟨ht, hcalls, -⟩ := (meets k s hI start).run (keeps k) hI run
    obtain ⟨hu, hrest⟩ := ih ht
    refine ⟨hu, ?_⟩
    intro x hx
    rcases List.mem_append.1 hx with hx | hx
    · obtain ⟨y, hy, rfl⟩ := List.mem_map.1 hx
      exact hcalls y hy
    · exact hrest x hx
  | env change next ih => exact ih (keepsEnv _ _ hI change)

end History

end Client

end KubeOne.Process
