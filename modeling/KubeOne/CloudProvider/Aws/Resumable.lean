import KubeOne.CloudProvider.Aws.LoadBalancer
import Mathlib.Logic.Function.Basic
import Mathlib.Logic.Relation

/-! What interrupted runs leave of a load balancer on AWS. An ensure run takes a load balancer
that it finds for complete, so one without a listener stays so. A cleanup run takes the answer
that there is no load balancer for a failure, so a lonely target group stays. -/

namespace KubeOne.CloudProvider.Aws

open Process Client Relation

structure Account where
  loadBalancers : String → Option LoadBalancer
  targetGroups : String → Option TargetGroup
  listeners : String → ℕ → Option String

namespace Account

def addTargetGroup (s : Account) (name : String) (tg : TargetGroup) : Account :=
  { s with targetGroups := Function.update s.targetGroups name (some tg) }

def addLoadBalancer (s : Account) (name : String) (lb : LoadBalancer) : Account :=
  { s with loadBalancers := Function.update s.loadBalancers name (some lb) }

def addListener (s : Account) (input : CreateListenerInput) : Account :=
  { s with listeners := fun arn port =>
      if arn = input.loadBalancerArn ∧ port = input.port then some input.targetGroupArn
      else s.listeners arn port }

def removeLoadBalancer (s : Account) (arn : String) : Account :=
  { s with
    loadBalancers := fun name => (s.loadBalancers name).filter (·.arn ≠ arn)
    listeners := fun lb port => if lb = arn then none else s.listeners lb port }

def removeTargetGroup (s : Account) (arn : String) : Account :=
  { s with targetGroups := fun name => (s.targetGroups name).filter (·.arn ≠ arn) }

end Account

/-- A request is carried out. What is created again under the same name stays as it is. -/
def Applied : (r : Request) → Account → Output r → Account → Prop
  | .describeLoadBalancers name, s, out, t => out = (s.loadBalancers name).toList ∧ t = s
  | .describeTargetGroups name, s, out, t => out = (s.targetGroups name).toList ∧ t = s
  | .createTargetGroup input, s, out, t => ∃ tg, out = [tg] ∧
      (s.targetGroups input.name = some tg ∧ t = s ∨
        s.targetGroups input.name = none ∧ t = s.addTargetGroup input.name tg)
  | .createLoadBalancer input, s, out, t => ∃ lb, out = [lb] ∧
      (s.loadBalancers input.name = some lb ∧ t = s ∨
        s.loadBalancers input.name = none ∧ t = s.addLoadBalancer input.name lb)
  | .createListener input, s, _, t => t = s.addListener input
  | .deleteLoadBalancer arn, s, _, t => t = s.removeLoadBalancer arn
  | .deleteTargetGroup arn, s, _, t => t = s.removeTargetGroup arn

def Missing : Request → Account → Prop
  | .describeLoadBalancers name, s => s.loadBalancers name = none
  | .describeTargetGroups name, s => s.targetGroups name = none
  | _, _ => False

/-- Every request can fail, before or after it took effect. A thing is reported missing only if it
is. -/
def service : Service Account Request Answer := fun r s b t =>
  (∃ out, b = .ok out ∧ Applied r s out t) ∨
    ∃ e, b = .error e ∧ (t = s ∨ ∃ out, Applied r s out t) ∧
      ∀ name, r = .describeLoadBalancers name → e = .loadBalancerNotFound → Missing r s

/-- All requests work: a missing thing is reported as such, everything else is carried out. -/
def working : Service Account Request Answer := fun r s b t =>
  (∃ out, b = .ok out ∧ Applied r s out t ∧ ¬ Missing r s) ∨
    Missing r s ∧ t = s ∧ ∃ e, b = .error e ∧
      ((∃ name, r = .describeLoadBalancers name ∧ e = .loadBalancerNotFound) ∨
        ∃ name, r = .describeTargetGroups name ∧ e = .targetGroupNotFound)

/-- A run for the load balancer of the name, to its end or not, from one account to another. -/
def EnsureRun (lbName : String) (s t : Account) : Prop :=
  ∃ c calls out, c.lbName = lbName ∧ Run service (ensureLoadBalancer c) s calls t out

def CleanupRun (lbName : String) (s t : Account) : Prop :=
  ∃ c calls out, c.lbName = lbName ∧ Run service (cleanupLoadBalancer c) s calls t out

/-- The load balancer listens on the API server port and forwards to the target group. -/
def Listens (lbName : String) (s : Account) : Prop :=
  ∃ lb tg, s.loadBalancers lbName = some lb ∧
    s.targetGroups (awsTargetGroupName lbName) = some tg ∧
    s.listeners lb.arn awsAPIServerPort = some tg.arn

def Gone (lbName : String) (s : Account) : Prop :=
  s.loadBalancers lbName = none ∧ s.targetGroups (awsTargetGroupName lbName) = none

variable {c : Cluster} {lbName : String} {s t : Account}

variable {allowed : Request → Account → Prop} {r : Request}

theorem meets_required {op : String} {Q : Output r → Account → Prop} (hr : allowed r s)
    (h : ∀ out t, Applied r s out t → Q out t) : (required r op).Meets service allowed Q s := by
  refine Meets.bind (meets_call hr fun b t hb => ?_)
  rcases hb with ⟨out, rfl, happlied⟩ | ⟨e, rfl, -⟩
  · exact h out t happlied
  · trivial

theorem meets_first {α : Type} {a : α} {rest : List α} {Q : α → Account → Prop} (h : Q a s) :
    (first (a :: rest)).Meets service allowed Q s := h

/-- The order that keeps a target group as long as its load balancer: it is there when the load
balancer is created, and goes when that is gone. The listener comes last. -/
def Ordered (lbName : String) : Request → Account → Prop
  | .createLoadBalancer input, s =>
    input.name = lbName ∧ s.targetGroups (awsTargetGroupName lbName) ≠ none
  | .createListener input, s => Listens lbName (s.addListener input)
  | .deleteTargetGroup _, s => s.loadBalancers lbName = none
  | _, _ => True

open Account

theorem createAWSLoadBalancer_meets (hlb : s.loadBalancers c.lbName = none) :
    (createAWSLoadBalancer c).Meets service (Ordered c.lbName)
      (fun _ t => Listens c.lbName t) s := by
  unfold createAWSLoadBalancer
  split
  · trivial
  · refine Meets.bind (meets_required trivial ?_)
    rintro _ t₁ ⟨tg, rfl, htg⟩
    have htg₁ : t₁.targetGroups (awsTargetGroupName c.lbName) = some tg ∧
        t₁.loadBalancers c.lbName = none := by
      rcases htg with ⟨hold, rfl⟩ | ⟨-, rfl⟩
      · exact ⟨hold, hlb⟩
      · exact ⟨by simp [addTargetGroup], hlb⟩
    refine Meets.bind (meets_first (Meets.bind (meets_required ?_ ?_)))
    · exact ⟨rfl, by simp [htg₁.1]⟩
    rintro _ t₂ ⟨lb, rfl, hlb₂⟩
    obtain rfl : t₂ = t₁.addLoadBalancer c.lbName lb := by
      rcases hlb₂ with ⟨hold, -⟩ | ⟨-, rfl⟩
      · rw [htg₁.2] at hold
        cases hold
      · rfl
    have hlistens : Listens c.lbName
        ((t₁.addLoadBalancer c.lbName lb).addListener ⟨lb.arn, awsAPIServerPort, tg.arn⟩) :=
      ⟨lb, tg, by simp [addListener, addLoadBalancer],
        by simpa [addListener, addLoadBalancer] using htg₁.1, by simp [addListener]⟩
    refine Meets.bind (meets_first (Meets.bind (meets_required hlistens ?_)))
    rintro _ _ rfl
    exact hlistens

theorem ensureLoadBalancer_meets {Q : Option (String × ℕ) → Account → Prop}
    (hread : allowed (.describeLoadBalancers c.lbName) s)
    (hkeep : c.apiEndpointHost ≠ "" → Q none s)
    (hfound : ∀ lb, s.loadBalancers c.lbName = some lb → Q (some (lb.dnsName, awsAPIServerPort)) s)
    (hcreate : s.loadBalancers c.lbName = none →
      (createAWSLoadBalancer c).Meets service allowed
        (fun lb t => Q (some (lb.dnsName, awsAPIServerPort)) t) s) :
    (ensureLoadBalancer c).Meets service allowed Q s := by
  unfold ensureLoadBalancer
  split
  · rename_i hhost
    exact hkeep hhost
  · split
    · trivial
    · refine Meets.bind (meets_call hread ?_)
      intro b t hb
      rcases hb with ⟨out, rfl, rfl, rfl⟩ | ⟨e, rfl, ht, hmissing⟩
      · cases hlb : t.loadBalancers c.lbName with
        | some lb => exact hfound lb hlb
        | none => exact Meets.bind (hcreate hlb)
      · have hts : t = s := by
          rcases ht with rfl | ⟨_, -, rfl⟩
          · rfl
          · rfl
        subst hts
        cases e with
        | loadBalancerNotFound => exact Meets.bind (hcreate (hmissing _ rfl rfl))
        | targetGroupNotFound => trivial
        | other message => trivial

theorem eq_of_ensureRun (hlb : s.loadBalancers lbName ≠ none) (h : EnsureRun lbName s t) :
    t = s := by
  obtain ⟨c, calls, out, rfl, hrun⟩ := h
  have hmeets : (ensureLoadBalancer c).Meets service
      (fun r _ => ∃ name, r = .describeLoadBalancers name) (fun _ _ => True) s :=
    ensureLoadBalancer_meets ⟨_, rfl⟩ (fun _ => trivial) (fun _ _ => trivial)
      fun hnone => absurd hnone hlb
  refine (hmeets.run (I := fun t => t = s) ?_ rfl hrun).1
  rintro r s' b t rfl ⟨name, rfl⟩ hb
  rcases hb with ⟨_, -, -, rfl⟩ | ⟨_, -, rfl | ⟨_, -, rfl⟩, -⟩
  · rfl
  · rfl
  · rfl

theorem ensureLoadBalancer_ordered : (ensureLoadBalancer c).Meets service (Ordered c.lbName)
    (fun _ _ => True) s :=
  ensureLoadBalancer_meets trivial (fun _ => trivial) (fun _ _ => trivial)
    fun hnone => (createAWSLoadBalancer_meets hnone).weaken fun _ _ _ => trivial

/-- A run that can be stopped, or fail, at every point but those between the creation of the load
balancer and that of the listener: if it creates the one, it sends the request for the other, and
that is carried out. -/
def CompleteRun (lbName : String) (s t : Account) : Prop :=
  ∃ c calls out, c.lbName = lbName ∧ Run service (ensureLoadBalancer c) s calls t out ∧
    (s.loadBalancers lbName = none → t.loadBalancers lbName ≠ none →
      ∃ input s', (.createListener input, s') ∈ calls ∧ t = s'.addListener input)

def Complete (lbName : String) (s : Account) : Prop :=
  s.loadBalancers lbName ≠ none → Listens lbName s

theorem Complete.run (h : Complete lbName s) (hrun : CompleteRun lbName s t) :
    Complete lbName t := by
  obtain ⟨c, calls, out, rfl, hrun, hcompletes⟩ := hrun
  intro ht
  by_cases hs : s.loadBalancers c.lbName = none
  · obtain ⟨input, s', hsent, rfl⟩ := hcompletes hs ht
    exact ((ensureLoadBalancer_ordered.run (I := fun _ => True) (fun _ _ _ _ _ _ _ => trivial)
      trivial hrun).2.1 _ hsent).2
  · rw [eq_of_ensureRun hs ⟨c, calls, out, rfl, hrun⟩]
    exact h hs

theorem listens_of_success_iff (hhost : c.apiEndpointHost = "") {calls : List (Request × Account)}
    {endpoint : Option (String × ℕ)}
    (hrun : Run service (ensureLoadBalancer c) s calls t (some (.ok endpoint))) :
    Listens c.lbName t ↔ Complete c.lbName s := by
  constructor
  · intro hlistens hs
    rw [eq_of_ensureRun hs ⟨c, calls, _, rfl, hrun⟩] at hlistens
    exact hlistens
  · intro hcomplete
    by_cases hs : s.loadBalancers c.lbName = none
    · have hmeets : (ensureLoadBalancer c).Meets service (Ordered c.lbName)
          (fun _ t => Listens c.lbName t) s :=
        ensureLoadBalancer_meets trivial (fun h => absurd hhost h)
          (fun lb hlb => by simp [hs] at hlb) fun hnone => createAWSLoadBalancer_meets hnone
      exact (hmeets.run (I := fun _ => True) (fun _ _ _ _ _ _ _ => trivial) trivial hrun).2.2 _ rfl
    · rw [eq_of_ensureRun hs ⟨c, calls, _, rfl, hrun⟩]
      exact hcomplete hs

theorem complete_of_history {s₀ : Account} (hs₀ : s₀.loadBalancers lbName = none)
    (hhistory : ReflTransGen (CompleteRun lbName) s₀ s) : Complete lbName s := by
  induction hhistory with
  | refl => exact fun h => absurd hs₀ h
  | tail _ hstep ih => exact ih.run hstep

/-- Over all sequences of runs that complete what they create, from an account without the load
balancer: once a run succeeds, the load balancer listens. -/
theorem ensured_load_balancer_listens {s₀ : Account} (hs₀ : s₀.loadBalancers c.lbName = none)
    (hhistory : ReflTransGen (CompleteRun c.lbName) s₀ s)
    (hhost : c.apiEndpointHost = "") {calls : List (Request × Account)}
    {endpoint : Option (String × ℕ)}
    (hrun : Run service (ensureLoadBalancer c) s calls t (some (.ok endpoint))) :
    Listens c.lbName t :=
  (listens_of_success_iff hhost hrun).mpr (complete_of_history hs₀ hhistory)

/-- As long as there is the load balancer, there is its target group. -/
def Grouped (lbName : String) (s : Account) : Prop :=
  s.loadBalancers lbName ≠ none → s.targetGroups (awsTargetGroupName lbName) ≠ none

theorem Grouped.applied {out : Output r} (h : Grouped lbName s) (hr : Ordered lbName r s)
    (happlied : Applied r s out t) : Grouped lbName t := by
  cases r with
  | describeLoadBalancers name =>
    obtain ⟨-, rfl⟩ := happlied
    exact h
  | describeTargetGroups name =>
    obtain ⟨-, rfl⟩ := happlied
    exact h
  | createTargetGroup input =>
    obtain ⟨tg, -, ⟨-, rfl⟩ | ⟨-, rfl⟩⟩ := happlied
    · exact h
    · intro hlb
      by_cases hname : awsTargetGroupName lbName = input.name
      · simp [addTargetGroup, hname]
      · simpa [addTargetGroup, hname] using h hlb
  | createLoadBalancer input =>
    obtain ⟨lb, -, ⟨-, rfl⟩ | ⟨-, rfl⟩⟩ := happlied
    · exact h
    · exact fun _ => hr.2
  | createListener input =>
    obtain rfl : t = s.addListener input := happlied
    exact h
  | deleteLoadBalancer arn =>
    obtain rfl : t = s.removeLoadBalancer arn := happlied
    intro hlb
    refine h fun hnone => hlb ?_
    simp [removeLoadBalancer, hnone]
  | deleteTargetGroup arn =>
    obtain rfl : t = s.removeTargetGroup arn := happlied
    exact fun hlb => absurd hr hlb

theorem Grouped.service {b : Answer r} (h : Grouped lbName s) (hr : Ordered lbName r s)
    (hb : service r s b t) : Grouped lbName t := by
  rcases hb with ⟨out, -, happlied⟩ | ⟨e, -, rfl | ⟨out, happlied⟩, -⟩
  · exact h.applied hr happlied
  · exact h
  · exact h.applied hr happlied

@[simp] theorem removeLoadBalancer_named {lb : LoadBalancer} {name : String}
    (h : s.loadBalancers name = some lb) :
    (s.removeLoadBalancer lb.arn).loadBalancers name = none := by
  simp [removeLoadBalancer, h]

variable {tg : TargetGroup}

@[simp] theorem removeTargetGroup_named {name : String} (h : s.targetGroups name = some tg) :
    (s.removeTargetGroup tg.arn).targetGroups name = none := by
  simp [removeTargetGroup, h]

theorem cleanupTargetGroup_meets (hlb : s.loadBalancers c.lbName = none) :
    (cleanupTargetGroup c).Meets service (Ordered c.lbName) (fun _ _ => True) s := by
  refine Meets.bind (meets_call trivial ?_)
  intro b t hb
  rcases hb with ⟨out, rfl, rfl, rfl⟩ | ⟨e, rfl, -⟩
  · cases t.targetGroups (awsTargetGroupName c.lbName) with
    | none => trivial
    | some tg => exact meets_required hlb fun _ _ _ => trivial
  · cases e <;> trivial

theorem cleanupLoadBalancer_meets : (cleanupLoadBalancer c).Meets service (Ordered c.lbName)
    (fun _ _ => True) s := by
  unfold cleanupLoadBalancer
  split
  · trivial
  · refine Meets.bind (meets_required trivial ?_)
    rintro _ t ⟨rfl, rfl⟩
    cases hlb : t.loadBalancers c.lbName with
    | none => exact cleanupTargetGroup_meets hlb
    | some lb =>
      refine Meets.bind (meets_required trivial ?_)
      rintro _ _ rfl
      exact cleanupTargetGroup_meets (removeLoadBalancer_named hlb)

theorem Grouped.ensureRun (h : Grouped lbName s) (hrun : EnsureRun lbName s t) :
    Grouped lbName t := by
  obtain ⟨c, calls, out, rfl, hrun⟩ := hrun
  exact (ensureLoadBalancer_ordered.run (fun _ _ _ _ hs hr hb => hs.service hr hb) h hrun).1

theorem Grouped.cleanupRun (h : Grouped lbName s) (hrun : CleanupRun lbName s t) :
    Grouped lbName t := by
  obtain ⟨c, calls, out, rfl, hrun⟩ := hrun
  exact (cleanupLoadBalancer_meets.run (fun _ _ _ _ hs hr hb => hs.service hr hb) h hrun).1

/-- With all requests working the cleanup of the account ends in success and leaves nothing. -/
def CleansUp (c : Cluster) (s : Account) : Prop :=
  (∃ calls t out, Run working (cleanupLoadBalancer c) s calls t (some out)) ∧
    ∀ calls t out, Run working (cleanupLoadBalancer c) s calls t (some out) →
      out = .ok () ∧ Gone c.lbName t

theorem exists_applied (r : Request) (s : Account) : ∃ out t, Applied r s out t := by
  cases r with
  | describeLoadBalancers name => exact ⟨_, s, rfl, rfl⟩
  | describeTargetGroups name => exact ⟨_, s, rfl, rfl⟩
  | createTargetGroup input =>
    cases h : s.targetGroups input.name with
    | some tg => exact ⟨[tg], s, tg, rfl, .inl ⟨h, rfl⟩⟩
    | none => exact ⟨[⟨input.name⟩], _, ⟨input.name⟩, rfl, .inr ⟨h, rfl⟩⟩
  | createLoadBalancer input =>
    cases h : s.loadBalancers input.name with
    | some lb => exact ⟨[lb], s, lb, rfl, .inl ⟨h, rfl⟩⟩
    | none => exact ⟨[⟨input.name, input.name⟩], _, ⟨input.name, input.name⟩, rfl, .inr ⟨h, rfl⟩⟩
  | createListener input => exact ⟨(), _, rfl⟩
  | deleteLoadBalancer arn => exact ⟨(), _, rfl⟩
  | deleteTargetGroup arn => exact ⟨(), _, rfl⟩

theorem working_answers (r : Request) (s : Account) : ∃ b t, working r s b t := by
  by_cases hmissing : Missing r s
  · cases r with
    | describeLoadBalancers name =>
      exact ⟨.error .loadBalancerNotFound, s, .inr ⟨hmissing, rfl, _, rfl, .inl ⟨name, rfl, rfl⟩⟩⟩
    | describeTargetGroups name =>
      exact ⟨.error .targetGroupNotFound, s, .inr ⟨hmissing, rfl, _, rfl, .inr ⟨name, rfl, rfl⟩⟩⟩
    | _ => exact hmissing.elim
  · obtain ⟨out, t, happlied⟩ := exists_applied r s
    exact ⟨.ok out, t, .inl ⟨out, rfl, happlied, hmissing⟩⟩

theorem ends_required {op : String} {Q : Except Failure (Output r) → Account → Prop}
    (hok : ∀ out t, Applied r s out t → ¬ Missing r s → Q (.ok out) t)
    (hmissing : Missing r s → ∀ e, Q (.error (.cloud e op)) s) :
    (required r op).Ends working Q s := by
  refine Ends.bind (ends_call ?_)
  rintro b t (⟨out, rfl, happlied, hr⟩ | ⟨hr, rfl, e, rfl, -⟩)
  · exact hok out t happlied hr
  · exact hmissing hr e

theorem cleanupTargetGroup_ends (htg : s.targetGroups (awsTargetGroupName c.lbName) = some tg) :
    (cleanupTargetGroup c).Ends working
      (fun out t => out = .ok () ∧ t = s.removeTargetGroup tg.arn) s := by
  refine Ends.bind (ends_call ?_)
  rintro b t (⟨out, rfl, ⟨rfl, rfl⟩, -⟩ | ⟨hr, -⟩)
  · rw [htg]
    exact ends_required (fun _ _ happlied _ => ⟨rfl, happlied⟩) fun hr => hr.elim
  · exact absurd htg (by simp [show s.targetGroups _ = none from hr])

theorem cleanupLoadBalancer_ends (hclient : c.clientError = none) {lb : LoadBalancer}
    (hlb : s.loadBalancers c.lbName = some lb)
    (htg : s.targetGroups (awsTargetGroupName c.lbName) = some tg) :
    (cleanupLoadBalancer c).Ends working (fun out t => out = .ok () ∧ Gone c.lbName t) s := by
  unfold cleanupLoadBalancer
  rw [hclient]
  refine Ends.bind (ends_required ?_ fun hr => ?_)
  · rintro _ t ⟨rfl, rfl⟩ -
    rw [hlb]
    refine Ends.bind (ends_required ?_ fun hr => hr.elim)
    rintro _ _ rfl -
    have htg' : (t.removeLoadBalancer lb.arn).targetGroups (awsTargetGroupName c.lbName) =
        some tg := htg
    refine (cleanupTargetGroup_ends htg').weaken ?_
    rintro out _ ⟨rfl, rfl⟩
    exact ⟨rfl, removeLoadBalancer_named hlb, removeTargetGroup_named htg'⟩
  · exact absurd hlb (by simp [show s.loadBalancers _ = none from hr])

theorem cleanupLoadBalancer_absent (hclient : c.clientError = none)
    (hlb : s.loadBalancers c.lbName = none) :
    (cleanupLoadBalancer c).Ends working (fun out _ => out ≠ .ok ()) s := by
  unfold cleanupLoadBalancer
  rw [hclient]
  refine Ends.bind (ends_required ?_ fun _ e => ?_)
  · exact fun _ _ _ hr => absurd hlb hr
  · simp

theorem grouped_of_history {s₀ : Account} (hs₀ : Gone lbName s₀)
    (hhistory : ReflTransGen (fun s t => EnsureRun lbName s t ∨ CleanupRun lbName s t) s₀ s) :
    Grouped lbName s := by
  induction hhistory with
  | refl => exact fun h => absurd hs₀.1 h
  | tail _ hstep ih =>
    rcases hstep with hrun | hrun
    · exact ih.ensureRun hrun
    · exact ih.cleanupRun hrun

/-- From every account that interrupted runs of both kinds leave, the cleanup works exactly if the
load balancer is still there. -/
theorem cleanup_resumes_iff {s₀ : Account} (hclient : c.clientError = none)
    (hs₀ : Gone c.lbName s₀)
    (hhistory : ReflTransGen (fun s t => EnsureRun c.lbName s t ∨ CleanupRun c.lbName s t) s₀ s) :
    CleansUp c s ↔ s.loadBalancers c.lbName ≠ none := by
  have hgrouped : Grouped c.lbName s := grouped_of_history hs₀ hhistory
  constructor
  · rintro ⟨⟨calls, t, out, hrun⟩, hall⟩ hlb
    exact (cleanupLoadBalancer_absent hclient hlb).run hrun (hall calls t out hrun).1
  · intro hlb
    obtain ⟨lb, hlb'⟩ := Option.ne_none_iff_exists'.mp hlb
    obtain ⟨tg, htg⟩ := Option.ne_none_iff_exists'.mp (hgrouped hlb)
    exact ⟨exists_run working_answers _ s,
      fun calls t out hrun => (cleanupLoadBalancer_ends hclient hlb' htg).run hrun⟩

namespace Interrupted

def cluster : Cluster where
  name := "prod"
  lbName := "prod-kubeapi"
  nodeSets := [some ⟨"a", "vpc-1", "subnet-1"⟩]

def empty : Account := ⟨fun _ => none, fun _ => none, fun _ _ => none⟩

def groupOnly : Account := empty.addTargetGroup "prod-kubeapi-tg" ⟨"tg-1"⟩

def silent : Account := groupOnly.addLoadBalancer "prod-kubeapi" ⟨"lb-1", "lb.example"⟩

theorem gone_empty : Gone cluster.lbName empty := ⟨rfl, rfl⟩

def listener : CreateListenerInput := ⟨"lb-1", awsAPIServerPort, "tg-1"⟩

def complete : Account := silent.addListener listener

theorem undisturbed : ∃ r₁ r₂ r₃, Run service (ensureLoadBalancer cluster) empty
    [(r₁, empty), (r₂, empty), (r₃, groupOnly), (.createListener listener, silent)] complete
    (some (.ok (some ("lb.example", awsAPIServerPort)))) := by
  refine ⟨_, _, _, .send (b := .error .loadBalancerNotFound) ?_
    (.send (b := .ok [⟨"tg-1"⟩]) ?_ (.send (b := .ok [⟨"lb-1", "lb.example"⟩]) ?_
      (.send (t := complete) (b := Except.ok ()) ?_ ?_)))⟩
  · exact .inr ⟨_, rfl, .inl rfl, fun _ _ _ => rfl⟩
  · exact .inl ⟨_, rfl, _, rfl, .inr ⟨rfl, rfl⟩⟩
  · exact .inl ⟨_, rfl, _, rfl, .inr ⟨rfl, rfl⟩⟩
  · exact .inl ⟨_, rfl, rfl⟩
  · exact .done _ _

theorem not_listens_silent : ¬ Listens cluster.lbName silent := by
  rintro ⟨lb, tg, -, -, hlistener⟩
  cases hlistener

/-- The next run takes the load balancer for complete. -/
theorem silent_load_balancer_stays :
    ¬ ∀ (c : Cluster) (s₀ s t : Account) (calls : List (Request × Account))
      (endpoint : Option (String × ℕ)), Gone c.lbName s₀ →
      ReflTransGen (EnsureRun c.lbName) s₀ s → c.apiEndpointHost = "" →
      Run service (ensureLoadBalancer c) s calls t (some (.ok endpoint)) →
      Listens c.lbName t := by
  intro h
  obtain ⟨_, _, _, hrun⟩ := undisturbed
  refine not_listens_silent (h cluster empty silent silent _
    (some ("lb.example", awsAPIServerPort)) gone_empty
    (.single ⟨cluster, _, none, rfl, hrun.stopped [_, _, _]⟩) rfl
    (.send (b := .ok [⟨"lb-1", "lb.example"⟩]) ?_ (.done _ _)))
  exact .inl ⟨_, rfl, rfl, rfl⟩

theorem listens_after_creation : Listens cluster.lbName complete := by
  obtain ⟨_, _, _, hrun⟩ := undisturbed
  have hcomplete : CompleteRun cluster.lbName empty complete :=
    ⟨cluster, _, _, rfl, hrun, fun _ _ => ⟨_, silent, by simp, rfl⟩⟩
  exact ensured_load_balancer_listens (c := cluster) rfl (.single hcomplete) rfl
    (.send (b := .ok [⟨"lb-1", "lb.example"⟩]) (.inl ⟨_, rfl, rfl, rfl⟩) (.done _ _))

/-- A target group that was left alone cannot be cleaned up. -/
theorem lonely_target_group_stays :
    ¬ ∀ (c : Cluster) (s₀ s : Account), c.clientError = none → Gone c.lbName s₀ →
      ReflTransGen (fun s t => EnsureRun c.lbName s t ∨ CleanupRun c.lbName s t) s₀ s →
      CleansUp c s := by
  intro h
  obtain ⟨_, _, _, hensure⟩ := undisturbed
  obtain ⟨⟨calls, t, out, hrun⟩, hall⟩ := h cluster empty groupOnly rfl gone_empty
    (.single (.inl ⟨cluster, _, none, rfl, hensure.stopped [_, _]⟩))
  exact (cleanupLoadBalancer_absent rfl rfl).run hrun (hall calls t out hrun).1

/-- What a run left that was stopped before the listener is cleaned up. -/
theorem silent_load_balancer_cleaned : CleansUp cluster silent := by
  obtain ⟨_, _, _, hrun⟩ := undisturbed
  exact (cleanup_resumes_iff (s := silent) (c := cluster) rfl gone_empty
    (.single (.inl ⟨cluster, _, none, rfl, hrun.stopped [_, _, _]⟩))).mpr (by decide)

end Interrupted

end KubeOne.CloudProvider.Aws
