import KubeOne.CloudProvider.DigitalOcean.LoadBalancer
import Mathlib.Logic.Function.Basic

/-! Which load balancers a cleanup deletes, over any sequence of runs with changing configurations
and others at work on the account. The account remembers who created a load balancer and who gave
it the tag of the cluster. A cleanup by name deletes what has this tag, also where it was set
while the load balancer was referred to by ID. -/

namespace KubeOne.CloudProvider.DigitalOcean

open Process Function Client

inductive Party
  | kubeone
  | other

/-- Why a load balancer has the tag of the cluster: it was created with it, an update of KubeOne
put it there, or somebody else did. -/
inductive Reason
  | created
  | adopted
  | outside

/-- The load balancers by ID, who created the IDs that were ever given out, and the reasons of
the tags. -/
structure World where
  account : String → Option LoadBalancer
  creator : String → Option Party
  reason : String → Option Reason

/-! ### Reading -/

def Request.IsRead : Request → Prop
  | .get _ | .list _ | .getVPC _ => True
  | _ => False

section Reading

variable {σ : Type}

def SeenIn (account : σ → String → Option LoadBalancer) (shows : LoadBalancer → LoadBalancer → Prop)
    (w : σ) (got : LoadBalancer) : Prop :=
  ∃ lb, account w got.id = some lb ∧ shows lb got

structure Reliable (S : Service σ Request Answer) (account : σ → String → Option LoadBalancer)
    (shows : LoadBalancer → LoadBalancer → Prop) : Prop where
  same : ∀ r w b w', r.IsRead → S r w b w' → w' = w
  get : ∀ id w b w', S (.get id) w b w' → ∀ got : LoadBalancer, b = Except.ok (ε := ApiError) got →
    got.id = id ∧ SeenIn account shows w got
  list : ∀ page w b w', S (.list page) w b w' → ∀ p : Page, b = Except.ok (ε := ApiError) p →
    ∀ got ∈ p.items, SeenIn account shows w got

variable {S : Service σ Request Answer} {account : σ → String → Option LoadBalancer}
  {shows : LoadBalancer → LoadBalancer → Prop} {allowed : Request → σ → Prop} {w : σ}

section Procedures

variable (hS : Reliable S account shows) (hread : ∀ r w, r.IsRead → allowed r w)

include hS hread

theorem meets_get {id : String} :
    (get id).Meets S allowed (fun b w' => w' = w ∧ ∀ got : LoadBalancer, b = .ok got →
      got.id = id ∧ SeenIn account shows w got) w := by
  refine meets_call (hread _ _ trivial) ?_
  exact fun b w' hb => ⟨hS.same (.get id) _ _ _ trivial hb, hS.get _ _ _ _ hb⟩

theorem meets_pollLoadBalancer (lb : LoadBalancer) (justCreated : Bool) (polls : ℕ) :
    (pollLoadBalancer lb justCreated polls).Meets S allowed
      (fun got w' => w' = w ∧ SeenIn account shows w got ∧ got.id = lb.id) w := by
  induction polls with
  | zero => trivial
  | succ polls ih =>
    refine Meets.bind ((meets_get hS hread).weaken ?_)
    rintro b _ ⟨rfl, hb⟩
    cases b with
    | error e =>
      refine Meets.ite (fun _ => ?_) fun _ => ?_
      · trivial
      · exact ih
    | ok got =>
      obtain ⟨hid, hseen⟩ := hb got rfl
      show Meets _ _ _ (if _ then _ else if _ then _ else _) _
      split
      · trivial
      · split
        · exact ⟨rfl, hseen, hid⟩
        · exact ih

theorem meets_waitForLoadBalancer (polls : ℕ) (lb : LoadBalancer) (justCreated : Bool) :
    (waitForLoadBalancer polls lb justCreated).Meets S allowed
      (fun got w' => w' = w ∧ (SeenIn account shows w lb → SeenIn account shows w got) ∧
        got.id = lb.id) w := by
  unfold waitForLoadBalancer
  split
  · exact ⟨rfl, id, rfl⟩
  · refine (meets_pollLoadBalancer hS hread lb justCreated polls).weaken ?_
    rintro got _ ⟨hw, hseen, hid⟩
    exact ⟨hw, fun _ => hseen, hid⟩

theorem meets_findPages (name region clusterName : String) (pages page : ℕ)
    (firstMatch : Option LoadBalancer)
    (hfirst : ∀ lb, firstMatch = some lb → SeenIn account shows w lb ∧ lb.name = name) :
    (findPages name region clusterName pages page firstMatch).Meets S allowed
      (fun found w' => w' = w ∧
        ∀ lb, found = some lb → SeenIn account shows w lb ∧ lb.name = name) w := by
  induction pages generalizing page firstMatch with
  | zero => trivial
  | succ pages ih =>
    refine Meets.bind (meets_call (hread _ _ trivial) ?_)
    intro b w' hb
    obtain rfl := hS.same (.list page) _ _ _ trivial hb
    cases b with
    | error e => trivial
    | ok lbs =>
      have hseen : ∀ p lb, lbs.items.find? p = some lb → SeenIn account shows w' lb :=
        fun p lb h => hS.list _ _ _ _ hb lbs rfl lb (List.mem_of_find?_eq_some h)
      have hname : ∀ lb, Matches name region lb = true → lb.name = name := by
        intro lb h
        simp only [Matches, Bool.and_eq_true, decide_eq_true_eq] at h
        exact h.1
      have hnext : ∀ lb, firstMatch.or (lbs.items.find? (Matches name region)) = some lb →
          SeenIn account shows w' lb ∧ lb.name = name := by
        intro lb h
        rcases Option.or_eq_some_iff.1 h with h | ⟨-, h⟩
        · exact hfirst lb h
        · exact ⟨hseen _ lb h, hname lb (List.find?_some h)⟩
      dsimp only
      split
      · next lb hfind =>
        refine ⟨rfl, ?_⟩
        rintro _ ⟨⟩
        have h := List.find?_some hfind
        rw [Bool.and_eq_true] at h
        exact ⟨hseen _ lb hfind, hname lb h.1⟩
      · split
        · exact ⟨rfl, hnext⟩
        · split
          · exact ⟨rfl, hnext⟩
          · split
            · trivial
            · exact ih _ _ hnext

theorem meets_getLoadBalancer (id : String) :
    (getLoadBalancer id).Meets S allowed
      (fun got w' => w' = w ∧ SeenIn account shows w got ∧ got.id = id) w := by
  refine Meets.bind ((meets_get hS hread).weaken ?_)
  rintro b _ ⟨rfl, hb⟩
  cases b with
  | error e =>
    show Meets _ _ _ (if _ then _ else _) _
    split <;> trivial
  | ok got =>
    obtain ⟨hid, hseen⟩ := hb got rfl
    exact ⟨rfl, hseen, hid⟩

theorem meets_checkDefaultVPC (lb : LoadBalancer) :
    (checkDefaultVPC lb).Meets S allowed (fun _ w' => w' = w) w := by
  unfold checkDefaultVPC
  split
  · rfl
  · refine Meets.bind (meets_call (hread _ _ trivial) ?_)
    intro b w' hb
    obtain rfl := hS.same (.getVPC lb.vpcUUID) _ _ _ trivial hb
    cases b with
    | error e => rfl
    | ok vpc =>
      show Meets _ _ _ (if _ then _ else _) _
      split <;> rfl

end Procedures

end Reading

/-! ### The service -/

/-- The status and the address of a load balancer change by themselves, and its droplets are
looked up; everything else is reported as it is stored. -/
def LoadBalancer.Reports (got lb : LoadBalancer) : Prop :=
  got = { lb with id := got.id, status := got.status, ip := got.ip, dropletIDs := got.dropletIDs }

def LoadBalancer.configure (lb : LoadBalancer) (req : LoadBalancerRequest) : LoadBalancer :=
  { lb with
    name := req.name
    tag := req.tag
    sizeSlug := req.sizeSlug
    sizeUnit := req.sizeUnit
    forwardingRules := req.forwardingRules
    healthCheck := req.healthCheck
    dropletIDs := req.dropletIDs
    otherSettings := req.otherSettings }

def LoadBalancerRequest.new (req : LoadBalancerRequest) (id : String) : LoadBalancer where
  id := id
  name := req.name
  type := req.type
  region := some req.region
  tag := req.tag
  vpcUUID := req.vpcUUID
  sizeSlug := req.sizeSlug
  sizeUnit := req.sizeUnit
  forwardingRules := req.forwardingRules
  healthCheck := req.healthCheck
  dropletIDs := req.dropletIDs
  otherSettings := req.otherSettings

/-- What a service keeps: how it shows a load balancer, which IDs it has not given out, and what
the requests that change the account do. -/
structure Store (σ : Type) where
  account : σ → String → Option LoadBalancer
  shows : LoadBalancer → LoadBalancer → Prop
  free : σ → String → Prop
  created : σ → String → LoadBalancerRequest → σ
  updated : σ → String → LoadBalancer → LoadBalancerRequest → σ
  removed : σ → String → σ

/-- The service stores what is requested. Every request may fail, and one that changes the account
may fail after it took effect. -/
def Store.serve {σ : Type} (S : Store σ) : Service σ Request Answer
  | .get id, w, b, w' => w' = w ∧
      ∀ got : LoadBalancer, b = Except.ok (ε := ApiError) got →
        got.id = id ∧ ∃ lb, S.account w id = some lb ∧ S.shows lb got
  | .list _, w, b, w' => w' = w ∧
      ∀ page : Page, b = Except.ok (ε := ApiError) page →
        ∀ got ∈ page.items, ∃ lb, S.account w got.id = some lb ∧ S.shows lb got
  | .create req, w, b, w' =>
      (w' = w ∧ ∃ e : ApiError, b = Except.error (α := LoadBalancer) e) ∨
      ∃ id, S.free w id ∧ w' = S.created w id req ∧
        ∀ got : LoadBalancer, b = Except.ok (ε := ApiError) got →
          got.id = id ∧ S.shows (req.new id) got
  | .update id req, w, b, w' =>
      (w' = w ∧ ∃ e : ApiError, b = Except.error (α := LoadBalancer) e) ∨
      ∃ lb, S.account w id = some lb ∧ w' = S.updated w id lb req ∧
        ∀ got : LoadBalancer, b = Except.ok (ε := ApiError) got →
          got.id = id ∧ S.shows (lb.configure req) got
  | .delete id, w, b, w' =>
      (w' = w ∧ ∃ e : ApiError, b = Except.error (α := Unit) e) ∨ w' = S.removed w id
  | .getVPC _, w, _, w' => w' = w

theorem Store.reliable {σ : Type} (S : Store σ) : Reliable S.serve S.account S.shows where
  same r w b w' hr h := by
    cases r with
    | get id => exact h.1
    | list page => exact h.1
    | getVPC id => exact h
    | _ => exact hr.elim
  get id w b w' h got hgot := by
    obtain ⟨rfl, hseen⟩ := h.2 got hgot
    exact ⟨rfl, hseen⟩
  list page w b w' h p hp := h.2 p hp

def HasTag (tag : String) (lb : Option LoadBalancer) : Bool := lb.any (·.tag = tag)

namespace World

def created (w : World) (tag id : String) (req : LoadBalancerRequest) : World where
  account := Function.update w.account id (some (req.new id))
  creator := Function.update w.creator id (some .kubeone)
  reason := Function.update w.reason id (if req.tag = tag then some .created else none)

def updated (w : World) (tag id : String) (lb : LoadBalancer) (req : LoadBalancerRequest) :
    World where
  account := Function.update w.account id (some (lb.configure req))
  creator := w.creator
  reason := Function.update w.reason id
    (if req.tag = tag then (if lb.tag = tag then w.reason id else some .adopted) else none)

def removed (w : World) (id : String) : World :=
  { w with account := Function.update w.account id none }

def changed (w : World) (tag : String) (account : String → Option LoadBalancer) : World where
  account := account
  creator id := (w.creator id).or ((account id).map fun _ => .other)
  reason id :=
    if HasTag tag (account id) then
      (if HasTag tag (w.account id) then w.reason id else some .outside)
    else none

def initial (tag : String) (account : String → Option LoadBalancer) : World :=
  changed ⟨fun _ => none, fun _ => none, fun _ => none⟩ tag account

end World

def serve (tag : String) : Service World Request Answer :=
  Store.serve
    { account := World.account
      shows lb got := got.Reports lb
      free w id := w.creator id = none
      created w := w.created tag
      updated w := w.updated tag
      removed := World.removed }

/-- What others do between the runs; an ID is not given out again. -/
def Outside (tag : String) (w w' : World) : Prop :=
  ∃ account, (∀ id, w.creator id ≠ none → w.account id = none → account id = none) ∧
    w' = w.changed tag account

/-! ### Runs -/

inductive Operation
  | ensure
  | cleanup

structure Job where
  operation : Operation
  cluster : Cluster
  polls : ℕ
  pages : ℕ

def Job.code (j : Job) : Program Cluster :=
  match j.operation with
  | .ensure => Provider.ensureLoadBalancer j.polls j.pages j.cluster
  | .cleanup => Provider.cleanupLoadBalancer j.polls j.pages j.cluster

abbrev RunsOf (clusterName : String) :=
  Client.History (serve (clusterTag clusterName)) Job.code
    (fun j _ => j.cluster.name = clusterName) (Outside (clusterTag clusterName))

/-! ### Which requests a run sends -/

/-- Only ensure runs create, only an ensure run by ID puts the tag on a load balancer that is
not new, and only a cleanup by name deletes, and nothing without the name and the tag. -/
def Job.Allowed (j : Job) : Request → World → Prop
  | .create _, _ => j.operation = .ensure
  | .update id req, w => ∀ lb, w.account id = some lb → lb.tag ≠ clusterTag j.cluster.name →
      req.tag = clusterTag j.cluster.name → j.operation = .ensure ∧ j.cluster.lbSpec.id = id
  | .delete id, w => j.operation = .cleanup ∧ j.cluster.lbSpec.id = "" ∧
      ∃ lb, w.account id = some lb ∧ lb.name = j.cluster.lbSpec.name ∧
        lb.tag = clusterTag j.cluster.name
  | _, _ => True

variable {got lb : LoadBalancer}

theorem LoadBalancer.Reports.tag_eq (h : got.Reports lb) : got.tag = lb.tag := by
  rw [h]

theorem LoadBalancer.Reports.name_eq (h : got.Reports lb) : got.name = lb.name := by
  rw [h]

abbrev Seen : World → LoadBalancer → Prop := SeenIn World.account fun lb got => got.Reports lb

theorem reliable_serve (tag : String) :
    Reliable (serve tag) World.account fun lb got => got.Reports lb :=
  Store.reliable _

theorem Job.allowed_read (j : Job) (r : Request) (w : World) (h : r.IsRead) : j.Allowed r w := by
  cases r <;> first | exact h.elim | trivial

section Requests

variable {tag : String} {j : Job} {w : World}

theorem Seen.of_tag (h : Seen w got) (hlb : w.account got.id = some lb) : got.tag = lb.tag := by
  obtain ⟨lb', hlb', hrep⟩ := h
  rw [hlb] at hlb'
  cases hlb'
  exact hrep.tag_eq

theorem allowed_update {got : LoadBalancer} {req : LoadBalancerRequest} (hseen : Seen w got)
    (htag : req.tag ≠ got.tag → req.tag = clusterTag j.cluster.name →
      j.operation = .ensure ∧ j.cluster.lbSpec.id = got.id) :
    j.Allowed (.update got.id req) w := by
  intro lb hlb hne heq
  refine htag ?_ heq
  rw [hseen.of_tag hlb, heq]
  exact Ne.symm hne

theorem meets_reconcileLoadBalancer (polls : ℕ) (lb : LoadBalancer) (setTag : String)
    (restoreHealthCheck : Bool) (hseen : Seen w lb)
    (htag : setTag ≠ "" → j.operation = .ensure ∧ j.cluster.lbSpec.id = lb.id) :
    (reconcileLoadBalancer polls lb setTag restoreHealthCheck).Meets (serve tag) j.Allowed
      (fun _ _ => True) w := by
  unfold reconcileLoadBalancer
  split
  · trivial
  · next hasRule _ =>
    dsimp only
    split
    · trivial
    · refine Meets.bind (meets_call (allowed_update hseen ?_) ?_)
      · intro hne heq
        apply htag
        intro hempty
        apply hne
        subst hempty
        simp only [ne_eq, not_true_eq_false, if_false]
        split <;> split <;> rfl
      · intro b w' _
        cases b with
        | error e => trivial
        | ok updated =>
          exact (meets_waitForLoadBalancer (reliable_serve tag) j.allowed_read polls updated
            false).weaken fun _ _ _ => trivial

theorem meets_ensureExistingLoadBalancer (polls : ℕ) (hop : j.operation = .ensure) :
    (ensureExistingLoadBalancer polls j.cluster).Meets (serve tag) j.Allowed
      (fun _ _ => True) w := by
  refine Meets.bind ((meets_getLoadBalancer (reliable_serve tag) j.allowed_read _).weaken ?_)
  rintro lb _ ⟨rfl, hseen, hid⟩
  refine Meets.bind
    ((meets_waitForLoadBalancer (reliable_serve tag) j.allowed_read polls lb false).weaken ?_)
  rintro lb' _ ⟨rfl, hseen', hid'⟩
  split
  · trivial
  · split
    · trivial
    · refine Meets.bind
        ((meets_checkDefaultVPC (reliable_serve tag) j.allowed_read lb').weaken ?_)
      rintro b _ rfl
      cases b with
      | error err => trivial
      | ok _ =>
        dsimp only
        split
        · trivial
        · split
          · trivial
          · refine meets_reconcileLoadBalancer polls lb' _ false (hseen' hseen) ?_
            intro _
            exact ⟨hop, (hid'.trans hid).symm⟩

theorem meets_ensureLoadBalancer (polls pages : ℕ) (hop : j.operation = .ensure) :
    (ensureLoadBalancer polls pages j.cluster).Meets (serve tag) j.Allowed
      (fun _ _ => True) w := by
  unfold ensureLoadBalancer
  dsimp only
  split
  · exact meets_ensureExistingLoadBalancer polls hop
  · refine Meets.bind
      ((meets_findPages (reliable_serve tag) j.allowed_read _ _ _ pages 1 none (by simp)).weaken ?_)
    rintro found _ ⟨rfl, hfound⟩
    cases found with
    | some lb =>
      dsimp only
      split
      · trivial
      · refine Meets.bind
          ((meets_waitForLoadBalancer (reliable_serve tag) j.allowed_read polls lb false).weaken ?_)
        rintro lb' _ ⟨rfl, hseen, -⟩
        exact meets_reconcileLoadBalancer polls lb' "" true (hseen (hfound lb rfl).1) (by simp)
    | none =>
      refine Meets.bind (meets_call hop ?_)
      intro b w' _
      cases b with
      | error e => trivial
      | ok lb =>
        exact (meets_waitForLoadBalancer (reliable_serve tag) j.allowed_read polls lb
          true).weaken fun _ _ _ => trivial

theorem meets_cleanupLoadBalancer (pages : ℕ) (hop : j.operation = .cleanup)
    (hid : j.cluster.lbSpec.id = "") :
    (cleanupLoadBalancer pages j.cluster).Meets (serve tag) j.Allowed (fun _ _ => True) w := by
  refine Meets.bind ((meets_findPages (reliable_serve tag) j.allowed_read _ _ _ pages 1 none
    (by simp)).weaken ?_)
  rintro found _ ⟨rfl, hfound⟩
  cases found with
  | none => trivial
  | some lb =>
    dsimp only
    split
    · trivial
    · next howned =>
      split
      · trivial
      · obtain ⟨⟨lb', hlb', hrep⟩, hname⟩ := hfound lb rfl
        have htag : lb.tag = clusterTag j.cluster.name := by simpa [ownedByKubeOne] using howned
        refine Meets.bind (meets_call ⟨hop, hid, lb', hlb', ?_, ?_⟩ ?_)
        · rw [← hrep.name_eq, hname]
        · rw [← hrep.tag_eq, htag]
        · intro b w' _
          cases b with
          | error e =>
            show Meets _ _ _ (if _ then _ else _) _
            split <;> trivial
          | ok _ => trivial

theorem meets_releaseLoadBalancer (polls : ℕ) :
    (releaseLoadBalancer polls j.cluster).Meets (serve tag) j.Allowed (fun _ _ => True) w := by
  refine Meets.bind ((meets_get (reliable_serve tag) j.allowed_read).weaken ?_)
  rintro b _ ⟨rfl, hb⟩
  cases b with
  | error e =>
    show Meets _ _ _ (if _ then _ else _) _
    split <;> trivial
  | ok lb =>
    obtain ⟨-, hseen⟩ := hb lb rfl
    dsimp only
    split
    · trivial
    · refine Meets.bind
        ((meets_waitForLoadBalancer (reliable_serve tag) j.allowed_read polls lb false).weaken ?_)
      rintro lb' _ ⟨rfl, hseen', -⟩
      have hseen'' : Seen _ lb' := hseen' hseen
      refine Meets.bind (meets_call (allowed_update hseen'' ?_) ?_)
      · intro _ heq
        exact absurd heq.symm (clusterTag_ne_empty _)
      · intro b w' _
        cases b <;> trivial

theorem Job.meets_code (j : Job) (w : World) :
    j.code.Meets (serve tag) j.Allowed (fun _ _ => True) w := by
  unfold Job.code
  cases hop : j.operation with
  | ensure =>
    show (Provider.ensureLoadBalancer _ _ _).Meets _ _ _ _
    unfold Provider.ensureLoadBalancer
    split
    · trivial
    · refine Meets.bind ((meets_ensureLoadBalancer _ _ hop).weaken ?_)
      intros
      trivial
  | cleanup =>
    show (Provider.cleanupLoadBalancer _ _ _).Meets _ _ _ _
    unfold Provider.cleanupLoadBalancer
    split
    · refine Meets.bind ((meets_releaseLoadBalancer _).weaken ?_)
      intros
      trivial
    · next hid =>
      refine Meets.bind ((meets_cleanupLoadBalancer _ hop (by simpa using hid)).weaken ?_)
      intros
      trivial

end Requests

/-! ### Whole histories -/

/-- Every tag has a reason, and what is said to be created by KubeOne was. -/
structure World.Traced (tag : String) (w : World) : Prop where
  reason : ∀ id, HasTag tag (w.account id) = true → w.reason id ≠ none
  creator : ∀ id, w.reason id = some .created → w.creator id = some .kubeone

variable {w : World} {tag : String}

theorem World.Traced.changed (h : w.Traced tag)
    (account : String → Option LoadBalancer) : (w.changed tag account).Traced tag := by
  constructor
  · intro id hid
    simp only [World.changed] at hid ⊢
    rw [if_pos hid]
    split
    · next hw => exact h.reason id hw
    · simp
  · intro id hid
    simp only [World.changed] at hid ⊢
    split at hid
    · split at hid
      · simp [h.creator id hid]
      · cases hid
    · cases hid

theorem World.traced_initial (tag : String) (account : String → Option LoadBalancer) :
    (World.initial tag account).Traced tag :=
  World.Traced.changed ⟨by simp [HasTag], by simp⟩ account

theorem World.Traced.created (h : w.Traced tag) (id : String)
    (req : LoadBalancerRequest) : (w.created tag id req).Traced tag := by
  constructor
  · intro id' hid
    by_cases heq : id' = id
    · simp_all [World.created, HasTag, LoadBalancerRequest.new]
    · simp only [World.created, update_of_ne heq] at hid ⊢
      exact h.reason id' hid
  · intro id' hid
    by_cases heq : id' = id
    · subst heq
      simp [World.created]
    · simp only [World.created, update_of_ne heq] at hid ⊢
      exact h.creator id' hid

theorem World.Traced.updated {tag id : String} {lb : LoadBalancer}
    (h : w.Traced tag) (hlb : w.account id = some lb) (req : LoadBalancerRequest) :
    (w.updated tag id lb req).Traced tag := by
  constructor
  · intro id' hid
    by_cases heq : id' = id
    · subst heq
      have htag : req.tag = tag := by
        simpa [World.updated, HasTag, LoadBalancer.configure] using hid
      simp only [World.updated, update_self, htag, if_true]
      split
      · next hold => exact h.reason id' (by simp [HasTag, hlb, hold])
      · simp
    · simp only [World.updated, update_of_ne heq] at hid ⊢
      exact h.reason id' hid
  · intro id' hid
    by_cases heq : id' = id
    · subst heq
      simp only [World.updated, update_self] at hid ⊢
      split at hid
      · split at hid
        · exact h.creator id' hid
        · cases hid
      · cases hid
    · simp only [World.updated, update_of_ne heq] at hid ⊢
      exact h.creator id' hid

theorem World.Traced.removed (h : w.Traced tag) (id : String) : (w.removed id).Traced tag := by
  refine ⟨?_, h.creator⟩
  intro id' hid
  by_cases heq : id' = id
  · subst heq
    simp [World.removed, HasTag] at hid
  · simp only [World.removed, update_of_ne heq] at hid
    exact h.reason id' hid

theorem World.Traced.serve {w w' : World} {r : Request} {b : Answer r}
    (h : w.Traced tag) (hserve : serve tag r w b w') : w'.Traced tag := by
  cases r with
  | get id => exact hserve.1 ▸ h
  | list page => exact hserve.1 ▸ h
  | create req =>
    rcases hserve with ⟨rfl, -⟩ | ⟨id, -, rfl, -⟩
    · exact h
    · exact h.created id req
  | update id req =>
    rcases hserve with ⟨rfl, -⟩ | ⟨lb, hlb, rfl, -⟩
    · exact h
    · exact h.updated hlb req
  | delete id =>
    rcases hserve with ⟨rfl, -⟩ | rfl
    · exact h
    · exact h.removed id
  | getVPC id =>
    have heq : w' = w := hserve
    exact heq ▸ h

theorem RunsOf.sent {clusterName : String} {account : String → Option LoadBalancer}
    {sent : List (Client.Sent Job Request World)}
    (h : RunsOf clusterName (.initial (clusterTag clusterName) account) sent w) :
    ∀ x ∈ sent, x.state.Traced (clusterTag clusterName) ∧
      x.program.cluster.name = clusterName ∧ x.program.Allowed x.request x.state := by
  refine (Client.History.invariant (World.Traced (clusterTag clusterName))
    (fun j r w => j.cluster.name = clusterName ∧ j.Allowed r w) ?_ ?_ ?_ h
    (World.traced_initial _ account)).2
  · rintro j r w b w' htraced - hserve
    exact htraced.serve hserve
  · rintro w w' htraced ⟨account', -, rfl⟩
    exact htraced.changed account'
  · intro j w _ hname
    exact (j.meets_code w).allow fun r w' hr => ⟨hname, hr⟩

/-- What a cleanup deletes has the configured name and the tag of the cluster, and it has the tag
because KubeOne created it, because an update of KubeOne put the tag on it and no other took it
off, or because somebody else put it there. Such an update is sent only by an ensure run that
refers to the load balancer by ID, and only ensure runs create load balancers. -/
theorem cleanup_deletes_only_tagged (clusterName : String)
    (account : String → Option LoadBalancer) (sent : List (Client.Sent Job Request World))
    (w : World) (h : RunsOf clusterName (.initial (clusterTag clusterName) account) sent w) :
    (∀ x ∈ sent, ∀ id, x.request = .delete id →
      x.program.operation = .cleanup ∧ x.program.cluster.lbSpec.id = "" ∧
      (∃ lb, x.state.account id = some lb ∧ lb.name = x.program.cluster.lbSpec.name ∧
        lb.tag = clusterTag clusterName) ∧
      (x.state.creator id = some .kubeone ∨ x.state.reason id = some .adopted ∨
        x.state.reason id = some .outside)) ∧
    (∀ x ∈ sent, ∀ id req lb, x.request = .update id req → x.state.account id = some lb →
      lb.tag ≠ clusterTag clusterName → req.tag = clusterTag clusterName →
      x.program.operation = .ensure ∧ x.program.cluster.lbSpec.id = id) ∧
    (∀ x ∈ sent, ∀ req, x.request = .create req → x.program.operation = .ensure) := by
  have hsent := RunsOf.sent h
  refine ⟨?_, ?_, ?_⟩
  · intro x hx id hreq
    obtain ⟨htraced, hname, hallowed⟩ := hsent x hx
    rw [hreq] at hallowed
    obtain ⟨hop, hid, lb, hlb, hlbname, htag⟩ := hallowed
    rw [hname] at htag
    refine ⟨hop, hid, ⟨lb, hlb, hlbname, htag⟩, ?_⟩
    have hreason := htraced.reason id (by simp [HasTag, hlb, htag])
    cases hr : x.state.reason id with
    | none => exact absurd hr hreason
    | some reason =>
      cases reason with
      | created => exact .inl (htraced.creator id hr)
      | adopted => exact .inr (.inl rfl)
      | outside => exact .inr (.inr rfl)
  · intro x hx id req lb hreq hlb hne heq
    obtain ⟨-, hname, hallowed⟩ := hsent x hx
    rw [hreq] at hallowed
    exact hallowed lb hlb (hname ▸ hne) (hname ▸ heq)
  · intro x hx req hreq
    obtain ⟨-, -, hallowed⟩ := hsent x hx
    rw [hreq] at hallowed
    exact hallowed

/-! ### A load balancer that changes its reference -/

def reply (tag : String) (ids : List String) : (r : Request) → World → Answer r × World
  | .get id, w =>
    match w.account id with
    | some lb => (.ok { lb with id := id }, w)
    | none => (.error ⟨some 404, "not found"⟩, w)
  | .list _, w =>
    (.ok ⟨ids.filterMap fun id => (w.account id).map ({ · with id := id }), none⟩, w)
  | .create _, w => (.error ⟨some 422, "limit reached"⟩, w)
  | .update id req, w =>
    match w.account id with
    | some lb => (.ok { lb.configure req with id := id }, w.updated tag id lb req)
    | none => (.error ⟨some 404, "not found"⟩, w)
  | .delete id, w => (.ok (), w.removed id)
  | .getVPC _, w => (.error ⟨some 404, "not found"⟩, w)

theorem serve_reply (tag : String) (ids : List String) (r : Request) (w : World) :
    serve tag r w (reply tag ids r w).1 (reply tag ids r w).2 := by
  cases r with
  | get id =>
    cases hlb : w.account id with
    | none => simp [serve, Store.serve, reply, hlb]
    | some lb =>
      simp only [serve, Store.serve, reply, hlb, true_and]
      rintro _ ⟨⟩
      exact ⟨rfl, lb, rfl, rfl⟩
  | list page =>
    simp only [serve, Store.serve, reply, true_and]
    rintro _ ⟨⟩ got hgot
    simp only [List.mem_filterMap, Option.map_eq_some_iff] at hgot
    obtain ⟨id, -, lb, hlb, rfl⟩ := hgot
    exact ⟨lb, hlb, rfl⟩
  | create req => exact .inl ⟨rfl, _, rfl⟩
  | update id req =>
    cases hlb : w.account id with
    | none =>
      left
      simp only [reply, hlb]
      exact ⟨trivial, _, rfl⟩
    | some lb =>
      right
      simp only [reply, hlb]
      refine ⟨lb, rfl, rfl, ?_⟩
      rintro _ ⟨⟩
      exact ⟨rfl, rfl⟩
  | delete id => exact .inr rfl
  | getVPC id => rfl

def userLoadBalancer : LoadBalancer where
  id := "lb"
  name := "api"
  healthCheck := some kubeAPIHealthCheck
  status := "active"
  ip := "192.0.2.1"

def userAccount : String → Option LoadBalancer := fun id =>
  if id = "lb" then some userLoadBalancer else none

def ensureByID : Job := ⟨.ensure, { name := "one", lbSpec := { id := "lb" } }, 1, 1⟩
def cleanupByName : Job := ⟨.cleanup, { name := "one", lbSpec := { name := "api" } }, 1, 1⟩

def switchedRequests : List (Client.Sent Job Request World) :=
  let f := reply (clusterTag "one") ["lb"]
  let ensured := ensureByID.code.exec f (.initial (clusterTag "one") userAccount)
  let cleaned := cleanupByName.code.exec f ensured.2.1
  ensured.1.map (fun x => ⟨ensureByID, x.1, x.2⟩) ++
    (cleaned.1.map (fun x => ⟨cleanupByName, x.1, x.2⟩) ++ [])

theorem switched_runs :
    ∃ w, RunsOf "one" (.initial (clusterTag "one") userAccount) switchedRequests w :=
  ⟨_, .run rfl (run_exec (serve_reply _ _) _ _)
    (.run rfl (run_exec (serve_reply _ _) _ _) (.nil _))⟩

theorem switched_delete :
    ∃ x ∈ switchedRequests, x.request = .delete "lb" ∧ x.state.creator "lb" = some .other :=
  ⟨_, .tail _ (.tail _ (.tail _ (.head _))), rfl, rfl⟩

/-- The cleanup deletes the load balancer of the user. -/
theorem switched_reference_deletes :
    ∃ sent w, RunsOf "one" (.initial (clusterTag "one") userAccount) sent w ∧
      ∃ x ∈ sent, x.request = .delete "lb" ∧ x.state.creator "lb" = some .other := by
  obtain ⟨w, h⟩ := switched_runs
  exact ⟨switchedRequests, w, h, switched_delete⟩

theorem switched_reference_explained :
    ∃ x ∈ switchedRequests, x.request = .delete "lb" ∧
      (x.state.creator "lb" = some .kubeone ∨ x.state.reason "lb" = some .adopted ∨
        x.state.reason "lb" = some .outside) := by
  obtain ⟨w, h⟩ := switched_runs
  obtain ⟨x, hx, hreq, -⟩ := switched_delete
  have hexplained := (cleanup_deletes_only_tagged "one" userAccount switchedRequests w h).1 x hx
  exact ⟨x, hx, hreq, (hexplained "lb" hreq).2.2.2⟩

end KubeOne.CloudProvider.DigitalOcean
