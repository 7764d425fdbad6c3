import KubeOne.CloudProvider.DigitalOcean.Ownership

/-! Reconciling a load balancer. Fields that exclude each other are one setting: the size is a
number of units or a slug, and the backends are selected by a tag or listed. One request changes
everything, and with its answer nothing is left to change. -/

namespace KubeOne.CloudProvider.DigitalOcean

open Process Client List LoadBalancerRequest

inductive Size
  | units (n : ℕ)
  | slug (s : String)

inductive Backends
  | tagged (tag : String)
  | droplets (ids : List ℕ)

structure Settings where
  name : String
  type : String
  region : String
  vpcUUID : String
  size : Size
  backends : Backends
  forwardingRules : List ForwardingRule
  healthCheck : Option HealthCheck
  otherSettings : List (String × String)

def LoadBalancerRequest.settings (req : LoadBalancerRequest) : Settings where
  name := req.name
  type := req.type
  region := req.region
  vpcUUID := req.vpcUUID
  size := if req.sizeUnit > 0 then .units req.sizeUnit else .slug req.sizeSlug
  backends := if req.tag ≠ "" then .tagged req.tag else .droplets req.dropletIDs
  forwardingRules := req.forwardingRules
  healthCheck := req.healthCheck
  otherSettings := req.otherSettings

abbrev LoadBalancer.settings (lb : LoadBalancer) : Settings := lb.asRequest.settings

/-- The backends, the rule on the port of the API server and, when it is restored, the health
check are brought in order; the rest stays. -/
def Settings.reconciled (s : Settings) (setTag : String) (restoreHealthCheck : Bool) : Settings :=
  { s with
    backends := if setTag = "" then s.backends else .tagged setTag
    forwardingRules :=
      if s.forwardingRules.any (·.entryPort = kubeAPIPort) then s.forwardingRules
      else s.forwardingRules ++ [kubeAPIForwardingRule]
    healthCheck :=
      if restoreHealthCheck && !isKubeAPIHealthCheck s.healthCheck then some kubeAPIHealthCheck
      else s.healthCheck }

inductive Reference
  | byName
  | byID

namespace Reference

def setTag : Reference → Cluster → LoadBalancer → String
  | .byName, _, _ => ""
  | .byID, cluster, lb =>
    if lb.tag = clusterTag cluster.name then "" else clusterTag cluster.name

def restores : Reference → Bool
  | .byName => true
  | .byID => false

def Accepts : Reference → Cluster → LoadBalancer → Prop
  | .byName, cluster, lb => ownedByKubeOne lb cluster.name = true
  | .byID, cluster, lb => lb.type ≠ loadBalancerTypeGlobal ∧
      checkRegion lb cluster.lbSpec.region = .ok () ∧
      (lb.tag = clusterTag cluster.name ∨ lb.tag = "" ∧ lb.dropletIDs = []) ∧
      checksKubeAPI lb.healthCheck = true

variable {lb : LoadBalancer}

theorem Accepts.tag {ref : Reference} {cluster : Cluster} (h : ref.Accepts cluster lb) :
    lb.tag = clusterTag cluster.name ∧ ref.setTag cluster lb = "" ∨
      lb.tag = "" ∧ lb.dropletIDs = [] ∧ ref.setTag cluster lb = clusterTag cluster.name := by
  cases ref with
  | byName =>
    left
    exact ⟨of_decide_eq_true h, rfl⟩
  | byID =>
    rcases h.2.2.1 with htag | ⟨htag, hids⟩
    · left
      exact ⟨htag, if_pos htag⟩
    · right
      refine ⟨htag, hids, if_neg ?_⟩
      rw [htag]
      exact (clusterTag_ne_empty cluster.name).symm

end Reference

abbrev Account := String → Option LoadBalancer

section Api

variable (resolve : String → List ℕ)

def LoadBalancer.ShownAs (lb got : LoadBalancer) : Prop :=
  got = { lb with
    status := got.status
    ip := got.ip
    dropletIDs := if lb.tag = "" then lb.dropletIDs else resolve lb.tag }

def api : Service Account Request Answer :=
  Store.serve
    { account := id
      shows lb got := lb.ShownAs resolve got
      free w id := w id = none
      created w id req := Function.update w id (some (req.new id))
      updated w id lb req := Function.update w id (some (lb.configure req))
      removed w id := Function.update w id none }

def Account.Shows (w : Account) (got : LoadBalancer) : Prop :=
  ∃ lb, w got.id = some lb ∧ lb.ShownAs resolve got

theorem reliable_api : Reliable (api resolve) id fun lb got => lb.ShownAs resolve got :=
  Store.reliable _

abbrev Leaves {α : Type} (Q : α → Account → Prop) (c : Program α) (w : Account) : Prop :=
  c.Meets (api resolve) (fun _ _ => True) Q w

end Api

def Request.isUpdate : Request → Bool
  | .update _ _ => true
  | _ => false

theorem Request.IsRead.not_update {r : Request} (h : r.IsRead) : r.isUpdate = false := by
  cases r <;> first | exact h.elim | rfl

def reconcileRequest (lb : LoadBalancer) (setTag : String) (restoreHealthCheck hasRule : Bool) :
    LoadBalancerRequest :=
  let req := updateRequest lb
  let req := if setTag ≠ "" then { req with tag := setTag } else req
  let req :=
    if restoreHealthCheck && !isKubeAPIHealthCheck lb.healthCheck then
      { req with healthCheck := kubeAPIHealthCheck }
    else req
  if hasRule then req
  else { req with forwardingRules := req.forwardingRules ++ [kubeAPIForwardingRule] }

theorem hasKubeAPIForwardingRule_ok {hasRule : Bool}
    (h : hasKubeAPIForwardingRule lb = .ok hasRule) :
    hasRule = lb.forwardingRules.any (·.entryPort = kubeAPIPort) := by
  unfold hasKubeAPIForwardingRule at h
  split at h
  · next hnone =>
    rw [← Except.ok.inj h, eq_comm, any_eq_false]
    exact find?_eq_none.1 hnone
  · next rule hrule =>
    split at h
    · cases h
    · rw [← Except.ok.inj h, eq_comm, any_eq_true]
      refine ⟨rule, mem_of_find?_eq_some hrule, ?_⟩
      simpa using find?_some hrule

theorem reconcileRequest_eq (lb : LoadBalancer) (setTag : String)
    (restoreHealthCheck hasRule : Bool) :
    reconcileRequest lb setTag restoreHealthCheck hasRule =
      { updateRequest lb with
        tag := if setTag = "" then lb.tag else setTag
        healthCheck :=
          if restoreHealthCheck && !isKubeAPIHealthCheck lb.healthCheck then
            some kubeAPIHealthCheck
          else lb.healthCheck
        forwardingRules :=
          if hasRule then lb.forwardingRules
          else lb.forwardingRules ++ [kubeAPIForwardingRule] } := by
  unfold reconcileRequest
  by_cases htag : setTag = "" <;>
    cases restoreHealthCheck && !isKubeAPIHealthCheck lb.healthCheck <;> cases hasRule <;>
    simp [htag, updateRequest, LoadBalancer.asRequest]

variable {setTag : String}

theorem settings_reconcileRequest {hasRule : Bool}
    (hrule : hasRule = lb.forwardingRules.any (·.entryPort = kubeAPIPort))
    (hbackends : setTag ≠ "" ∨ lb.tag ≠ "") (restoreHealthCheck : Bool) :
    (reconcileRequest lb setTag restoreHealthCheck hasRule).settings =
      lb.settings.reconciled setTag restoreHealthCheck := by
  subst hrule
  rw [reconcileRequest_eq]
  unfold LoadBalancer.settings settings Settings.reconciled
  simp only [LoadBalancer.asRequest, updateRequest, Settings.mk.injEq, true_and, and_true]
  constructor
  · by_cases hunits : lb.sizeUnit > 0 <;> simp [hunits]
  · by_cases htag : setTag = ""
    · have hlb : lb.tag ≠ "" := hbackends.resolve_left (not_not.2 htag)
      simp [htag, hlb]
    · simp [htag]

theorem reconcileLoadBalancer_cases (polls : ℕ) (lb : LoadBalancer) (setTag : String)
    (restoreHealthCheck : Bool) :
    (∃ failure, reconcileLoadBalancer polls lb setTag restoreHealthCheck = .fail failure) ∨
      ∃ hasRule, hasKubeAPIForwardingRule lb = .ok hasRule ∧
        (setTag = "" ∧ (restoreHealthCheck && !isKubeAPIHealthCheck lb.healthCheck) = false ∧
            hasRule = true ∧
            reconcileLoadBalancer polls lb setTag restoreHealthCheck = pure lb ∨
          reconcileLoadBalancer polls lb setTag restoreHealthCheck =
            .send (.update lb.id (reconcileRequest lb setTag restoreHealthCheck hasRule))
              fun b : Except ApiError LoadBalancer => match b with
                | .error e => .fail ⟨.api e, "updating load balancer %q", [lb.id]⟩
                | .ok updated => waitForLoadBalancer polls updated false) := by
  unfold reconcileLoadBalancer
  cases hrule : hasKubeAPIForwardingRule lb with
  | error err => exact .inl ⟨_, rfl⟩
  | ok hasRule =>
    right
    refine ⟨hasRule, rfl, ?_⟩
    dsimp only
    split
    · next hnone => exact .inl ⟨hnone.1, hnone.2.1, hnone.2.2, rfl⟩
    · right
      rfl

variable {resolve : String → List ℕ}

theorem LoadBalancer.ShownAs.settings_eq {lb got : LoadBalancer}
    (h : lb.ShownAs resolve got) : got.settings = lb.settings := by
  rw [h]
  unfold LoadBalancer.settings LoadBalancerRequest.settings LoadBalancer.asRequest
  by_cases htag : lb.tag = "" <;> simp [htag]

theorem LoadBalancer.ShownAs.region_eq {lb got : LoadBalancer}
    (h : lb.ShownAs resolve got) : got.region = lb.region := by
  rw [h]

theorem settings_configure_reconcileRequest
    {stored lb : LoadBalancer} (h : stored.ShownAs resolve lb) (setTag : String)
    (restoreHealthCheck hasRule : Bool) :
    (stored.configure (reconcileRequest lb setTag restoreHealthCheck hasRule)).settings =
      (reconcileRequest lb setTag restoreHealthCheck hasRule).settings := by
  rw [reconcileRequest_eq, h]
  rfl

section Again

variable {ref : Reference} {cluster : Cluster} {lb lb' : LoadBalancer} {hasRule : Bool}
  {restoreHealthCheck : Bool}

theorem forwardingRules_eq_of_settings
    (h : lb'.settings = lb.settings.reconciled setTag restoreHealthCheck) :
    lb'.forwardingRules =
      if lb.forwardingRules.any (·.entryPort = kubeAPIPort) then lb.forwardingRules
      else lb.forwardingRules ++ [kubeAPIForwardingRule] :=
  congrArg Settings.forwardingRules h

theorem healthCheck_eq_of_settings
    (h : lb'.settings = lb.settings.reconciled setTag restoreHealthCheck) :
    lb'.healthCheck =
      if restoreHealthCheck && !isKubeAPIHealthCheck lb.healthCheck then some kubeAPIHealthCheck
      else lb.healthCheck :=
  congrArg Settings.healthCheck h

theorem tag_eq_of_settings (haccepts : ref.Accepts cluster lb)
    (h : lb'.settings = lb.settings.reconciled (ref.setTag cluster lb) restoreHealthCheck) :
    lb'.tag = clusterTag cluster.name := by
  have hne := clusterTag_ne_empty cluster.name
  have hbackends : lb'.settings.backends = .tagged (clusterTag cluster.name) := by
    rw [h]
    unfold Settings.reconciled
    rcases haccepts.tag with ⟨htag, hset⟩ | ⟨-, -, hset⟩
    · simp [hset, LoadBalancer.settings, settings, LoadBalancer.asRequest, htag, hne]
    · simp [hset, hne]
  by_cases hempty : lb'.tag = "" <;>
    simp [LoadBalancer.settings, settings, LoadBalancer.asRequest, hempty] at hbackends
  exact hbackends

theorem hasKubeAPIForwardingRule_reconciled (hrule : hasKubeAPIForwardingRule lb = .ok hasRule)
    (h : lb'.settings = lb.settings.reconciled setTag restoreHealthCheck) :
    hasKubeAPIForwardingRule lb' = .ok true := by
  have hany := hasKubeAPIForwardingRule_ok hrule
  have hrules := forwardingRules_eq_of_settings h
  rw [← hany] at hrules
  unfold hasKubeAPIForwardingRule at hrule ⊢
  rw [hrules]
  cases hasRule with
  | true =>
    simp only [if_true]
    split at hrule
    · cases hrule
    · split at hrule
      · cases hrule
      · next hwanted => simp [*]
  | false =>
    have hnone : lb.forwardingRules.find? (fun rule => rule.entryPort = kubeAPIPort) = none := by
      rw [find?_eq_none]
      exact any_eq_false.1 hany.symm
    simp [find?_append, hnone, kubeAPIForwardingRule]

theorem isKubeAPIHealthCheck_kubeAPIHealthCheck :
    isKubeAPIHealthCheck (some kubeAPIHealthCheck) = true := by decide

theorem reconcileLoadBalancer_settled (hrule : hasKubeAPIForwardingRule lb = .ok hasRule)
    (haccepts : ref.Accepts cluster lb)
    (h : lb'.settings = lb.settings.reconciled (ref.setTag cluster lb) ref.restores) (polls : ℕ) :
    reconcileLoadBalancer polls lb' (ref.setTag cluster lb') ref.restores = pure lb' := by
  have htag := tag_eq_of_settings haccepts h
  have hset : ref.setTag cluster lb' = "" := by
    cases ref with
    | byName => rfl
    | byID => exact if_pos htag
  have hhealth : (ref.restores && !isKubeAPIHealthCheck lb'.healthCheck) = false := by
    rw [healthCheck_eq_of_settings h]
    cases hneeds : ref.restores && !isKubeAPIHealthCheck lb.healthCheck with
    | true => simp [isKubeAPIHealthCheck_kubeAPIHealthCheck]
    | false => simpa using hneeds
  unfold reconcileLoadBalancer
  rw [hasKubeAPIForwardingRule_reconciled hrule h]
  dsimp only
  rw [if_pos ⟨hset, hhealth, rfl⟩]

theorem Reference.Accepts.again (haccepts : ref.Accepts cluster lb)
    (h : lb'.settings = lb.settings.reconciled (ref.setTag cluster lb) ref.restores)
    (hregion : lb'.region = lb.region) : ref.Accepts cluster lb' := by
  have hname : lb'.name = lb.name := congrArg Settings.name h
  have htag := tag_eq_of_settings haccepts h
  cases ref with
  | byName => exact decide_eq_true htag
  | byID =>
    obtain ⟨htype, hreg, -, hcheck⟩ := haccepts
    refine ⟨?_, ?_, .inl htag, ?_⟩
    · have htype' : lb'.type = lb.type := congrArg Settings.type h
      rwa [htype']
    · unfold checkRegion at hreg ⊢
      rwa [hregion, hname]
    · rw [healthCheck_eq_of_settings h]
      simpa [Reference.restores] using hcheck

end Again

section Runs

variable {resolve : String → List ℕ} {ref : Reference} {cluster : Cluster} {lb : LoadBalancer}
  {w w' : Account} {polls : ℕ}

theorem Reference.Accepts.backends (h : ref.Accepts cluster lb) :
    ref.setTag cluster lb ≠ "" ∨ lb.tag ≠ "" := by
  have hne := clusterTag_ne_empty cluster.name
  rcases h.tag with ⟨htag, -⟩ | ⟨-, -, hset⟩
  · exact .inr (htag ▸ hne)
  · exact .inl (hset ▸ hne)

theorem updates_of_reconcile (haccepts : ref.Accepts cluster lb)
    {calls : List (Request × Account)} {out : Option (Except Failure LoadBalancer)}
    (hrun : Client.Run (api resolve)
      (reconcileLoadBalancer polls lb (ref.setTag cluster lb) ref.restores) w calls w' out) :
    (calls.filter (·.1.isUpdate)).length ≤ 1 ∧
      ∀ x ∈ calls, x.1.isUpdate = true → ∃ req, x.1 = .update lb.id req ∧
        req.settings = lb.settings.reconciled (ref.setTag cluster lb) ref.restores := by
  rcases reconcileLoadBalancer_cases polls lb (ref.setTag cluster lb) ref.restores with
    ⟨failure, heq⟩ | ⟨hasRule, hrule, ⟨-, -, -, heq⟩ | heq⟩
  · rw [heq] at hrun
    cases hrun <;> simp
  · rw [heq] at hrun
    cases hrun <;> simp
  · rw [heq] at hrun
    have hsettings := settings_reconcileRequest (hasKubeAPIForwardingRule_ok hrule)
      haccepts.backends ref.restores
    cases hrun with
    | stop => simp
    | @send _ _ _ t _ b calls _ answer rest =>
      have hrest : ∀ x ∈ calls, x.1.isUpdate = false := by
        cases b with
        | error e => cases rest <;> simp
        | ok updated =>
          have hwait := meets_waitForLoadBalancer (w := t) (reliable_api resolve)
            (fun r _ (h : r.IsRead) => h.not_update) polls updated
            false
          have hsent := Meets.run (I := fun _ => True) (fun _ _ _ _ _ _ _ => trivial)
            hwait trivial rest
          exact fun x hx => (hsent.2.1 x hx).2
      constructor
      · have hnone : calls.filter (·.1.isUpdate) = [] := by
          rw [filter_eq_nil_iff]
          intro x hx
          simp [hrest x hx]
        rw [filter_cons_of_pos rfl, hnone]
        exact Nat.le_refl 1
      · intro x hx hupdate
        rcases mem_cons.1 hx with rfl | hx
        · exact ⟨_, rfl, hsettings⟩
        · rw [hrest x hx] at hupdate
          cases hupdate

theorem settings_of_reconcile (haccepts : ref.Accepts cluster lb) (hshows : w.Shows resolve lb) :
    Leaves resolve (fun got w' => w'.Shows resolve got ∧
        (∃ hasRule, hasKubeAPIForwardingRule lb = .ok hasRule) ∧ got.region = lb.region ∧
        got.settings = lb.settings.reconciled (ref.setTag cluster lb) ref.restores)
      (reconcileLoadBalancer polls lb (ref.setTag cluster lb) ref.restores) w := by
  rcases reconcileLoadBalancer_cases polls lb (ref.setTag cluster lb) ref.restores with
    ⟨failure, heq⟩ | ⟨hasRule, hrule, ⟨hset, hhealth, rfl, heq⟩ | heq⟩
  · rw [heq]
    trivial
  · rw [heq]
    refine ⟨hshows, ⟨_, hrule⟩, rfl, ?_⟩
    have hany : lb.settings.forwardingRules.any (·.entryPort = kubeAPIPort) = true :=
      (hasKubeAPIForwardingRule_ok hrule).symm
    have hcheck : (ref.restores && !isKubeAPIHealthCheck lb.settings.healthCheck) = false := hhealth
    unfold Settings.reconciled
    simp [hset, hany, hcheck]
  · rw [heq]
    obtain ⟨stored, hstored, hshown⟩ := hshows
    have hsettings := settings_reconcileRequest (hasKubeAPIForwardingRule_ok hrule)
      haccepts.backends ref.restores
    refine ⟨trivial, ?_⟩
    rintro b w₁ hb
    cases b with
    | error e => trivial
    | ok updated =>
      obtain ⟨-, e, he⟩ | ⟨lb₀, hlb₀, rfl, hgot⟩ := hb
      · cases he
      · obtain rfl := Option.some.inj (hstored.symm.trans hlb₀)
        obtain ⟨hid, hupdated⟩ := hgot updated rfl
        have hseen : Account.Shows resolve (Function.update w lb.id
            (some (stored.configure (reconcileRequest lb (ref.setTag cluster lb) ref.restores
              hasRule)))) updated :=
          ⟨_, by rw [hid, Function.update_self], hupdated⟩
        refine (meets_waitForLoadBalancer (reliable_api resolve) (fun _ _ _ => trivial) polls
          updated false).weaken ?_
        rintro got _ ⟨rfl, hgotseen, hgotid⟩
        obtain ⟨final, hfinal, hfinalshown⟩ := hgotseen hseen
        rw [hgotid, hid] at hfinal
        obtain rfl := Option.some.inj ((Function.update_self lb.id _ w).symm.trans hfinal)
        refine ⟨hgotseen hseen, ⟨_, hrule⟩, ?_, ?_⟩
        · rw [hfinalshown.region_eq, hshown.region_eq]
          rfl
        · rw [hfinalshown.settings_eq, settings_configure_reconcileRequest hshown, hsettings]

end Runs

/-- Reconciling a load balancer that was read and passed the checks sends at most one update, which
changes nothing but the backends, the rule of the API server and, when it is restored, the health
check. The load balancer that comes back is configured so, passes the checks, and reconciling it
again sends nothing. -/
theorem reconcile_minimal_idempotent (resolve : String → List ℕ) (ref : Reference)
    (cluster : Cluster) (polls : ℕ) (lb : LoadBalancer) (w : Account)
    (hshows : w.Shows resolve lb) (haccepts : ref.Accepts cluster lb) :
    (∀ calls w' out, Client.Run (api resolve)
        (reconcileLoadBalancer polls lb (ref.setTag cluster lb) ref.restores) w calls w' out →
      (calls.filter (·.1.isUpdate)).length ≤ 1 ∧
        ∀ x ∈ calls, x.1.isUpdate = true → ∃ req, x.1 = .update lb.id req ∧
          req.settings = lb.settings.reconciled (ref.setTag cluster lb) ref.restores) ∧
    ∀ calls w' lb', Client.Run (api resolve)
        (reconcileLoadBalancer polls lb (ref.setTag cluster lb) ref.restores) w calls w'
        (some (.ok lb')) →
      lb'.settings = lb.settings.reconciled (ref.setTag cluster lb) ref.restores ∧
        w'.Shows resolve lb' ∧ ref.Accepts cluster lb' ∧
        ∀ polls', reconcileLoadBalancer polls' lb' (ref.setTag cluster lb') ref.restores =
          pure lb' := by
  refine ⟨fun calls w' out hrun => updates_of_reconcile haccepts hrun, ?_⟩
  intro calls w' lb' hrun
  obtain ⟨hseen, ⟨hasRule, hrule⟩, hregion, hsettings⟩ :=
    (Meets.run (I := fun _ => True) (fun _ _ _ _ _ _ _ => trivial)
      (settings_of_reconcile haccepts hshows) trivial hrun).2.2 lb' rfl
  exact ⟨hsettings, hseen, haccepts.again hsettings hregion,
    reconcileLoadBalancer_settled hrule haccepts hsettings⟩

namespace Restored

def demo : Cluster where
  name := "demo"
  lbSpec := { name := "demo-kubeapi", region := "fra1", sizeUnit := 1 }

def stripped : LoadBalancer where
  id := "lb-1"
  name := "demo-kubeapi"
  region := some "fra1"
  tag := "kubeone-cluster:demo"
  sizeSlug := "lb-small"
  sizeUnit := 1
  dropletIDs := [1, 2]
  status := "active"
  ip := "203.0.113.20"

def account : Account := fun id => if id = "lb-1" then some stripped else none

def droplets (tag : String) : List ℕ := if tag = "kubeone-cluster:demo" then [1, 2] else []

theorem stripped_is_restored :
    (∀ calls w' out, Client.Run (api droplets) (reconcileLoadBalancer 3 stripped "" true) account
        calls w' out →
      (calls.filter (·.1.isUpdate)).length ≤ 1 ∧
        ∀ x ∈ calls, x.1.isUpdate = true → ∃ req, x.1 = .update "lb-1" req ∧
          req.settings = stripped.settings.reconciled "" true) ∧
    ∀ calls w' lb', Client.Run (api droplets) (reconcileLoadBalancer 3 stripped "" true) account
        calls w' (some (.ok lb')) →
      lb'.settings = stripped.settings.reconciled "" true ∧ w'.Shows droplets lb' ∧
        ownedByKubeOne lb' "demo" = true ∧
        ∀ polls', reconcileLoadBalancer polls' lb' "" true = pure lb' :=
  reconcile_minimal_idempotent droplets .byName demo 3 stripped account
    ⟨stripped, rfl, rfl⟩ (decide_eq_true (by decide : stripped.tag = clusterTag "demo"))

end Restored

end KubeOne.CloudProvider.DigitalOcean
