import KubeOne.CloudProvider.Gce.Complete

/-! The endpoints of the VMs. Over every sequence of runs, also with VMs recreated in between, a
group of the cluster has at most one endpoint of a VM. After a run that ensures the members it is
exactly one, with the current address; joining hosts have none in the backends. -/

namespace KubeOne.CloudProvider.Gce

open Process Text

/-- What happens between runs: VMs are deleted and created, possibly with the loss of endpoints,
but nobody else adds endpoints to the groups of the cluster. -/
structure Recreated (owner : String) (w w' : Compute) : Prop where
  vms : WellFormedVMs w'
  groups : ∀ p r', w'.resources .networkEndpointGroup p = some r' → r'.description = owner →
    ∃ r, w.resources .networkEndpointGroup p = some r ∧ r.description = owner ∧
      r'.members.Sublist r.members

variable {w : Compute}

theorem Creating.fresh {cfg : LbConfig} {r : Request} (h : Creating cfg r w) : r.Fresh w := by
  cases r with
  | insert k p x =>
    cases k with
    | networkEndpointGroup => exact absurd rfl h.1
    | _ => trivial
  | patchFirewall p sourceRanges targetTags => trivial
  | _ => exact h.elim

theorem Deleting.fresh {owner : String} {r : Request} (h : Deleting owner r w) : r.Fresh w := by
  cases r with
  | delete k p => trivial
  | _ => exact h.elim

theorem fresh_of_enrolling {α : Type} {Q : α → Compute → Prop} {c : Program α} {s : Cluster}
    {joining : List String} (hvms : WellFormedVMs w)
    (h : Sending (EnrollingIn s joining w) Q c w) :
    c.Meets serve Request.Fresh (fun _ _ => True) w := by
  refine (h.strengthen ?_ ?_ hvms).weaken fun _ _ _ => trivial
  · intro r w₁ b w₂ hvms _ hs
    rcases serve_cases hs with rfl | heffect
    · exact hvms
    · exact hvms.congr (instances_effect heffect)
  · rintro r w' hvms (hr | ⟨cfg, -, hr⟩)
    · exact hr.fresh
    · exact hr.fresh hvms

theorem Job.fresh_code {j : Job} (hvms : WellFormedVMs w) :
    j.code.Meets serve Request.Fresh (fun _ _ => True) w := by
  obtain ⟨task, s, waits⟩ := j
  have hall : Resolves serve s w fun _ => True := resolves_of_forall fun _ => trivial
  cases task with
  | ensure =>
    refine (creating_provider_ensureLoadBalancer (fun _ _ _ _ => id) hall).allow ?_
    rintro r w' (hr | ⟨cfg, -, -, hr⟩)
    · exact hr.fresh
    · exact hr.fresh
  | ensureMembers => exact fresh_of_enrolling hvms enrolling_provider_ensureMembers
  | ensureLeader machine => exact fresh_of_enrolling hvms (enrolling_provider_ensureLeader machine)
  | removeJoining joining =>
    exact fresh_of_enrolling hvms (enrolling_provider_removeJoining joining)
  | cleanup =>
    refine ((deleting_provider_cleanup (fun _ _ _ _ => id) hall).allow ?_).weaken
      fun _ _ _ => trivial
    exact fun r w' hr => hr.elim Request.IsRead.fresh Deleting.fresh

abbrev MembershipHistory (clusterName : String) :=
  Client.History serve Job.code (fun j _ => j.cluster.name = clusterName)
    (Recreated (ownerDescription clusterName))

theorem tidy_of_history {clusterName : String} {start : Compute}
    {sent : List (Client.Sent Job Request Compute)} (hvms : WellFormedVMs start)
    (hstart : ∀ p, Absent (ownerDescription clusterName) start .networkEndpointGroup p)
    (h : MembershipHistory clusterName start sent w) :
    WellFormedVMs w ∧ Tidy (ownerDescription clusterName) w := by
  refine (Client.History.invariant
    (fun w => WellFormedVMs w ∧ Tidy (ownerDescription clusterName) w) (fun _ r w => r.Fresh w)
    ?_ ?_ ?_ h ⟨hvms, fun p x hx howner => absurd howner (hstart p x hx)⟩).1
  · rintro - r s b t ⟨hs, htidy⟩ hr hserve
    rcases serve_cases hserve with rfl | heffect
    · exact ⟨hs, htidy⟩
    · exact ⟨hs.congr (instances_effect heffect), tidy_effect hr heffect htidy⟩
  · rintro s t ⟨-, htidy⟩ ⟨ht, hgroups⟩
    refine ⟨ht, fun p x hx howner name => ?_⟩
    obtain ⟨y, hy, howner', hsub⟩ := hgroups p x hx howner
    exact addressesOf_of_sublist hsub (htidy p y hy howner' name)
  · rintro j s ⟨hs, htidy⟩ rfl
    exact Job.fresh_code hs

/-- After any runs of a cluster, each possibly stopped, and with VMs recreated between them: if
KubeOne manages the load balancer, a run that ensures the members and succeeds leaves each VM with
exactly one endpoint, and a run that removes the joining hosts and succeeds leaves none of them in
a group that is a backend, and the leader, unless it is joining, with exactly one endpoint. -/
theorem membership_is_exact (clusterName : String) (start w : Compute)
    (sent : List (Client.Sent Job Request Compute)) (s : Cluster) (cfg : LbConfig) (waits : ℕ)
    (hvms : WellFormedVMs start)
    (hstart : ∀ p, Absent (ownerDescription clusterName) start .networkEndpointGroup p)
    (hruns : MembershipHistory clusterName start sent w) (hname : s.name = clusterName)
    (hmanaged : Managed s cfg w) :
    (∀ calls w' s', Client.Run serve (Provider.ensureLoadBalancerMembers waits s) w calls w'
        (some (.ok s')) →
      ∃ machines, s.machines = .ok machines ∧
        ∀ m ∈ machines, ∃ zone, machineZone m cfg = .ok zone ∧ Member cfg zone m.name w') ∧
    ∀ joining calls w' s', Client.Run serve
        (Provider.removeJoiningLoadBalancerMembers waits s joining) w calls w' (some (.ok s')) →
      (∀ p, p.Plain → BackedBy w' cfg.place p → Vacant joining w' p) ∧
      ∃ machines leader, s.machines = .ok machines ∧ s.leader = .ok leader ∧
        (leader ∉ joining → leader ∈ machines.map (·.name) →
          ∃ m ∈ machines, m.name = leader ∧
            ∃ zone, machineZone m cfg = .ok zone ∧ Member cfg zone leader w') := by
  subst hname
  obtain ⟨hw, htidy⟩ := tidy_of_history hvms hstart hruns
  rw [← owner_of_resolveLB hmanaged.1] at htidy
  constructor
  · intro calls w' s' hrun
    have hmembers := enrolling_provider_ensureMembers.run
      (fun _ _ _ _ _ _ _ => trivial) trivial hrun
    obtain ⟨machines, hmachines, hmembers⟩ := hmembers.2.2 s' rfl cfg hmanaged
    exact ⟨machines, hmachines, hmembers hw htidy⟩
  · intro joining calls w' s' hrun
    have hremoved := (enrolling_provider_removeJoining joining).run
      (fun _ _ _ _ _ _ _ => trivial) trivial hrun
    obtain ⟨hvacant, machines, leader, hmachines, hleader, hmembers⟩ :=
      hremoved.2.2 s' rfl cfg hmanaged
    refine ⟨hvacant, machines, leader, hmachines, hleader, fun hjoining hhost => ?_⟩
    obtain ⟨m, hm, hleaderName⟩ := List.mem_map.1 hhost
    obtain ⟨zone, hzone, hmember⟩ := hmembers hw htidy hjoining m hm hleaderName
    exact ⟨m, hm, hleaderName, zone, hzone, hleaderName ▸ hmember⟩

def perform : (r : Request) → Compute → Answer r × Compute
  | .insert k p x, w =>
    match w.resources k p with
    | none => (.ok { name := "insert", status := "DONE" }, w.put k p (some x))
    | some _ => (.error ⟨409, "already exists"⟩, w)
  | .patchBackends p backends fingerprint, w =>
    match w.resources .backendService p with
    | none => (.error ⟨404, "not found"⟩, w)
    | some x =>
      if BackendService.fingerprint x.fields = fingerprint then
        (.ok { name := "patch", status := "DONE" },
          w.put .backendService p (some ⟨x.description, { (x.fields : BackendService) with
            backends := backends, fingerprint := fingerprint }⟩))
      else (.error ⟨412, "conditionNotMet"⟩, w)
  | .attachNetworkEndpoints p endpoints, w =>
    match w.resources .networkEndpointGroup p with
    | none => (.error ⟨404, "not found"⟩, w)
    | some x =>
      (.ok { name := "attach", status := "DONE" },
        w.put .networkEndpointGroup p (some (x.withMembers (x.members ++ endpoints))))
  | .getInstance p, w =>
    match w.instances p with
    | none => (.error ⟨404, "not found"⟩, w)
    | some nics => (.ok nics, w)
  | r, w => reply r w

theorem assigned_self (k : Kind) (f : Fields k) : Assigned k f f := by
  cases k <;> rfl

theorem serve_perform (r : Request) (w : Compute) : serve r w (perform r w).1 (perform r w).2 := by
  have hdone : ∀ name, (Operation.mk name "" "" "" "DONE" [] "" "" false).Consistent := by
    simp [Operation.Consistent]
  cases r with
  | insert k p x =>
    cases h : w.resources k p with
    | none =>
      simp only [serve, perform, h]
      exact ⟨hdone _, .inr ⟨rfl, h, x.fields, assigned_self k _, rfl⟩⟩
    | some y =>
      simp only [serve, perform, h]
      exact .inl rfl
  | patchBackends p backends fingerprint =>
    cases h : w.resources .backendService p with
    | none =>
      simp only [serve, perform, h]
      exact .inl rfl
    | some x =>
      by_cases hfingerprint : BackendService.fingerprint x.fields = fingerprint
      · simp only [serve, perform, h, if_pos hfingerprint]
        exact ⟨hdone _, .inr ⟨rfl, x, h, hfingerprint, backends, fingerprint,
          List.forall₂_same.2 fun _ _ => ⟨rfl, rfl⟩, rfl⟩⟩
      · simp only [serve, perform, h, if_neg hfingerprint]
        exact .inl rfl
  | attachNetworkEndpoints p endpoints =>
    cases h : w.resources .networkEndpointGroup p with
    | none =>
      simp only [serve, perform, h]
      exact .inl rfl
    | some x =>
      simp only [serve, perform, h]
      exact ⟨hdone _, .inr ⟨rfl, x, h, endpoints, List.forall₂_same.2 fun _ _ => ⟨rfl, rfl⟩, rfl⟩⟩
  | getInstance p =>
    cases h : w.instances p with
    | none => simp [serve, perform, h, Reads]
    | some nics => simp [serve, perform, h, Reads]
  | _ => exact serve_reply _ _

namespace Recreation

def cluster : Cluster :=
  { Interrupted.cluster with machines := .ok [⟨"vm", .ok ⟨"z", "p"⟩⟩], leader := .ok "vm" }

def cfg : LbConfig := ⟨"one", "p", "p", "r", "api", "", []⟩

def withVM (resources : (k : Kind) → Place → Option (Resource k)) (address : String) : Compute where
  resources := resources
  instances p := if p = ⟨"p", "z", "vm"⟩ then some [⟨"n", "s", address⟩] else none

def start : Compute :=
  withVM (fun
    | .backendService, p =>
      if p = ⟨"p", "r", "api"⟩ then
        some ⟨"kubeone:one", BackendService.mk "EXTERNAL" "TCP" [] [] "1"⟩
      else none
    | _, _ => none) "10.0.0.1"

def recreated : Compute :=
  withVM ((Provider.ensureLoadBalancerMembers 0 cluster).exec perform start).2.1.resources
    "10.0.0.2"

theorem wellFormedVMs (resources : (k : Kind) → Place → Option (Resource k)) (address : String)
    (h : address ≠ "") : WellFormedVMs (withVM resources address) := by
  refine ⟨fun p nics hp => ?_, fun p nics hp nic hnic => ?_⟩
  · simp only [withVM, Option.ite_none_right_eq_some] at hp
    rw [hp.1]
    decide
  · simp only [withVM, Option.ite_none_right_eq_some, Option.some.injEq] at hp
    rw [← hp.2, List.mem_singleton] at hnic
    rw [hnic]
    exact h

theorem ensure_run
    (h : ((Provider.ensureLoadBalancerMembers 0 cluster).exec perform w).2.2 = .ok cluster) :
    Client.Run serve (Provider.ensureLoadBalancerMembers 0 cluster) w
      ((Provider.ensureLoadBalancerMembers 0 cluster).exec perform w).1
      ((Provider.ensureLoadBalancerMembers 0 cluster).exec perform w).2.1 (some (.ok cluster)) := by
  rw [← h]
  exact Client.run_exec serve_perform _ w

theorem history : ∃ sent, MembershipHistory "one" start sent recreated := by
  refine ⟨_, .run (k := ⟨.ensureMembers, cluster, 0⟩) rfl
    (Client.run_exec serve_perform _ start) (.env ⟨wellFormedVMs _ _ (by decide), ?_⟩ (.nil _))⟩
  exact fun p r hr howner => ⟨r, hr, howner, List.Sublist.refl _⟩

end Recreation

open Recreation in
theorem recreated_vm_has_new_address :
    (∃ x, recreated.resources .networkEndpointGroup ⟨"p", "z", "api-z"⟩ = some x ∧
      addressesOf x.members "vm" = ["10.0.0.1"]) ∧
    ∃ calls w', Client.Run serve (Provider.ensureLoadBalancerMembers 0 cluster) recreated calls w'
        (some (.ok cluster)) ∧ Member cfg "z" "vm" w' := by
  have hrun := ensure_run (w := recreated) rfl
  refine ⟨⟨_, rfl, by decide +kernel⟩, _, _, hrun, ?_⟩
  obtain ⟨sent, hruns⟩ := history
  obtain ⟨machines, hmachines, hmembers⟩ := (membership_is_exact "one" start recreated sent cluster
    cfg 0 (wellFormedVMs _ _ (by decide)) (fun p x hx => by cases hx) hruns rfl
    ⟨rfl, _, rfl, rfl⟩).1 _ _ _ hrun
  obtain rfl := Except.ok.inj hmachines
  obtain ⟨zone, hzone, hmember⟩ := hmembers _ List.mem_cons_self
  obtain rfl := Except.ok.inj hzone
  exact hmember

/-- Without a backend service of the cluster, nothing is done. -/
theorem unmanaged_vm_is_no_member :
    ∃ start : Compute, WellFormedVMs start ∧
      (∀ p, Absent (ownerDescription "one") start .networkEndpointGroup p) ∧
      ∃ calls, Client.Run serve (Provider.ensureLoadBalancerMembers 0 Recreation.cluster) start
        calls start (some (.ok Recreation.cluster)) ∧
      ∀ cfg zone, ¬ Member cfg zone "vm" start := by
  refine ⟨Recreation.withVM (fun _ _ => none) "10.0.0.1",
    Recreation.wellFormedVMs _ _ (by decide), fun _ => absent_of_none rfl, _,
    Recreation.ensure_run rfl, ?_⟩
  rintro cfg zone ⟨⟨x, _, _, hx, -⟩, -⟩
  cases hx

end KubeOne.CloudProvider.Gce
