import KubeOne.CloudProvider.Gce.Endpoints

/-! Which resources the load balancer code changes. It looks at a description before every change,
with one exception: endpoints of joining hosts are detached from all groups that are backends,
whoever owns them. -/

namespace KubeOne.CloudProvider.Gce

open Process Text

def SameForeign (owner : String) (w w' : Compute) : Prop :=
  ∀ k p r, r.description ≠ owner → (w'.resources k p = some r ↔ w.resources k p = some r)

/-- A request may change what the cluster owns, and create what it is going to own. -/
def Allowed (owner : String) (r : Request) (w : Compute) : Prop :=
  match r with
  | .insert _ _ r => r.description = owner
  | r => ∀ k p, r.target = some (k, p) → Owned owner w k p

section Frame

variable {owner : String} {w w' w'' : Compute} {k : Kind} {p : Place}

theorem Owned.frame (h : Owned owner w k p) (hframe : SameForeign owner w w') :
    Owned owner w' k p := by
  intro r hr
  by_contra hne
  exact hne (h r ((hframe k p r hne).1 hr))

theorem sameForeign_put {new : Option (Resource k)} (hold : Owned owner w k p)
    (hnew : ∀ r, new = some r → r.description = owner) :
    SameForeign owner w (w.put k p new) := by
  intro k' p' r hr
  by_cases h : k' = k ∧ p' = p
  · obtain ⟨rfl, rfl⟩ := h
    rw [Compute.put_self]
    exact iff_of_false (fun heq => hr (hnew r heq)) (fun heq => hr (hold r heq))
  · rw [Compute.put_of_ne]
    exact fun hk hp => h ⟨hk, hp⟩

variable {r : Request}

theorem sameForeign_effect (hr : Allowed owner r w) (h : r.Effect w w') :
    SameForeign owner w w' := by
  cases h.changed with
  | insert hnone => exact sameForeign_put (owned_of_none hnone) (by rintro _ ⟨⟩; exact hr)
  | delete => exact sameForeign_put (hr _ _ rfl) (by simp)
  | @update _ k p _ _ htarget hold =>
    have howned : Owned owner w k p := by
      cases r <;> cases htarget <;> exact hr _ _ rfl
    exact sameForeign_put howned (by rintro _ ⟨⟩; exact (howned _ hold :))

end Frame

/-- If the group is foreign, no joining host is one of its endpoints. -/
def Harmless (owner : String) (joining : List String) (w : Compute) (q : Place) : Prop :=
  ∀ r, w.resources .networkEndpointGroup q = some r → r.description ≠ owner →
    ∀ e ∈ NetworkEndpointGroup.endpoints r.fields, base e.instanceRef ∉ joining

variable {owner : String} {joining : List String}

theorem Harmless.frame {w w' : Compute} {q : Place}
    (h : Harmless owner joining w q) (hframe : SameForeign owner w w') :
    Harmless owner joining w' q := by
  intro r hr hne
  exact h r ((hframe _ q r hne).1 hr) hne

variable {w : Compute}

theorem Owned.harmless {q : Place}
    (h : Owned owner w .networkEndpointGroup q) : Harmless owner joining w q :=
  fun r hr hne => absurd (h r hr) hne

section Members

variable {cfg : LbConfig} {joining : List String} {w w' : Compute} {r : Request}

/-- The backend service is the cluster's, and joining hosts are in no foreign group behind it. -/
structure Guarded (cfg : LbConfig) (joining : List String) (w : Compute) : Prop where
  owned : Owned cfg.owner w .backendService cfg.place
  harmless : ∀ q, Refs w cfg.place q → Harmless cfg.owner joining w q

theorem Enrolling.allowed (h : Enrolling cfg joining r w) (hw : Guarded cfg joining w) :
    Allowed cfg.owner r w := by
  cases r with
  | insert k p x =>
    cases k with
    | networkEndpointGroup => exact h.2.1
    | _ => exact h.elim
  | patchBackends p backends fingerprint =>
    rintro _ _ ⟨⟩
    exact h.1 ▸ hw.owned
  | attachNetworkEndpoints p endpoints =>
    rintro _ _ ⟨⟩
    exact h.1
  | detachNetworkEndpoints p endpoints =>
    rintro _ _ ⟨⟩
    obtain ⟨hne, x, hx, hmem, ⟨howner, -⟩ | ⟨hrefs, hjoining⟩⟩ := h
    · exact owned_of_some hx howner
    · -- an endpoint to be detached shows that the group is not foreign
      refine owned_of_some hx ?_
      by_contra hforeign
      obtain ⟨e, he⟩ := List.exists_mem_of_ne_nil _ hne
      exact hw.harmless p hrefs x hx hforeign e (hmem e he) (hjoining e he)
  | _ => exact h.elim

theorem Enrolling.refs_effect (h : Enrolling cfg joining r w) (heffect : r.Effect w w') {q : Place}
    (hq : Refs w' cfg.place q) :
    Refs w cfg.place q ∨ Owned cfg.owner w .networkEndpointGroup q := by
  cases r with
  | insert k p x =>
    cases k with
    | networkEndpointGroup =>
      obtain ⟨-, f, -, rfl⟩ := heffect
      exact .inl ((Refs.congr (backendServices_put _)).1 hq)
    | _ => exact h.elim
  | attachNetworkEndpoints p endpoints =>
    obtain ⟨x, -, stored, -, rfl⟩ := heffect
    exact .inl ((Refs.congr (backendServices_put _)).1 hq)
  | detachNetworkEndpoints p endpoints =>
    obtain ⟨x, -, rfl⟩ := heffect
    exact .inl ((Refs.congr (backendServices_put _)).1 hq)
  | patchBackends p backends fingerprint =>
    obtain ⟨rfl, x, zone, hx, howned, rfl⟩ := h
    obtain ⟨y, -, -, stored, fingerprint', hstored, rfl⟩ := heffect
    obtain ⟨z, hz, hmem⟩ := hq
    rw [Compute.put_self] at hz
    obtain rfl := Option.some.inj hz
    have hmem : q ∈ stored.filterMap backendNEG := hmem
    rw [backendNEGs_congr hstored, List.filterMap_append, List.mem_append] at hmem
    rcases hmem with hmem | hmem
    · exact .inl ⟨x, hx, hmem⟩
    · obtain ⟨b, hb, hneg⟩ := List.mem_filterMap.1 hmem
      obtain rfl := List.mem_singleton.1 hb
      obtain rfl := backendNEG_negPath hneg
      exact .inr howned
  | _ => exact h.elim

theorem Guarded.serve {b : Answer r} (hw : Guarded cfg joining w)
    (hr : r.IsRead ∨ Enrolling cfg joining r w) (h : serve r w b w') : Guarded cfg joining w' := by
  rcases hr with hr | hr
  · obtain rfl := serve_read hr h
    exact hw
  · rcases serve_cases h with rfl | heffect
    · exact hw
    · have hframe := sameForeign_effect (hr.allowed hw) heffect
      refine ⟨hw.owned.frame hframe, fun q hq => ?_⟩
      rcases hr.refs_effect heffect hq with hq | howned
      · exact (hw.harmless q hq).frame hframe
      · exact (howned.frame hframe).harmless

end Members

theorem Request.IsRead.allowed (h : r.IsRead) : Allowed owner r w := by
  cases r <;> first | exact h.elim | exact fun _ _ h => by cases h

theorem Creating.allowed {cfg : LbConfig} (h : Creating cfg r w) : Allowed cfg.owner r w := by
  cases r with
  | insert k p x => exact h.2.2
  | patchFirewall p sourceRanges targetTags =>
    rintro _ _ ⟨⟩
    exact h
  | _ => exact h.elim

theorem Deleting.allowed (h : Deleting owner r w) : Allowed owner r w := by
  cases r with
  | delete k p =>
    rintro _ _ ⟨⟩
    exact h
  | _ => exact h.elim

inductive Task
  | ensure
  | ensureMembers
  | ensureLeader (machine : Machine)
  | removeJoining (joining : List String)
  | cleanup

structure Job where
  task : Task
  cluster : Cluster
  waits : ℕ

def Job.code (j : Job) : Program Cluster :=
  match j.task with
  | .ensure => Provider.ensureLoadBalancer j.waits j.cluster
  | .ensureMembers => Provider.ensureLoadBalancerMembers j.waits j.cluster
  | .ensureLeader machine => Provider.ensureLeaderEndpoint j.waits j.cluster machine
  | .removeJoining joining => Provider.removeJoiningLoadBalancerMembers j.waits j.cluster joining
  | .cleanup => Provider.cleanupLoadBalancer j.waits j.cluster

/-- When joining hosts are removed, no foreign group among the backends of the cluster's backend
service has one of them. -/
def Job.Spares (j : Job) (w : Compute) : Prop :=
  match j.task with
  | .removeJoining joining => ∀ cfg bs, resolveLB j.cluster = .ok cfg →
      w.resources .backendService cfg.place = some bs → bs.description = cfg.owner →
        ∀ q ∈ backendNEGs bs.fields, Harmless cfg.owner joining w q
  | _ => True

abbrev RunsOf (clusterName : String) (starts : Job → Compute → Prop) :=
  Client.History serve Job.code (fun j w => j.cluster.name = clusterName ∧ starts j w)
    (fun _ _ => True)

theorem allowed_of_enrolling {α : Type} {Q : α → Compute → Prop} {c : Program α} {s : Cluster}
    (h : Sending (EnrollingIn s joining w) Q c w)
    (hw : ∀ cfg, Managed s cfg w → Guarded cfg joining w) :
    c.Meets serve (Allowed (ownerDescription s.name)) Q w := by
  refine h.strengthen (I := fun w' => ∀ cfg, Managed s cfg w → Guarded cfg joining w') ?_ ?_ hw
  · intro r w₁ b w₂ hw₁ hr hs cfg hmanaged
    refine (hw₁ cfg hmanaged).serve (hr.imp_right ?_) hs
    rintro ⟨cfg', hmanaged', hr⟩
    rwa [hmanaged.eq hmanaged'] at hr
  · rintro r w₁ hw₁ (hr | ⟨cfg, hmanaged, hr⟩)
    · exact hr.allowed
    · rw [← owner_of_resolveLB hmanaged.1]
      exact hr.allowed (hw₁ cfg hmanaged)

theorem Managed.owned {s : Cluster} {cfg : LbConfig} (h : Managed s cfg w) :
    Owned cfg.owner w .backendService cfg.place := by
  obtain ⟨-, bs, hbs, howner⟩ := h
  exact owned_of_some hbs howner

theorem Job.careful_code {j : Job} (h : j.Spares w) :
    j.code.Meets serve (Allowed (ownerDescription j.cluster.name)) (fun _ _ => True) w := by
  obtain ⟨task, s, waits⟩ := j
  -- without joining hosts every group is harmless
  have hguarded : ∀ cfg, Managed s cfg w → Guarded cfg [] w := fun cfg hmanaged =>
    ⟨hmanaged.owned, fun q _ x _ _ e _ => List.not_mem_nil⟩
  have hall : Resolves serve s w fun _ => True := resolves_of_forall fun _ => trivial
  cases task with
  | ensure =>
    refine (creating_provider_ensureLoadBalancer (fun _ _ _ _ => id) hall).allow ?_
    rintro r w' (hr | ⟨cfg, hresolved, -, hr⟩)
    · exact hr.allowed
    · rw [← hresolved.owner_eq]
      exact hr.allowed
  | ensureMembers =>
    exact (allowed_of_enrolling enrolling_provider_ensureMembers hguarded).weaken
      fun _ _ _ => trivial
  | ensureLeader machine =>
    exact allowed_of_enrolling (enrolling_provider_ensureLeader machine) hguarded
  | removeJoining joining =>
    refine (allowed_of_enrolling (enrolling_provider_removeJoining joining) ?_).weaken
      fun _ _ _ => trivial
    intro cfg hmanaged
    refine ⟨hmanaged.owned, ?_⟩
    rintro q ⟨bs, hbs, hq⟩
    obtain ⟨hcfg, bs', hbs', howner⟩ := hmanaged
    obtain rfl := Option.some.inj (hbs.symm.trans hbs')
    exact h cfg bs hcfg hbs howner q hq
  | cleanup =>
    refine ((deleting_provider_cleanup (fun _ _ _ _ => id) hall).allow ?_).weaken
      fun _ _ _ => trivial
    exact fun r w' hr => hr.elim Request.IsRead.allowed Deleting.allowed

theorem Allowed.owned {k : Kind} {p : Place}
    (h : Allowed owner r w) (hr : r.target = some (k, p)) : Owned owner w k p := by
  unfold Allowed at h
  split at h
  · cases hr
  · exact h k p hr

/-- If no foreign group is hit when joining hosts are removed, every request that changes, attaches
to, detaches from or deletes an existing resource is for one that the cluster owns. -/
theorem runs_touch_only_owned (clusterName : String) (s t : Compute)
    (sent : List (Client.Sent Job Request Compute)) (h : RunsOf clusterName Job.Spares s sent t) :
    ∀ x ∈ sent, ∀ k p, x.request.target = some (k, p) →
      ∀ r, x.state.resources k p = some r → r.description = ownerDescription clusterName := by
  have hsent := (Client.History.invariant (fun _ => True)
    (fun _ r w => Allowed (ownerDescription clusterName) r w) (fun _ _ _ _ _ _ _ _ => trivial)
    (fun _ _ _ _ => trivial) ?_ h trivial).2
  · intro x hx k p hr
    exact (hsent x hx).2.owned hr
  · rintro j w - ⟨rfl, hspares⟩
    exact Job.careful_code hspares

def reply : (r : Request) → Compute → Answer r × Compute
  | .get k p, w =>
    match w.resources k p with
    | some r => (.ok r, w)
    | none => (.error ⟨404, "not found"⟩, w)
  | .listNetworkEndpoints p, w =>
    match w.resources .networkEndpointGroup p with
    | some r => (.ok ((NetworkEndpointGroup.endpoints r.fields).map some), w)
    | none => (.error ⟨404, "not found"⟩, w)
  | .detachNetworkEndpoints p endpoints, w =>
    match w.resources .networkEndpointGroup p with
    | some r =>
      (.ok { name := "detach", status := "DONE" },
        w.put .networkEndpointGroup p (some ⟨r.description,
          { (r.fields : NetworkEndpointGroup) with
            endpoints := (NetworkEndpointGroup.endpoints r.fields).filter (· ∉ endpoints) }⟩))
    | none => (.error ⟨404, "not found"⟩, w)
  | .insert _ _ _, w | .delete _ _, w | .patchFirewall _ _ _, w | .patchBackends _ _ _, w
  | .attachNetworkEndpoints _ _, w | .wait _ _, w => (.error ⟨503, "unavailable"⟩, w)
  | .aggregatedList _, w => (.error ⟨503, "unavailable"⟩, w)
  | .getHealth _ _, w => (.error ⟨503, "unavailable"⟩, w)
  | .getInstance _, w => (.error ⟨503, "unavailable"⟩, w)
  | .getSubnetwork _, w => (.error ⟨503, "unavailable"⟩, w)

theorem serve_reply (r : Request) (w : Compute) : serve r w (reply r w).1 (reply r w).2 := by
  cases r with
  | get k p =>
    cases h : w.resources k p with
    | none => simp [serve, reply, Reads, h]
    | some r => simp [serve, reply, Reads, h]
  | listNetworkEndpoints p =>
    cases h : w.resources .networkEndpointGroup p with
    | none =>
      simp only [serve, reply, h]
      exact ⟨trivial, none, by simp [Reads], by simp, by simp⟩
    | some r =>
      simp only [serve, reply, h]
      refine ⟨trivial, _, rfl, by simp, ?_⟩
      rintro _ ⟨⟩ _ ⟨⟩ e
      simp
  | detachNetworkEndpoints p endpoints =>
    cases h : w.resources .networkEndpointGroup p with
    | none =>
      simp only [serve, reply, h]
      exact .inl rfl
    | some r =>
      simp only [serve, reply, h]
      exact ⟨by simp [Operation.Consistent], .inr ⟨rfl, r, h, rfl⟩⟩
  | delete k p => exact ⟨.inl rfl, by rintro _ ⟨⟩; simp⟩
  | aggregatedList project => exact ⟨rfl, by simp [reply]⟩
  | getHealth p group => rfl
  | getInstance p => exact ⟨rfl, by simp [reply, Reads]⟩
  | getSubnetwork p => rfl
  | wait project op => exact ⟨rfl, by simp [reply]⟩
  | _ => exact .inl rfl

def sharedBackend (description : String) : Compute where
  resources
    | .backendService, p =>
      if p = ⟨"p", "r", "api"⟩ then
        some ⟨"kubeone:one", BackendService.mk "EXTERNAL" "TCP" []
          [⟨"projects/p/zones/z/networkEndpointGroups/team", "CONNECTION"⟩] "1"⟩
      else none
    | .networkEndpointGroup, p =>
      if p = ⟨"p", "z", "team"⟩ then
        some ⟨description, NetworkEndpointGroup.mk "GCE_VM_IP" "n" "s" [⟨"vm", "10.0.0.1"⟩]⟩
      else none
    | _, _ => none
  instances _ := none

def removeVM : Job where
  task := .removeJoining ["vm"]
  cluster := {
    name := "one"
    loadBalancer := { projectID := "p", region := "r", name := "api" }
    serviceAccountProjectID := .ok "p"
    nodeSets := []
    machines := .ok []
    leader := .ok "leader" }
  waits := 0

theorem foreign_group_is_detached :
    ∃ sent t, RunsOf "one" (fun _ _ => True) (sharedBackend "team") sent t ∧
      ∃ x ∈ sent, x.request.target = some (.networkEndpointGroup, ⟨"p", "z", "team"⟩) ∧
        ∃ r, x.state.resources .networkEndpointGroup ⟨"p", "z", "team"⟩ = some r ∧
          r.description ≠ ownerDescription "one" :=
  ⟨_, _, .run ⟨rfl, trivial⟩ (Client.run_exec serve_reply removeVM.code _) (.nil _),
    _, .tail _ (.tail _ (.tail _ (.head _))), rfl, _, rfl, by decide⟩

theorem removeVM_spares_owned : removeVM.Spares (sharedBackend "kubeone:one") := by
  intro cfg bs hcfg _ _ q _ r hr hne
  rw [owner_of_resolveLB hcfg] at hne
  have hdesc : r.description = "kubeone:one" := by
    by_cases hq : q = ⟨"p", "z", "team"⟩
    · rw [show (sharedBackend "kubeone:one").resources .networkEndpointGroup q = some _ from
        if_pos hq] at hr
      exact congrArg Resource.description (Option.some.inj hr).symm
    · rw [show (sharedBackend "kubeone:one").resources .networkEndpointGroup q = none from
        if_neg hq] at hr
      cases hr
  exact absurd hdesc hne

theorem owned_group_is_detached :
    ∃ sent t, RunsOf "one" Job.Spares (sharedBackend "kubeone:one") sent t ∧
      (∃ x ∈ sent, x.request.target = some (.networkEndpointGroup, ⟨"p", "z", "team"⟩)) ∧
      ∀ x ∈ sent, ∀ k p, x.request.target = some (k, p) →
        ∀ r, x.state.resources k p = some r → r.description = ownerDescription "one" := by
  have h : RunsOf "one" Job.Spares (sharedBackend "kubeone:one") _ _ :=
    .run ⟨rfl, removeVM_spares_owned⟩ (Client.run_exec serve_reply removeVM.code _) (.nil _)
  exact ⟨_, _, h, ⟨_, .tail _ (.tail _ (.tail _ (.head _))), rfl⟩,
    runs_touch_only_owned "one" _ _ _ h⟩

end KubeOne.CloudProvider.Gce
