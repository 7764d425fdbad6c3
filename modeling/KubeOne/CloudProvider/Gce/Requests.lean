import KubeOne.CloudProvider.Gce.LoadBalancer

/-! What the procedures send, and what is known when they send it. Resources are created with the
owner of the cluster at the places of the load balancer, and only those seen to be the cluster's
are deleted. -/

namespace KubeOne.CloudProvider.Gce

open Process Client Text Changes

/-! ### Owned resources -/

def Owned (owner : String) (w : Compute) (k : Kind) (p : Place) : Prop :=
  ∀ r, w.resources k p = some r → r.description = owner

def Absent (owner : String) (w : Compute) (k : Kind) (p : Place) : Prop :=
  ∀ r, w.resources k p = some r → r.description ≠ owner

def Clear (owner : String) (A : Kind → Place → Prop) (w : Compute) : Prop :=
  ∀ k p, A k p → Absent owner w k p

/-- No place has got a resource of the owner. -/
def Shrinks (owner : String) (w w' : Compute) : Prop :=
  ∀ k p, Absent owner w k p → Absent owner w' k p

/-- Where a load balancer is; its firewall rules are in the project of the network. -/
structure Site where
  project : String
  region : String
  name : String
  networkProject : String

def Site.Has (site : Site) : Kind → Place → Prop
  | .networkEndpointGroup, p => ∃ zone, p = ⟨site.project, zone, site.name ++ "-" ++ zone⟩
  | .firewall, p =>
    p = ⟨site.networkProject, "", site.name ++ apiFirewallSuffix⟩ ∨
      p = ⟨site.networkProject, "", site.name ++ healthCheckFirewallSuffix⟩
  | _, p => p = ⟨site.project, site.region, site.name⟩

def LbConfig.site (cfg : LbConfig) : Site :=
  ⟨cfg.projectID, cfg.region, cfg.name, cfg.firewallProject⟩

def LbConfig.Regional (cfg : LbConfig) (k : Kind) : Kind → Place → Prop :=
  fun k' p => k' = k ∧ p = cfg.place

def LbConfig.Zonal (cfg : LbConfig) : Kind → Place → Prop :=
  fun k p => k = .networkEndpointGroup ∧ ∃ zone, p = cfg.negPlace zone

def LbConfig.Rule (cfg : LbConfig) (suffix : String) : Kind → Place → Prop :=
  fun k p => k = .firewall ∧ p = cfg.firewallPlace (cfg.name ++ suffix)

section Places

variable {owner : String} {w w' : Compute} {k k' : Kind} {p p' : Place}
  {A B : Kind → Place → Prop}

theorem owned_of_some {r : Resource k} (h : w.resources k p = some r)
    (hr : r.description = owner) : Owned owner w k p := by
  intro r' hr'
  obtain rfl := Option.some.inj (h.symm.trans hr')
  exact hr

theorem owned_of_none (h : w.resources k p = none) : Owned owner w k p := by
  intro r hr
  rw [h] at hr
  cases hr

theorem absent_of_none (h : w.resources k p = none) : Absent owner w k p := by
  intro r hr
  rw [h] at hr
  cases hr

theorem Clear.subset (h : Clear owner A w) (hBA : ∀ k p, B k p → A k p) : Clear owner B w :=
  fun k p hB => h k p (hBA k p hB)

theorem Clear.shrinks (h : Clear owner A w) (hw : Shrinks owner w w') : Clear owner A w' :=
  fun k p hA => hw k p (h k p hA)

variable {r : Request}

theorem Changes.cases {b : Except ApiError Operation} (h : Changes r w b w') :
    w' = w ∨ r.Effect w w' := by
  cases b with
  | error e => exact h
  | ok op =>
    rcases h.2 with ⟨-, h⟩ | ⟨-, h⟩
    · exact .inl h
    · exact .inr h

theorem serve_cases {b : Answer r} (h : serve r w b w') : w' = w ∨ r.Effect w w' := by
  cases r with
  | insert k p r => exact cases h
  | delete k p => exact cases h.1
  | patchFirewall p sourceRanges targetTags => exact cases h
  | patchBackends p backends fingerprint => exact cases h
  | attachNetworkEndpoints p endpoints => exact cases h
  | detachNetworkEndpoints p endpoints => exact cases h
  | get k p => exact .inl h.1
  | listNetworkEndpoints p => exact .inl h.1
  | aggregatedList project => exact .inl h.1
  | getHealth p group => exact .inl h
  | getInstance p => exact .inl h.1
  | getSubnetwork p => exact .inl h
  | wait project op => exact .inl h.1

/-- A request that has an effect creates a resource, removes it, or replaces its fields. -/
inductive Changed (w : Compute) : Request → Compute → Prop
  | insert {k : Kind} {p : Place} {x : Resource k} {f : Fields k} (fresh : w.resources k p = none) :
    Changed w (.insert k p x) (w.put k p (some ⟨x.description, f⟩))
  | delete {k : Kind} {p : Place} : Changed w (.delete k p) (w.put k p none)
  | update {r : Request} {k : Kind} {p : Place} {old : Resource k} {f : Fields k}
    (target : r.target = some (k, p)) (found : w.resources k p = some old) :
    Changed w r (w.put k p (some ⟨old.description, f⟩))

theorem Request.Effect.changed (h : r.Effect w w') : Changed w r w' := by
  cases r with
  | insert k p x =>
    obtain ⟨hnone, f, -, rfl⟩ := h
    exact .insert hnone
  | delete k p =>
    obtain ⟨-, rfl⟩ := h
    exact .delete
  | patchFirewall p sourceRanges targetTags =>
    obtain ⟨old, hold, rfl⟩ := h
    exact .update rfl hold
  | patchBackends p backends fingerprint =>
    obtain ⟨old, hold, -, stored, fingerprint', -, rfl⟩ := h
    exact .update rfl hold
  | attachNetworkEndpoints p endpoints =>
    obtain ⟨old, hold, stored, -, rfl⟩ := h
    exact .update rfl hold
  | detachNetworkEndpoints p endpoints =>
    obtain ⟨old, hold, rfl⟩ := h
    exact .update rfl hold
  | _ => cases h

end Places

/-! ### Requests that only read -/

def Request.IsRead : Request → Prop
  | .get _ _ | .listNetworkEndpoints _ | .aggregatedList _ | .getHealth _ _ | .getInstance _
  | .getSubnetwork _ | .wait _ _ => True
  | _ => False

variable {r : Request}

theorem serve_read {b : Answer r} {w w' : Compute} (hr : r.IsRead)
    (h : serve r w b w') : w' = w := by
  rcases serve_cases h with hw | heffect
  · exact hw
  · cases r <;> first | exact hr.elim | exact heffect.elim

section Procedures

variable {α γ : Type} {P : Request → Compute → Prop} {Q : α → Compute → Prop} {w w' : Compute}
  {k : Kind} {p : Place} {cfg : LbConfig} {waits : ℕ} {owner : String}

/-- Besides reading, the client sends only requests with the property, and a result satisfies the
assertion. -/
abbrev Sending (P : Request → Compute → Prop) (Q : α → Compute → Prop) (c : Program α)
    (w : Compute) : Prop :=
  c.Meets serve (fun r w => r.IsRead ∨ P r w) Q w

abbrev Reading (Q : α → Prop) (c : Program α) (w : Compute) : Prop :=
  Sending (fun _ _ => False) (fun a w' => w' = w ∧ Q a) c w

variable {c : Program α}

theorem Reading.sending {R : α → Prop} (h : Reading R c w) :
    Sending P (fun a w' => w' = w ∧ R a) c w :=
  h.allow fun _ _ hr => .inl (hr.resolve_right id)

theorem Reading.bind {R : γ → Prop} {c : Program γ} {f : γ → Program α} (h : Reading R c w)
    (hf : ∀ a, R a → Sending P Q (f a) w) : Sending P Q (c >>= f) w := by
  refine Meets.bind (h.sending.weaken ?_)
  rintro a _ ⟨rfl, ha⟩
  exact hf a ha

theorem reading_call {R : Answer r → Prop} (hr : r.IsRead)
    (h : ∀ b, serve r w b w → R b) : Reading R (.call r) w := by
  refine Client.meets_call (.inl hr) ?_
  intro b w' hb
  obtain rfl := serve_read hr hb
  exact ⟨rfl, h b hb⟩

theorem sending_call {Q : Answer r → Compute → Prop} (hr : P r w)
    (h : ∀ b w', serve r w b w' → Q b w') : Sending P Q (.call r) w :=
  ⟨.inr hr, h⟩

theorem meets_ofExcept {S : Service Compute Request Answer} {allowed : Request → Compute → Prop}
    {x : Except Failure α} (h : ∀ a, x = .ok a → Q a w) : (ofExcept x).Meets S allowed Q w := by
  cases x with
  | ok a => exact h a rfl
  | error e => trivial

theorem reading_getResource (k : Kind) (p : Place) :
    Reading (Reads (w.resources k p)) (getResource k p) w :=
  reading_call trivial fun _ h => h.2

/-- What a look at the description of a resource says. -/
structure Describes (w : Compute) (k : Kind) (p : Place) (b : Except Cause String) : Prop where
  found : ∀ d, b = .ok d → ∃ r, w.resources k p = some r ∧ r.description = d
  missing : ∀ c, b = .error c → isNotFound c = true → w.resources k p = none

theorem describes_error {e : ApiError} (h : Reads (w.resources k p) (.error e)) :
    Describes w k p (.error (.api e)) := by
  refine ⟨by simp, ?_⟩
  rintro _ ⟨⟩ hc
  exact h (by simpa [isNotFound] using hc)

theorem describes_ok {r : Resource k} (h : w.resources k p = some r) :
    Describes w k p (.ok r.description) := by
  refine ⟨?_, by simp⟩
  rintro _ ⟨⟩
  exact ⟨r, h, rfl⟩

variable {b : Except Cause String}

theorem Describes.owned (h : Describes w k p b) (hb : b = .ok owner) : Owned owner w k p := by
  obtain ⟨r, hr, hd⟩ := h.found owner hb
  exact owned_of_some hr hd

theorem reading_getDescription (k : Kind) (p : Place) :
    Reading (Describes w k p) (getDescription k p) w := by
  refine (reading_getResource k p).bind fun b hb => ?_
  cases b with
  | error e => exact ⟨rfl, describes_error hb⟩
  | ok r => exact ⟨rfl, describes_ok hb⟩

variable {op : Operation}

theorem reading_waitLoop (project name : String) (waits : ℕ) (hop : op.Consistent) :
    Reading (fun op' => op'.status = "DONE" ∧ op'.Consistent ∧ op'.failed = op.failed)
      (waitLoop project name waits op) w := by
  induction waits generalizing op with
  | zero =>
    unfold waitLoop
    split
    · next hdone => exact ⟨rfl, hdone, hop, rfl⟩
    · trivial
  | succ waits ih =>
    unfold waitLoop
    split
    · next hdone => exact ⟨rfl, hdone, hop, rfl⟩
    · refine Reading.bind (reading_call trivial fun _ h => h.2) fun b hb => ?_
      cases b with
      | error e => trivial
      | ok op' =>
        obtain ⟨hop', hfailed⟩ := hb op' rfl
        refine (ih hop').weaken ?_
        rintro op'' w'' ⟨hw, hdone, hop'', hfailed'⟩
        exact ⟨hw, hdone, hop'', hfailed'.trans hfailed⟩

theorem reading_waitForOperation (project : String) (hop : op.Consistent) :
    Reading (fun _ => op.failed = false) (waitForOperation waits project op) w := by
  refine (reading_waitLoop _ _ waits hop).bind fun op' hop' => ?_
  obtain ⟨hdone, hconsistent, hfailed⟩ := hop'
  split
  · next herrors =>
    refine ⟨rfl, ?_⟩
    rw [← hfailed]
    by_contra h
    exact (hconsistent hdone).mpr (by simpa using h) herrors
  · trivial

theorem reading_change {project : String} (h : Changes r w (.ok op) w') :
    Reading (fun _ => r.Effect w w') (waitForOperation waits project op) w' := by
  refine (reading_waitForOperation project h.1).weaken ?_
  rintro _ _ ⟨rfl, hfailed⟩
  rcases h.2 with ⟨hfailed', -⟩ | ⟨-, heffect⟩
  · rw [hfailed] at hfailed'
    cases hfailed'
  · exact ⟨rfl, heffect⟩

theorem sending_change {x : Program (Except ApiError Operation)}
    {wrap : ApiError → Failure} {project : String}
    (h : Sending P (fun b w' => Changes r w b w') x w) :
    Sending P (fun _ w' => r.Effect w w')
      (x >>= fun b => match b with
        | .error e => .fail (wrap e)
        | .ok op => waitForOperation waits project op) w := by
  refine Meets.bind (h.weaken ?_)
  intro b w' hchange
  cases b with
  | error e => trivial
  | ok op =>
    refine (reading_change hchange).sending.weaken ?_
    rintro _ _ ⟨rfl, heffect⟩
    exact heffect

theorem checkOwner_ok {kind name description : String} {u : Unit}
    (h : checkOwner cfg kind name description = .ok u) : description = cfg.owner := by
  unfold checkOwner at h
  split at h
  · assumption
  · cases h

/-! ### Networks -/

theorem reading_nodeSetNetwork (ns : NodeSet) :
    Reading (fun _ => True) (nodeSetNetwork cfg ns) w := by
  unfold nodeSetNetwork
  split
  · exact ⟨rfl, trivial⟩
  · split
    · exact ⟨rfl, trivial⟩
    · split
      · exact ⟨rfl, trivial⟩
      · refine Reading.bind (reading_call trivial fun _ _ => trivial) fun b _ => ?_
        cases b <;> exact ⟨rfl, trivial⟩

theorem reading_nodeSetNetworks (nodeSets : List NodeSet) :
    Reading (fun _ => True) (nodeSetNetworks cfg nodeSets) w := by
  induction nodeSets with
  | nil => exact ⟨rfl, trivial⟩
  | cons ns rest ih =>
    refine (reading_nodeSetNetwork ns).bind fun b _ => ?_
    cases b with
    | error err => exact ⟨rfl, trivial⟩
    | ok network =>
      refine Reading.bind ih fun b _ => ?_
      cases b <;> exact ⟨rfl, trivial⟩

theorem reading_resolveNetwork (cfg : LbConfig) (nodeSets : List NodeSet) :
    Reading (fun b => ∀ cfg', b = .ok cfg' → ∃ network, cfg' = { cfg with network := network })
      (resolveNetwork cfg nodeSets) w := by
  refine (reading_nodeSetNetworks nodeSets).bind fun b _ => ?_
  cases b with
  | error err => exact ⟨rfl, by simp⟩
  | ok networks =>
    dsimp only
    split
    · exact ⟨rfl, by simp⟩
    · split
      · exact ⟨rfl, by simp⟩
      · refine ⟨rfl, ?_⟩
        rintro _ ⟨⟩
        exact ⟨_, rfl⟩

/-! ### Ensuring -/

/-- The resources of the load balancer, but the groups, are created at its places, with the owner.
A firewall rule is changed if it is the cluster's. -/
def Creating (cfg : LbConfig) (r : Request) (w : Compute) : Prop :=
  match r with
  | .insert k p x => k ≠ .networkEndpointGroup ∧ cfg.site.Has k p ∧ x.description = cfg.owner
  | .patchFirewall p _ _ => Owned cfg.owner w .firewall p
  | _ => False

variable {get : Program (Except Cause String)}

theorem sending_ensureResource (kind name : String)
    (fields : Fields k) (hget : Reading (Describes w k p) get w)
    (hinsert : P (.insert k p ⟨cfg.owner, fields⟩) w) :
    Sending P (fun _ w' => Owned cfg.owner w' k p)
      (ensureResource waits cfg kind name get (insertResource k p ⟨cfg.owner, fields⟩)) w := by
  refine hget.bind fun b hb => ?_
  cases b with
  | error err =>
    refine Meets.ite (fun _ => ?_) fun _ => ?_
    · refine Meets.weaken (sending_change (r := .insert k p ⟨cfg.owner, fields⟩)
        (sending_call hinsert fun _ _ h => h)) ?_
      rintro _ _ ⟨-, f, -, rfl⟩
      exact owned_of_some (Compute.put_self _ _) rfl
    · trivial
  | ok description =>
    refine meets_ofExcept fun _ hcheck => ?_
    exact hb.owned (by rw [checkOwner_ok hcheck])

theorem creating_ensureFirewall {suffix : String} {want : Resource .firewall}
    (hplace : cfg.site.Has .firewall (cfg.firewallPlace (cfg.name ++ suffix)))
    (hwant : want.description = cfg.owner) :
    Sending (Creating cfg) (fun _ _ => True) (ensureFirewall waits cfg (cfg.name ++ suffix) want)
      w := by
  refine (reading_getResource _ _).bind fun b hb => ?_
  cases b with
  | error e =>
    refine Meets.ite (fun _ => ?_) fun _ => ?_
    · refine Meets.weaken (sending_change (r := .insert _ _ want)
        (sending_call ⟨by simp, hplace, hwant⟩ fun _ _ h => h)) fun _ _ _ => trivial
    · trivial
  | ok existing =>
    refine Meets.bind (meets_ofExcept fun _ hcheck => ?_)
    dsimp only
    split
    · trivial
    · split
      · trivial
      · refine Meets.weaken (sending_change (r := .patchFirewall _ _ _)
          (sending_call ?_ fun _ _ h => h)) fun _ _ _ => trivial
        exact owned_of_some hb (checkOwner_ok hcheck)

theorem creating_ensureFirewalls :
    Sending (Creating cfg) (fun _ _ => True) (ensureFirewalls waits cfg) w := by
  refine Meets.bind ((creating_ensureFirewall (.inl rfl) rfl).weaken ?_)
  intro _ w' _
  exact creating_ensureFirewall (.inr rfl) rfl

theorem creating_ensureRegional (kind : String) (k : Kind) (fields : Fields k)
    (hk : k ≠ .networkEndpointGroup) (hplace : cfg.site.Has k = (· = cfg.place)) :
    Sending (Creating cfg) (fun _ _ => True) (ensureRegional waits cfg kind k fields) w :=
  (sending_ensureResource kind _ fields (reading_getDescription k cfg.place)
    ⟨hk, hplace ▸ rfl, rfl⟩).weaken fun _ _ _ => trivial

theorem creating_ensureLoadBalancer :
    Sending (Creating cfg) (fun _ _ => True) (ensureLoadBalancer waits cfg) w := by
  refine Meets.bind ((creating_ensureRegional _ _ _ (by simp) rfl).weaken fun _ _ _ => ?_)
  refine Meets.bind ((creating_ensureRegional _ _ _ (by simp) rfl).weaken fun _ _ _ => ?_)
  refine Meets.bind ((creating_ensureRegional _ _ _ (by simp) rfl).weaken fun _ _ _ => ?_)
  refine (reading_getResource _ _).bind fun b _ => ?_
  cases b with
  | error e => trivial
  | ok addr =>
    exact Meets.bind ((creating_ensureRegional _ _ _ (by simp) rfl).weaken
      fun _ _ _ => trivial)

/-! ### Deleting -/

def Deleting (owner : String) (r : Request) (w : Compute) : Prop :=
  match r with
  | .delete k p => Owned owner w k p
  | _ => False

def Fewer (w w' : Compute) : Prop := ∀ k p r, w'.resources k p = some r → w.resources k p = some r

theorem Fewer.shrinks (h : Fewer w w') : Shrinks owner w w' :=
  fun k p hp r hr => hp r (h k p r hr)

theorem fewer_serve {b : Answer r} (hr : r.IsRead ∨ Deleting owner r w)
    (h : serve r w b w') : Fewer w w' := by
  rcases hr with hr | hr
  · obtain rfl := serve_read hr h
    exact fun _ _ _ => id
  · cases r with
    | delete k p =>
      rcases serve_cases h with rfl | ⟨-, rfl⟩
      · exact fun _ _ _ => id
      · intro k' p' x hx
        by_cases hplace : k' = k ∧ p' = p
        · obtain ⟨rfl, rfl⟩ := hplace
          rw [Compute.put_self] at hx
          cases hx
        · rwa [Compute.put_of_ne _ _ fun hk hp => hplace ⟨hk, hp⟩] at hx
    | _ => exact hr.elim

theorem Deleting.fewer (h : Sending (Deleting owner) Q c w) :
    Sending (Deleting owner) (fun a w' => Q a w' ∧ Fewer w w') c w :=
  Meets.track (R := Fewer) (fun _ _ _ _ => id)
    (fun _ _ _ h h' k p r hr => h k p r (h' k p r hr)) (fun _ _ _ _ hr hs => fewer_serve hr hs) h

def Seen (owner : String) (w : Compute) (k : Kind) (p : Place) : Except Cause String → Prop
  | .ok description => if description = owner then Owned owner w k p else Absent owner w k p
  | .error c => isNotFound c = true → Absent owner w k p

theorem seen_description {r : Resource k} (h : w.resources k p = some r) :
    Seen owner w k p (.ok r.description) := by
  by_cases hd : r.description = owner
  · rw [Seen, if_pos hd]
    exact owned_of_some h hd
  · rw [Seen, if_neg hd]
    intro r' hr'
    obtain rfl := Option.some.inj (h.symm.trans hr')
    exact hd

theorem Describes.seen (h : Describes w k p b) : Seen owner w k p b := by
  cases b with
  | ok description =>
    obtain ⟨r, hr, rfl⟩ := h.found description rfl
    exact seen_description hr
  | error c => exact fun hc => absent_of_none (h.missing c rfl hc)

theorem Seen.fewer (h : Seen owner w k p b) (hw : Fewer w w') : Seen owner w' k p b := by
  cases b with
  | error c => exact fun hc => hw.shrinks k p (h hc)
  | ok description =>
    rw [Seen] at h ⊢
    split_ifs at h ⊢
    · exact fun r hr => h r (hw k p r hr)
    · exact hw.shrinks k p h

section Clearing

variable {A B : Kind → Place → Prop}

theorem deleting_bind {d : Program γ} (hc : Sending (Deleting owner) (fun _ => Clear owner A) c w)
    (hd : ∀ w', Sending (Deleting owner) (fun _ => Clear owner B) d w') :
    Sending (Deleting owner) (fun _ => Clear owner fun k p => A k p ∨ B k p) (c >>= fun _ => d)
      w := by
  refine Meets.bind (hc.weaken fun _ w' hA => ?_)
  refine (Deleting.fewer (hd w')).weaken ?_
  rintro _ w'' ⟨hB, hfewer⟩ k p (hp | hp)
  · exact hA.shrinks hfewer.shrinks k p hp
  · exact hB k p hp

theorem deleting_deleteResource (kind name : String) (hget : Reading (Seen cfg.owner w k p) get w) :
    Sending (Deleting cfg.owner) (fun _ w' => Absent cfg.owner w' k p)
      (deleteResource waits cfg kind name get (deleteRequest k p)) w := by
  refine hget.bind fun b hb => ?_
  cases b with
  | error err =>
    refine Meets.ite (fun hnf => ?_) fun _ => ?_
    · exact hb hnf
    · trivial
  | ok description =>
    rw [Seen] at hb
    refine Meets.ite (fun hd => ?_) fun hd => ?_
    · rw [if_neg hd] at hb
      exact hb
    · rw [if_pos (not_not.1 hd)] at hb
      refine Meets.bind (sending_call hb ?_)
      rintro b w' ⟨hchange, hmissing⟩
      cases b with
      | error e =>
        show Sending _ _ (if _ then _ else _) _
        split
        · next hnf =>
          -- nothing was there, so the request had no effect
          have hnone : w.resources k p = none := hmissing e rfl (by simpa [isNotFound] using hnf)
          rcases cases hchange with rfl | ⟨hsome, -⟩
          · exact absent_of_none hnone
          · exact absurd hnone hsome
        · trivial
      | ok op =>
        refine (reading_change hchange).sending.weaken ?_
        rintro _ _ ⟨rfl, -, rfl⟩
        exact absent_of_none (w.put_self none)

theorem deleting_described (kind name : String) (k : Kind) (p : Place) :
    Sending (Deleting cfg.owner) (fun _ => Clear cfg.owner fun k' p' => k' = k ∧ p' = p)
      (deleteResource waits cfg kind name (getDescription k p) (deleteRequest k p)) w := by
  refine (deleting_deleteResource kind name ((reading_getDescription k p).weaken ?_)).weaken ?_
  · rintro b w' ⟨hw, hb⟩
    exact ⟨hw, hb.seen⟩
  · rintro _ w' h _ _ ⟨rfl, rfl⟩
    exact h

theorem deleting_deleteRegional (kind : String) (k : Kind) :
    Sending (Deleting cfg.owner) (fun _ => Clear cfg.owner (cfg.Regional k))
      (deleteRegional waits cfg kind k) w :=
  deleting_described kind _ k cfg.place

theorem deleting_deleteFirewall (suffix : String) :
    Sending (Deleting cfg.owner) (fun _ => Clear cfg.owner (cfg.Rule suffix))
      (deleteFirewall waits cfg (cfg.name ++ suffix)) w :=
  deleting_described _ _ _ _

theorem deleting_deleteGroups {groups : List ListedGroup}
    (h : ∀ g ∈ groups, Seen cfg.owner w .networkEndpointGroup ⟨cfg.projectID, base g.zone, g.name⟩
      (.ok g.description)) :
    Sending (Deleting cfg.owner) (fun _ => Clear cfg.owner fun k p => k = .networkEndpointGroup ∧
        ∃ g ∈ groups, p = ⟨cfg.projectID, base g.zone, g.name⟩)
      (deleteGroups waits cfg groups) w := by
  induction groups generalizing w with
  | nil =>
    rintro k p ⟨-, g, hg, -⟩
    cases hg
  | cons g rest ih =>
    rw [List.forall_mem_cons] at h
    have hseen : Reading (Seen cfg.owner w .networkEndpointGroup
        ⟨cfg.projectID, base g.zone, g.name⟩) (pure (.ok g.description)) w := ⟨rfl, h.1⟩
    refine Meets.bind ((Deleting.fewer (deleting_deleteResource _ _ hseen)).weaken ?_)
    rintro _ w' ⟨habsent, hfewer⟩
    refine (Deleting.fewer (ih fun g' hg' => (h.2 g' hg').fewer hfewer)).weaken ?_
    rintro _ w'' ⟨hrest, hfewer'⟩ _ _ ⟨rfl, g', hg', rfl⟩
    rcases List.mem_cons.mp hg' with rfl | hg'
    · exact hfewer'.shrinks _ _ habsent
    · exact hrest _ _ ⟨rfl, g', hg', rfl⟩

theorem reading_aggregatedList (project owner : String) :
    Reading (fun b => ∀ groups : List ListedGroup, b = .ok groups →
        (∀ g ∈ groups, g.zone ≠ "" → Seen owner w .networkEndpointGroup
          ⟨project, base g.zone, g.name⟩ (.ok g.description)) ∧
        ∀ zone name, Absent owner w .networkEndpointGroup ⟨project, zone, name⟩ ∨
          ∃ g ∈ groups, g.zone ≠ "" ∧ base g.zone = zone ∧ g.name = name)
      (aggregatedList project) w := by
  refine reading_call trivial ?_
  rintro b ⟨-, hb⟩ groups hgroups
  obtain ⟨hlisted, hall⟩ := hb groups hgroups
  constructor
  · intro g hg hzone
    obtain ⟨r, hr, hd⟩ := hlisted g hg hzone
    rw [← hd]
    exact seen_description hr
  · intro zone name
    by_cases hnone : w.resources .networkEndpointGroup ⟨project, zone, name⟩ = none
    · exact .inl (absent_of_none hnone)
    · exact .inr (hall zone name hnone)

theorem deleting_listed {d : Program Unit}
    (hd : ∀ w', Sending (Deleting cfg.owner) (fun _ => Clear cfg.owner B) d w') :
    Sending (Deleting cfg.owner) (fun _ => Clear cfg.owner fun k p => cfg.Zonal k p ∨ B k p)
      (aggregatedList cfg.projectID >>= fun b => match b with
        | .error e => .fail (.cloud (.api e) "listing network endpoint groups" [])
        | .ok groups => do
          deleteGroups waits cfg
            (groups.filter fun neg => neg.zone ≠ "" ∧ neg.name = cfg.negName (base neg.zone))
          d) w := by
  refine (reading_aggregatedList cfg.projectID cfg.owner).bind fun b hb => ?_
  cases b with
  | error e => trivial
  | ok groups =>
    obtain ⟨hseen, hall⟩ := hb groups rfl
    refine deleting_bind ((Deleting.fewer (deleting_deleteGroups ?_)).weaken ?_) hd
    · intro g hg
      simp only [List.mem_filter, decide_eq_true_eq] at hg
      exact hseen g hg.1 hg.2.1
    · rintro _ w' ⟨hdeleted, hfewer⟩ _ _ ⟨rfl, zone, rfl⟩
      rcases hall zone (cfg.negName zone) with habsent | ⟨g, hg, hzone, rfl, hname⟩
      · exact hfewer.shrinks _ _ habsent
      · refine hdeleted _ _ ⟨rfl, g, by simp [hg, hzone, hname], ?_⟩
        rw [hname]
        rfl

theorem deleting_deleteLoadBalancer :
    Sending (Deleting cfg.owner)
      (fun _ => Clear cfg.owner fun k p =>
        cfg.Regional .forwardingRule k p ∨ cfg.Regional .backendService k p ∨ cfg.Zonal k p ∨
          cfg.Regional .healthCheck k p ∨ cfg.Regional .address k p)
      (deleteLoadBalancer waits cfg) w :=
  deleting_bind (deleting_deleteRegional _ _) fun _ =>
    deleting_bind (deleting_deleteRegional _ _) fun _ =>
      deleting_listed fun _ => deleting_bind (deleting_deleteRegional _ _) fun _ =>
        deleting_deleteRegional _ _

theorem deleting_deleteFirewalls :
    Sending (Deleting cfg.owner)
      (fun _ => Clear cfg.owner fun k p =>
        cfg.Rule apiFirewallSuffix k p ∨ cfg.Rule healthCheckFirewallSuffix k p)
      (deleteFirewalls waits cfg) w :=
  deleting_bind (deleting_deleteFirewall _) fun _ => deleting_deleteFirewall _

end Clearing

def OwnEndpoint (p : Place) (apiHost : String) (w : Compute) : Prop :=
  apiHost = "" ∨ ∀ r, w.resources .address p = some r → Address.address r.fields = apiHost

theorem reading_keepsLB (apiHost : String) :
    Reading (fun keeps => keeps = true → ¬ OwnEndpoint cfg.place apiHost w)
      (keepsLB cfg apiHost) w := by
  unfold keepsLB
  split
  · exact ⟨rfl, by simp⟩
  · next hne =>
    refine (reading_getResource _ _).bind fun b hb => ?_
    cases b with
    | error e =>
      refine Meets.ite (fun _ => ?_) fun _ => ?_
      · exact ⟨rfl, by simp⟩
      · trivial
    | ok addr =>
      refine ⟨rfl, fun hkeeps hown => ?_⟩
      exact (of_decide_eq_true hkeeps) (hown.resolve_left hne addr hb)

theorem LbConfig.cases_has (h : cfg.site.Has k p) :
    (cfg.Regional .forwardingRule k p ∨ cfg.Regional .backendService k p ∨ cfg.Zonal k p ∨
      cfg.Regional .healthCheck k p ∨ cfg.Regional .address k p) ∨
    cfg.Rule apiFirewallSuffix k p ∨ cfg.Rule healthCheckFirewallSuffix k p := by
  simp only [Regional, Zonal, Rule, place, negPlace, negName, firewallPlace]
  cases k <;> simpa [Site.Has, site] using h

theorem deleting_cleanupLoadBalancer (apiHost : String) :
    Sending (Deleting cfg.owner)
      (fun _ w' => OwnEndpoint cfg.place apiHost w → Clear cfg.owner cfg.site.Has w')
      (cleanupLoadBalancer waits cfg apiHost) w := by
  refine (reading_keepsLB apiHost).bind fun keeps hkeeps => ?_
  cases keeps with
  | true => exact deleting_deleteFirewalls.weaken fun _ _ _ hown => absurd hown (hkeeps rfl)
  | false =>
    refine (deleting_bind deleting_deleteLoadBalancer fun _ => deleting_deleteFirewalls).weaken ?_
    exact fun _ _ hclear _ => hclear.subset fun _ _ => LbConfig.cases_has

/-! ### The provider -/

/-- Every outcome of resolving the network of the control plane satisfies the assertion. -/
def Resolves (S : Service Compute Request Answer) (s : Cluster) (w : Compute)
    (Q : Except Failure LbConfig → Prop) : Prop :=
  ∀ cfg, resolveLB s = .ok cfg →
    (resolveNetwork cfg s.nodeSets).Meets S (fun _ _ => True) (fun b _ => Q b) w

def ResolvedFor (s : Cluster) (cfg : LbConfig) : Prop :=
  ∃ cfg₀ network, resolveLB s = .ok cfg₀ ∧ cfg = { cfg₀ with network := network }

theorem owner_of_resolveLB {s : Cluster} {cfg : LbConfig} (h : resolveLB s = .ok cfg) :
    cfg.owner = ownerDescription s.name := by
  unfold resolveLB at h
  cases hsa : s.serviceAccountProjectID with
  | error e =>
    rw [hsa] at h
    cases h
  | ok project =>
    rw [hsa] at h
    simp only [Bind.bind, Except.bind] at h
    generalize (if s.loadBalancer.projectID = "" then project else s.loadBalancer.projectID) =
      projectID at h
    split at h
    · cases h
    · split at h
      · cases h
      · split at h
        · cases h
        · cases h
          rfl

section Providers

variable {S : Service Compute Request Answer} {s : Cluster} {Q : Except Failure LbConfig → Prop}

theorem ResolvedFor.owner_eq (h : ResolvedFor s cfg) : cfg.owner = ownerDescription s.name := by
  obtain ⟨cfg₀, network, hcfg₀, rfl⟩ := h
  show cfg₀.owner = _
  exact owner_of_resolveLB hcfg₀

theorem resolves_of_forall (h : ∀ b, Q b) : Resolves serve s w Q :=
  fun cfg _ => ((reading_resolveNetwork cfg s.nodeSets).allow fun _ _ _ => trivial).weaken
    fun b _ _ => h b

variable (hS : ∀ r w b w', S r w b w' → serve r w b w')

include hS

theorem meets_resolveNetwork
    (h : Resolves S s w Q) (hcfg : resolveLB s = .ok cfg) {P : Request → Compute → Prop} :
    (resolveNetwork cfg s.nodeSets).Meets S (fun r w => r.IsRead ∨ P r w)
      (fun b w' => w' = w ∧ Q b ∧ ∀ cfg', b = .ok cfg' → ResolvedFor s cfg') w := by
  have hread := (reading_resolveNetwork (w := w) cfg s.nodeSets).sending (P := P)
  refine (((hread.refine hS).and (h cfg hcfg)).allow fun _ _ hr => hr.1).weaken ?_
  rintro b w' ⟨⟨hw, hresolved⟩, hQ⟩
  refine ⟨hw, hQ, fun cfg' hcfg' => ?_⟩
  obtain ⟨network, hnetwork⟩ := hresolved cfg' hcfg'
  exact ⟨cfg, network, hcfg, hnetwork⟩

theorem creating_provider_ensureLoadBalancer (h : Resolves S s w Q) :
    (Provider.ensureLoadBalancer waits s).Meets S
      (fun r w' => r.IsRead ∨ ∃ cfg, ResolvedFor s cfg ∧ Q (.ok cfg) ∧ Creating cfg r w')
      (fun _ _ => True) w := by
  refine Meets.bind (meets_ofExcept fun cfg hcfg => ?_)
  refine Meets.bind (meets_ofExcept fun machines _ => ?_)
  refine Meets.bind (meets_ofExcept fun _ _ => ?_)
  refine Meets.bind ((meets_resolveNetwork hS h hcfg).weaken ?_)
  rintro b w' ⟨hw, hQ, hresolved⟩
  subst w'
  refine Meets.bind (meets_ofExcept fun cfg' hcfg' => ?_)
  subst hcfg'
  have hcreating : Sending (Creating cfg') (fun _ _ => True) (do
      ensureFirewalls waits cfg'
      if s.apiHost ≠ "" then pure s
      else
        let ip ← Gce.ensureLoadBalancer waits cfg'
        pure { s with apiHost := ip, apiPort := apiServerPort }) w := by
    refine Meets.bind (creating_ensureFirewalls.weaken fun _ _ _ => ?_)
    split
    · trivial
    · exact Meets.bind (creating_ensureLoadBalancer.weaken fun _ _ _ => trivial)
  refine (hcreating.refine hS).allow ?_
  exact fun r w' hr => hr.imp_right fun hr => ⟨cfg', hresolved cfg' rfl, hQ, hr⟩

theorem deleting_provider_cleanup (h : Resolves S s w Q) :
    (Provider.cleanupLoadBalancer waits s).Meets S
      (fun r w' => r.IsRead ∨ Deleting (ownerDescription s.name) r w')
      (fun _ w' => ∃ b, Q b ∧ ∀ cfg, b = .ok cfg → ResolvedFor s cfg ∧
        (OwnEndpoint cfg.place s.apiHost w → Clear (ownerDescription s.name) cfg.site.Has w'))
      w := by
  refine Meets.bind (meets_ofExcept fun cfg hcfg => ?_)
  refine Meets.bind ((meets_resolveNetwork hS h hcfg).weaken ?_)
  rintro b w' ⟨hw, hQ, hresolved⟩
  subst w'
  have howner : (b.toOption.getD cfg).owner = ownerDescription s.name := by
    cases b with
    | error err => exact owner_of_resolveLB hcfg
    | ok cfg' => exact (hresolved cfg' rfl).owner_eq
  have hcleanup : Sending (Deleting (b.toOption.getD cfg).owner) _
      (cleanupLoadBalancer waits (b.toOption.getD cfg) s.apiHost) w :=
    deleting_cleanupLoadBalancer s.apiHost
  rw [howner] at hcleanup
  refine Meets.bind ((hcleanup.refine hS).weaken fun _ w' hclear => ?_)
  refine ⟨b, hQ, fun cfg' hcfg' => ?_⟩
  subst hcfg'
  exact ⟨hresolved cfg' rfl, hclear⟩

end Providers

end Procedures

end KubeOne.CloudProvider.Gce
