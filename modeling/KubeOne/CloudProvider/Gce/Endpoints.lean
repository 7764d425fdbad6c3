import KubeOne.CloudProvider.Gce.Requests
import KubeOne.Collections.Assoc

/-! The members of the load balancer. A VM is an endpoint of the group of its zone, and the group
is a backend. An endpoint is attached only to a group of the cluster that has none of the VM, and
detached if its address is not that of the VM, or if the VM is joining. -/

namespace KubeOne.CloudProvider.Gce

open Process Client Text List Compute

/-! ### Groups -/

def Refs (w : Compute) (bs : Place) (q : Place) : Prop :=
  ∃ r, w.resources .backendService bs = some r ∧ q ∈ backendNEGs r.fields

def groupPath (p : Place) : String :=
  "projects/" ++ p.project ++ "/zones/" ++ p.location ++ "/networkEndpointGroups/" ++ p.name

def Place.Plain (p : Place) : Prop :=
  '/' ∉ p.project.toList ∧ '/' ∉ p.location.toList ∧ '/' ∉ p.name.toList

theorem resourcePath_groupPath (p : Place) : resourcePath (groupPath p) = groupPath p := by
  have hlist : (groupPath p).toList = "projects/".toList ++ (p.project.toList ++
      "/zones/".toList ++ p.location.toList ++ "/networkEndpointGroups/".toList ++
        p.name.toList) := by
    simp [groupPath]
  unfold resourcePath
  rw [hlist, fromFirst_append (by decide), Option.getD_some, ← hlist, String.ofList_toList]

theorem toList_groupPath (p : Place) :
    (groupPath p).toList = "projects".toList ++ '/' :: (p.project.toList ++
      '/' :: ("zones".toList ++ '/' :: (p.location.toList ++ '/' ::
        ("networkEndpointGroups".toList ++ '/' :: p.name.toList)))) := by
  have hprojects : "projects/".toList = "projects".toList ++ ['/'] := by decide
  have hzones : "/zones/".toList = '/' :: ("zones".toList ++ ['/']) := by decide
  have hgroups : "/networkEndpointGroups/".toList =
      '/' :: ("networkEndpointGroups".toList ++ ['/']) := by decide
  simp only [groupPath, String.toList_append, hprojects, hzones, hgroups]
  simp

theorem separator_notMem : '/' ∉ "projects".toList ∧ '/' ∉ "zones".toList ∧
    '/' ∉ "networkEndpointGroups".toList := by decide

variable {p : Place}

theorem plain_of_pathParts (h : (pathParts (groupPath p)).length = 6) : p.Plain := by
  obtain ⟨hprojects, hzones, hgroups⟩ := separator_notMem
  unfold pathParts at h
  rw [resourcePath_groupPath, toList_groupPath, length_map, length_split] at h
  simp only [count_append, count_cons_self, count_eq_zero_of_not_mem hprojects,
    count_eq_zero_of_not_mem hzones, count_eq_zero_of_not_mem hgroups] at h
  exact ⟨count_eq_zero.1 (by omega), count_eq_zero.1 (by omega), count_eq_zero.1 (by omega)⟩

theorem pathParts_groupPath (h : p.Plain) :
    pathParts (groupPath p) =
      ["projects", p.project, "zones", p.location, "networkEndpointGroups", p.name] := by
  obtain ⟨hprojects, hzones, hgroups⟩ := separator_notMem
  unfold pathParts
  rw [resourcePath_groupPath, toList_groupPath, split_append hprojects, split_append h.1,
    split_append hzones, split_append h.2.1, split_append hgroups, split_of_notMem h.2.2]
  simp

variable {b : Backend}

theorem backendNEG_of_groupPath (hb : resourcePath b.group = groupPath p) (h : p.Plain) :
    backendNEG b = some p := by
  have hparts : pathParts b.group = pathParts (groupPath p) := by
    unfold pathParts
    rw [hb, resourcePath_groupPath]
  unfold backendNEG
  rw [hparts, pathParts_groupPath h]
  simp

variable {zone : String} {q : Place}

theorem backendNEG_negPath {cfg : LbConfig} {mode : String}
    (h : backendNEG ⟨negPath cfg zone, mode⟩ = some q) : q = cfg.negPlace zone := by
  unfold backendNEG at h
  split at h
  · next projects project zones zone' groups name hparts =>
    have hpath : pathParts (groupPath (cfg.negPlace zone)) = _ := hparts
    rw [pathParts_groupPath (plain_of_pathParts (by rw [hpath]; rfl))] at hpath
    cases hpath
    split at h
    · exact (Option.some.inj h).symm
    · cases h
  · cases h

theorem backendNEG_congr {b' : Backend} (h : SameBackend b b') : backendNEG b' = backendNEG b := by
  unfold backendNEG pathParts
  rw [h.1]

theorem backendNEGs_congr {bs bs' : List Backend} (h : List.Forall₂ SameBackend bs bs') :
    bs'.filterMap backendNEG = bs.filterMap backendNEG := by
  induction h with
  | nil => rfl
  | cons hb _ ih => rw [filterMap_cons, filterMap_cons, backendNEG_congr hb, ih]

/-! ### Endpoints of a VM -/

/-- The addresses with which the VM of a name is among the endpoints. -/
def addressesOf (endpoints : List NetworkEndpoint) (name : String) : List String :=
  (endpoints.filter fun e => base e.instanceRef = name).map (·.ipAddress)

section Addresses

variable {l l' detached : List NetworkEndpoint} {e e' : NetworkEndpoint} {name : String}

theorem mem_addressesOf (he : e ∈ l) (hname : base e.instanceRef = name) :
    e.ipAddress ∈ addressesOf l name :=
  mem_map_of_mem (mem_filter.2 ⟨he, by simpa using hname⟩)

theorem addressesOf_eq_nil : addressesOf l name = [] ↔ ∀ e ∈ l, base e.instanceRef ≠ name := by
  simp [addressesOf, filter_eq_nil_iff]

theorem addressesOf_append (l l' : List NetworkEndpoint) (name : String) :
    addressesOf (l ++ l') name = addressesOf l name ++ addressesOf l' name := by
  simp [addressesOf]

theorem addressesOf_of_sublist (h : l'.Sublist l)
    (hl : (addressesOf l name).length ≤ 1 ∧ "" ∉ addressesOf l name) :
    (addressesOf l' name).length ≤ 1 ∧ "" ∉ addressesOf l' name := by
  have hsub := (h.filter fun e => base e.instanceRef = name).map (·.ipAddress)
  exact ⟨hsub.length_le.trans hl.1, fun hmem => hl.2 (hsub.subset hmem)⟩

theorem addressesOf_stored (h : SameEndpoint e e') :
    addressesOf [e'] name = if base e.instanceRef = name then [e.ipAddress] else [] := by
  by_cases hname : base e.instanceRef = name
  · simp [addressesOf, h.1, h.2, hname]
  · simp [addressesOf, h.1, hname]

theorem addressesOf_detach (h : ∀ e ∈ l, base e.instanceRef = name → e ∉ detached) :
    addressesOf (l.filter (· ∉ detached)) name = addressesOf l name := by
  unfold addressesOf
  rw [filter_filter]
  refine congrArg _ (filter_congr fun e he => ?_)
  by_cases hname : base e.instanceRef = name
  · simp [hname, h e he hname]
  · simp [hname]

end Addresses

/-! ### Groups and backends -/

def Resource.members (r : Resource .networkEndpointGroup) : List NetworkEndpoint :=
  NetworkEndpointGroup.endpoints r.fields

def Resource.withMembers (r : Resource .networkEndpointGroup) (endpoints : List NetworkEndpoint) :
    Resource .networkEndpointGroup :=
  ⟨r.description, { (r.fields : NetworkEndpointGroup) with endpoints := endpoints }⟩

@[simp] theorem Resource.members_withMembers (r : Resource .networkEndpointGroup)
    (endpoints : List NetworkEndpoint) : (r.withMembers endpoints).members = endpoints := rfl

/-- The group has exactly one endpoint of the VM, with its current address. -/
def Enrolled (w : Compute) (p : Place) (name : String) : Prop :=
  ∃ r nic rest, w.resources .networkEndpointGroup p = some r ∧
    w.instances ⟨p.project, p.location, name⟩ = some (nic :: rest) ∧
    addressesOf r.members name = [nic.networkIP]

def BackedBy (w : Compute) (bs p : Place) : Prop :=
  ∃ r, w.resources .backendService bs = some r ∧
    ∃ b ∈ BackendService.backends r.fields, resourcePath b.group = groupPath p

/-- The VM is a member of the load balancer, through the group of its zone. -/
structure Member (cfg : LbConfig) (zone name : String) (w : Compute) : Prop where
  enrolled : Enrolled w (cfg.negPlace zone) name
  backed : BackedBy w cfg.place (cfg.negPlace zone)

def Vacant (hosts : List String) (w : Compute) (p : Place) : Prop :=
  ∀ r, w.resources .networkEndpointGroup p = some r → ∀ e ∈ r.members, base e.instanceRef ∉ hosts

/-- The groups of the cluster have at most one endpoint of a VM, and none without an address. -/
def Tidy (owner : String) (w : Compute) : Prop :=
  ∀ p r, w.resources .networkEndpointGroup p = some r → r.description = owner →
    ∀ name, (addressesOf r.members name).length ≤ 1 ∧ "" ∉ addressesOf r.members name

/-- What Compute Engine guarantees: the name of a VM has no separators, and an interface has an
address. -/
structure WellFormedVMs (w : Compute) : Prop where
  named : ∀ p nics, w.instances p = some nics → '/' ∉ p.name.toList ∧ p.name ≠ ""
  addressed : ∀ p nics, w.instances p = some nics → ∀ nic ∈ nics, nic.networkIP ≠ ""

/-! ### Effects of requests -/

inductive GroupStep (p : Place) : Request → Option (Resource .networkEndpointGroup) →
    Option (Resource .networkEndpointGroup) → Prop
  | same (r : Request) (x : Option (Resource .networkEndpointGroup)) : GroupStep p r x x
  | create (x : Resource .networkEndpointGroup) :
    GroupStep p (.insert .networkEndpointGroup p x) none (some x)
  | delete (x : Option (Resource .networkEndpointGroup)) :
    GroupStep p (.delete .networkEndpointGroup p) x none
  | attach (x : Resource .networkEndpointGroup) {endpoints stored : List NetworkEndpoint}
    (h : List.Forall₂ SameEndpoint endpoints stored) :
    GroupStep p (.attachNetworkEndpoints p endpoints) (some x)
      (some (x.withMembers (x.members ++ stored)))
  | detach (x : Resource .networkEndpointGroup) (endpoints : List NetworkEndpoint) :
    GroupStep p (.detachNetworkEndpoints p endpoints) (some x)
      (some (x.withMembers (x.members.filter (· ∉ endpoints))))

variable {keep : String → Prop}

section Effects

variable {w w' w'' : Compute} {r : Request} {owner : String}

theorem groupStep_put {k : Kind} (x : Option (Resource k))
    (h : k = .networkEndpointGroup → q ≠ p) :
    GroupStep p r (w.resources .networkEndpointGroup p)
      ((w.put k q x).resources .networkEndpointGroup p) := by
  rw [put_of_ne _ _ fun hk hp => h hk.symm hp.symm]
  exact .same r _

theorem groupStep_effect (h : r.Effect w w') (p : Place) :
    GroupStep p r (w.resources .networkEndpointGroup p)
      (w'.resources .networkEndpointGroup p) := by
  cases r with
  | insert k q x =>
    obtain ⟨hnone, f, hf, rfl⟩ := h
    by_cases hplace : k = .networkEndpointGroup ∧ q = p
    · obtain ⟨rfl, rfl⟩ := hplace
      obtain rfl : f = x.fields := hf
      rw [hnone, put_self]
      exact .create x
    · exact groupStep_put _ fun hk hp => hplace ⟨hk, hp⟩
  | delete k q =>
    obtain ⟨-, rfl⟩ := h
    by_cases hplace : k = .networkEndpointGroup ∧ q = p
    · obtain ⟨rfl, rfl⟩ := hplace
      rw [put_self]
      exact .delete _
    · exact groupStep_put _ fun hk hp => hplace ⟨hk, hp⟩
  | attachNetworkEndpoints q endpoints =>
    obtain ⟨x, hx, stored, hstored, rfl⟩ := h
    by_cases hplace : q = p
    · subst hplace
      rw [hx, put_self]
      exact .attach x hstored
    · exact groupStep_put _ fun _ => hplace
  | detachNetworkEndpoints q endpoints =>
    obtain ⟨x, hx, rfl⟩ := h
    by_cases hplace : q = p
    · subst hplace
      rw [hx, put_self]
      exact .detach x endpoints
    · exact groupStep_put _ fun _ => hplace
  | patchFirewall q sourceRanges targetTags =>
    obtain ⟨x, -, rfl⟩ := h
    exact groupStep_put _ (by simp)
  | patchBackends q backends fingerprint =>
    obtain ⟨x, -, -, stored, fingerprint', -, rfl⟩ := h
    exact groupStep_put _ (by simp)
  | _ => cases h

theorem instances_effect (h : r.Effect w w') : w'.instances = w.instances := by
  cases h.changed <;> rfl

/-- A group is created empty, and an endpoint is attached only if the group has none of its VM. -/
def Request.Fresh (r : Request) (w : Compute) : Prop :=
  match r with
  | .insert .networkEndpointGroup _ x => Resource.members x = []
  | .attachNetworkEndpoints p endpoints => ∃ e, endpoints = [e] ∧ e.ipAddress ≠ "" ∧
      ∀ x, w.resources .networkEndpointGroup p = some x →
        addressesOf x.members (base e.instanceRef) = []
  | _ => True

/-- Nothing is deleted, backends stay, and an endpoint of a VM to be kept is detached only if it
does not have the address of the VM. -/
def Request.Lasting (keep : String → Prop) (r : Request) (w : Compute) : Prop :=
  match r with
  | .delete _ _ => False
  | .detachNetworkEndpoints p endpoints => ∀ e ∈ endpoints, keep (base e.instanceRef) →
      ∀ nic rest, w.instances ⟨p.project, p.location, base e.instanceRef⟩ = some (nic :: rest) →
        e.ipAddress ≠ nic.networkIP
  | .patchBackends p backends _ => ∀ x, w.resources .backendService p = some x →
      ∀ b ∈ BackendService.backends x.fields, b ∈ backends
  | _ => True

variable {x : Resource .networkEndpointGroup}

theorem Request.Fresh.attach {endpoints stored : List NetworkEndpoint}
    (hr : (attachNetworkEndpoints p endpoints).Fresh w)
    (hstored : List.Forall₂ SameEndpoint endpoints stored)
    (hx : w.resources .networkEndpointGroup p = some x) :
    ∃ e, endpoints = [e] ∧ e.ipAddress ≠ "" ∧ addressesOf x.members (base e.instanceRef) = [] ∧
      ∀ name, addressesOf (x.members ++ stored) name =
        addressesOf x.members name ++ if base e.instanceRef = name then [e.ipAddress] else [] := by
  obtain ⟨e, rfl, haddress, hnone⟩ := hr
  cases hstored with
  | cons hsame hnil =>
    cases hnil with
    | nil =>
      refine ⟨e, rfl, haddress, hnone x hx, fun name => ?_⟩
      rw [addressesOf_append, addressesOf_stored hsame]

theorem tidy_effect (hr : r.Fresh w) (h : r.Effect w w') (htidy : Tidy owner w) :
    Tidy owner w' := by
  intro p x hx howner name
  have hstep := groupStep_effect h p
  rw [hx] at hstep
  generalize hold : w.resources .networkEndpointGroup p = old at hstep
  cases hstep with
  | same => exact htidy p x hold howner name
  | create =>
    have hempty : x.members = [] := hr
    simp [hempty, addressesOf]
  | attach y hstored =>
    obtain ⟨e, -, haddress, hnone, hadded⟩ := hr.attach hstored hold
    rw [Resource.members_withMembers, hadded]
    by_cases hname : base e.instanceRef = name
    · rw [if_pos hname, ← hname, hnone]
      simpa using haddress.symm
    · rw [if_neg hname, append_nil]
      exact htidy p y hold howner name
  | detach y endpoints =>
    exact addressesOf_of_sublist filter_sublist (htidy p y hold howner name)

theorem enrolled_effect {name : String} (hr : r.Fresh w) (hlasting : r.Lasting keep w)
    (h : r.Effect w w') (hkeep : keep name) (henrolled : Enrolled w p name) :
    Enrolled w' p name := by
  obtain ⟨x, nic, rest, hx, hvm, haddress⟩ := henrolled
  have hvm' : w'.instances ⟨p.project, p.location, name⟩ = some (nic :: rest) := by
    rw [instances_effect h, hvm]
  have hstep := groupStep_effect h p
  rw [hx] at hstep
  generalize hnew : w'.resources .networkEndpointGroup p = new at hstep
  cases hstep with
  | same => exact ⟨x, nic, rest, hnew, hvm', haddress⟩
  | delete => exact hlasting.elim
  | attach _ hstored =>
    obtain ⟨e, -, -, hnone, hadded⟩ := hr.attach hstored hx
    have hname : base e.instanceRef ≠ name := by
      rintro rfl
      rw [hnone] at haddress
      cases haddress
    refine ⟨_, nic, rest, hnew, hvm', ?_⟩
    rw [Resource.members_withMembers, hadded, if_neg hname, append_nil, haddress]
  | detach _ endpoints =>
    refine ⟨_, nic, rest, hnew, hvm', ?_⟩
    rw [Resource.members_withMembers, addressesOf_detach, haddress]
    -- the one endpoint of the VM has its address
    intro e he hname hdetached
    have hmem := mem_addressesOf he hname
    rw [haddress, mem_singleton] at hmem
    subst hname
    exact hlasting e hdetached hkeep nic rest hvm hmem

theorem exists_stored {backends stored : List Backend}
    (h : List.Forall₂ SameBackend backends stored) (hb : b ∈ backends) :
    ∃ b' ∈ stored, resourcePath b'.group = resourcePath b.group := by
  obtain ⟨b', hb', hsame⟩ := Collections.forall₂_mem_left h hb
  exact ⟨b', hb', hsame.1⟩

theorem backedBy_effect {bs : Place} (hlasting : r.Lasting keep w) (h : r.Effect w w')
    (hbacked : BackedBy w bs p) : BackedBy w' bs p := by
  obtain ⟨x, hx, b, hb, hpath⟩ := hbacked
  have hput : ∀ {k : Kind} {q : Place} (y : Option (Resource k)),
      (k = .backendService → q ≠ bs) → BackedBy (w.put k q y) bs p := by
    intro k q y hne
    refine ⟨x, ?_, b, hb, hpath⟩
    rw [put_of_ne _ _ fun hk hp => hne hk.symm hp.symm, hx]
  cases h.changed with
  | insert hnone =>
    refine hput _ ?_
    rintro rfl rfl
    rw [hnone] at hx
    cases hx
  | delete => exact hlasting.elim
  | @update _ k q old f htarget hold =>
    by_cases hplace : k = .backendService ∧ q = bs
    · obtain ⟨rfl, rfl⟩ := hplace
      cases r <;> cases htarget
      · exact hlasting.elim
      · obtain ⟨y, hy, -, stored, fingerprint', hstored, heq⟩ := h
        obtain ⟨b', hb', hstoredPath⟩ := exists_stored hstored (hlasting x hx b hb)
        rw [heq]
        exact ⟨_, put_self _ _, b', hb', hstoredPath.trans hpath⟩
    · exact hput _ fun hk hq => hplace ⟨hk, hq⟩

theorem WellFormedVMs.congr (h : WellFormedVMs w) (hvms : w'.instances = w.instances) :
    WellFormedVMs w' := by
  refine ⟨?_, ?_⟩
  · rw [hvms]
    exact h.named
  · rw [hvms]
    exact h.addressed

/-- What requests that are fresh and lasting keep. -/
structure Keeps (joining : List String) (owner : String) (w w' : Compute) : Prop where
  vms : w'.instances = w.instances
  backed : ∀ bs p, BackedBy w bs p → BackedBy w' bs p
  tidy : WellFormedVMs w → Tidy owner w → Tidy owner w'
  enrolled : WellFormedVMs w → ∀ p name, name ∉ joining → Enrolled w p name → Enrolled w' p name

variable {joining : List String}

theorem Keeps.refl (w : Compute) : Keeps joining owner w w :=
  ⟨rfl, fun _ _ => id, fun _ => id, fun _ _ _ _ => id⟩

theorem Keeps.trans (h : Keeps joining owner w w') (h' : Keeps joining owner w' w'') :
    Keeps joining owner w w'' where
  vms := h'.vms.trans h.vms
  backed := fun bs p hb => h'.backed bs p (h.backed bs p hb)
  tidy := fun hvms ht => h'.tidy (hvms.congr h.vms) (h.tidy hvms ht)
  enrolled := fun hvms p name hname he =>
    h'.enrolled (hvms.congr h.vms) p name hname (h.enrolled hvms p name hname he)

theorem Keeps.member {cfg : LbConfig} {name : String} (h : Keeps joining owner w w')
    (hvms : WellFormedVMs w) (hname : name ∉ joining) (hm : Member cfg zone name w) :
    Member cfg zone name w' :=
  ⟨h.enrolled hvms _ _ hname hm.enrolled, h.backed _ _ hm.backed⟩

end Effects

/-! ### Requests of the procedures -/

/-- A group is created without endpoints, a group of the cluster becomes a backend, a VM becomes an
endpoint of a group of the cluster that has none of it, and endpoints without the address of their
VM, or of joining hosts in a group that is a backend, are detached. -/
def Enrolling (cfg : LbConfig) (joining : List String) (r : Request) (w : Compute) : Prop :=
  match r with
  | .insert .networkEndpointGroup p x =>
    (∃ zone, p = cfg.negPlace zone) ∧ x.description = cfg.owner ∧ Resource.members x = []
  | .patchBackends p backends _ => p = cfg.place ∧
      ∃ x zone, w.resources .backendService p = some x ∧
        Owned cfg.owner w .networkEndpointGroup (cfg.negPlace zone) ∧
        backends = BackendService.backends x.fields ++ [⟨negPath cfg zone, balancingModeConnection⟩]
  | .attachNetworkEndpoints p endpoints => Owned cfg.owner w .networkEndpointGroup p ∧
      ∃ name nic rest, endpoints = [⟨name, nic.networkIP⟩] ∧
        w.instances ⟨p.project, p.location, name⟩ = some (nic :: rest) ∧
        ∀ x, w.resources .networkEndpointGroup p = some x → addressesOf x.members name = []
  | .detachNetworkEndpoints p endpoints => endpoints ≠ [] ∧
      ∃ x, w.resources .networkEndpointGroup p = some x ∧ (∀ e ∈ endpoints, e ∈ x.members) ∧
        (x.description = cfg.owner ∧ (∀ e ∈ endpoints, ∀ nic rest,
            w.instances ⟨p.project, p.location, base e.instanceRef⟩ = some (nic :: rest) →
              e.ipAddress ≠ nic.networkIP) ∨
          Refs w cfg.place p ∧ ∀ e ∈ endpoints, base e.instanceRef ∈ joining)
  | _ => False

section Procedures

variable {α : Type} {joining : List String} {w w' : Compute} {cfg : LbConfig} {waits : ℕ}
  {r : Request} {owner : String}

theorem Request.IsRead.fresh (h : r.IsRead) : r.Fresh w := by
  cases r <;> first | exact h.elim | trivial

theorem Request.IsRead.lasting (h : r.IsRead) : r.Lasting keep w := by
  cases r <;> first | exact h.elim | trivial

theorem Enrolling.fresh (hvms : WellFormedVMs w) (h : Enrolling cfg joining r w) : r.Fresh w := by
  cases r with
  | insert k p x =>
    cases k with
    | networkEndpointGroup => exact h.2.2
    | _ => exact h.elim
  | attachNetworkEndpoints p endpoints =>
    obtain ⟨-, name, nic, rest, rfl, hvm, hnone⟩ := h
    obtain ⟨hplain, hne⟩ := hvms.named _ _ hvm
    refine ⟨_, rfl, hvms.addressed _ _ hvm nic mem_cons_self, fun x hx => ?_⟩
    rw [base_of_notMem hplain hne]
    exact hnone x hx
  | _ => trivial

theorem Enrolling.lasting (h : Enrolling cfg joining r w) : r.Lasting (· ∉ joining) w := by
  cases r with
  | delete k p => exact h.elim
  | detachNetworkEndpoints p endpoints =>
    obtain ⟨-, x, -, -, hstale | hjoining⟩ := h
    · exact fun e he _ => hstale.2 e he
    · exact fun e he hkeep => absurd (hjoining.2 e he) hkeep
  | patchBackends p backends fingerprint =>
    obtain ⟨-, y, zone, hy, -, rfl⟩ := h
    intro x hx b hb
    obtain rfl := Option.some.inj (hy.symm.trans hx)
    exact mem_append_left _ hb
  | _ => trivial

open Enrolling

theorem keeps_serve {b : Answer r} (hr : r.IsRead ∨ Enrolling cfg joining r w)
    (h : serve r w b w') : Keeps joining owner w w' := by
  have hfresh : WellFormedVMs w → r.Fresh w := fun hvms =>
    hr.elim Request.IsRead.fresh (fresh hvms)
  have hlasting : r.Lasting (· ∉ joining) w := hr.elim Request.IsRead.lasting lasting
  rcases serve_cases h with rfl | h
  · exact .refl _
  · exact ⟨instances_effect h, fun _ _ => backedBy_effect hlasting h,
      fun hvms => tidy_effect (hfresh hvms) h,
      fun hvms _ _ => enrolled_effect (hfresh hvms) hlasting h⟩

theorem Enrolling.keeps {Q : α → Compute → Prop} {c : Program α}
    (h : Sending (Enrolling cfg joining) Q c w) :
    Sending (Enrolling cfg joining) (fun a w' => Q a w' ∧ Keeps joining cfg.owner w w') c w :=
  h.track Keeps.refl (fun _ _ _ => .trans) fun _ _ _ _ => keeps_serve

theorem reading_getGroup (zone instanceName subnetwork : String) :
    Reading (Describes w .networkEndpointGroup (cfg.negPlace zone))
      (getGroup cfg zone instanceName subnetwork) w := by
  refine (reading_getResource _ _).bind fun b hb => ?_
  cases b with
  | error e => exact ⟨rfl, describes_error hb⟩
  | ok neg =>
    dsimp only
    split
    · refine ⟨rfl, by simp, ?_⟩
      rintro _ ⟨⟩ hc
      cases hc
    · exact ⟨rfl, describes_ok hb⟩

theorem enrolling_ensureBackend
    (howned : Owned cfg.owner w .networkEndpointGroup (cfg.negPlace zone)) :
    Sending (Enrolling cfg joining)
      (fun _ w' => w'.resources .networkEndpointGroup = w.resources .networkEndpointGroup ∧
        BackedBy w' cfg.place (cfg.negPlace zone))
      (ensureBackend waits cfg cfg.name zone) w := by
  refine (reading_getResource _ _).bind fun b hb => ?_
  cases b with
  | error e => trivial
  | ok current =>
    dsimp only
    split
    · next hany =>
      obtain ⟨b, hmem, hpath⟩ := any_eq_true.1 hany
      exact ⟨rfl, current, hb, b, hmem, of_decide_eq_true hpath⟩
    · refine Meets.weaken (sending_change (r := .patchBackends _ _ _)
        (sending_call ⟨rfl, current, zone, hb, howned, rfl⟩ fun _ _ h => h)) ?_
      rintro _ _ ⟨x, -, -, stored, fingerprint, hstored, rfl⟩
      obtain ⟨b', hb', hpath⟩ := exists_stored hstored (mem_append_right _
        (mem_singleton_self (Backend.mk (negPath cfg zone) balancingModeConnection)))
      refine ⟨by simp [put], _, put_self _ _, b', hb', ?_⟩
      rw [hpath]
      exact resourcePath_groupPath (cfg.negPlace zone)

def HasAddress (cfg : LbConfig) (zone name address : String) (w : Compute) : Prop :=
  ∃ x, w.resources .networkEndpointGroup (cfg.negPlace zone) = some x ∧
    addressesOf x.members name = [address]

variable {rest : List NetworkInterface}

theorem enrolling_attach {instanceName : String} {nic : NetworkInterface}
    (howned : Owned cfg.owner w .networkEndpointGroup (cfg.negPlace zone))
    (hvm : w.instances ⟨cfg.projectID, zone, instanceName⟩ = some (nic :: rest))
    (hnone : ∀ x, w.resources .networkEndpointGroup (cfg.negPlace zone) = some x →
      addressesOf x.members instanceName = []) :
    Sending (Enrolling cfg joining)
      (fun _ w' => base instanceName = instanceName →
        HasAddress cfg zone instanceName nic.networkIP w')
      (attachEndpoint.attach waits cfg zone instanceName nic.networkIP) w := by
  refine Meets.weaken (sending_change (r := .attachNetworkEndpoints (cfg.negPlace zone) _)
    (sending_call ⟨howned, _, nic, rest, rfl, hvm, hnone⟩ fun _ _ h => h)) ?_
  rintro _ _ ⟨x, hx, stored, hstored, rfl⟩ hname
  refine ⟨x.withMembers (x.members ++ stored), put_self _ _, ?_⟩
  cases hstored with
  | cons hsame hnil =>
    cases hnil with
    | nil =>
      rw [Resource.members_withMembers, addressesOf_append, hnone x hx, addressesOf_stored hsame,
        if_pos hname]
      rfl

theorem exists_listed {b : Except ApiError (List (Option NetworkEndpoint))}
    {listed : List (Option NetworkEndpoint)} (h : serve (.listNetworkEndpoints p) w b w')
    (hb : b = .ok listed) :
    ∃ x, w.resources .networkEndpointGroup p = some x ∧
      ∀ e, e ∈ listed.filterMap id ↔ e ∈ x.members := by
  subst hb
  obtain ⟨-, items, hitems, hnone, hlisted⟩ := h
  obtain rfl : items = some listed := hitems
  cases hx : w.resources .networkEndpointGroup p with
  | none => exact absurd (hnone.2 hx) (by simp)
  | some x =>
    refine ⟨x, rfl, fun e => Iff.trans ?_ (hlisted x hx listed rfl e)⟩
    simp

theorem Vacant.detach {joining : List String}
    {detached : List NetworkEndpoint} (h : Vacant joining w q)
    (hx : w.resources .networkEndpointGroup p = some x) :
    Vacant joining (w.put .networkEndpointGroup p
      (some (x.withMembers (x.members.filter (· ∉ detached))))) q := by
  intro y hy e he
  by_cases hq : q = p
  · subst hq
    rw [put_self] at hy
    obtain rfl := Option.some.inj hy
    exact h x hx e (mem_filter.1 he).1
  · rw [put_of_ne _ _ fun _ => hq] at hy
    exact h y hy e he

theorem enrolling_attachEndpoint {instanceName : String} {nic : NetworkInterface}
    (howned : Owned cfg.owner w .networkEndpointGroup (cfg.negPlace zone))
    (hvm : w.instances ⟨cfg.projectID, zone, instanceName⟩ = some (nic :: rest)) :
    Sending (Enrolling cfg joining)
      (fun _ w' => Tidy cfg.owner w → base instanceName = instanceName →
        HasAddress cfg zone instanceName nic.networkIP w')
      (attachEndpoint waits cfg zone instanceName nic.networkIP) w := by
  refine Reading.bind (reading_call trivial fun _ h => h) fun b hserve => ?_
  cases b with
  | error e => trivial
  | ok listed =>
    obtain ⟨x, hx, hmem⟩ := exists_listed hserve rfl
    dsimp only
    split
    · next hany =>
      intro htidy _
      obtain ⟨e, he, hattached⟩ := any_eq_true.1 hany
      simp only [isAttached, Bool.and_eq_true, Bool.or_eq_true, decide_eq_true_eq] at hattached
      obtain ⟨hlength, hempty⟩ := htidy _ x hx (howned x hx) instanceName
      have hfound := mem_addressesOf ((hmem e).1 he) hattached.1
      have hcurrent : e.ipAddress = nic.networkIP :=
        hattached.2.resolve_left fun h => hempty (h ▸ hfound)
      obtain ⟨address, hone⟩ := length_eq_one_iff.1
        (le_antisymm hlength (length_pos_of_mem hfound))
      rw [hone, mem_singleton, hcurrent] at hfound
      exact ⟨x, hx, by rw [hone, hfound]⟩
    · next hany =>
      have hstale : ∀ e ∈ x.members, base e.instanceRef = instanceName →
          isStale instanceName nic.networkIP e = true := by
        intro e he hbase
        have hattached : ¬ isAttached instanceName nic.networkIP e = true :=
          fun h => hany (any_eq_true.2 ⟨e, (hmem e).2 he, h⟩)
        simpa [isAttached, isStale, hbase] using hattached
      split
      · next hne =>
        have hallowed : Enrolling cfg joining (.detachNetworkEndpoints (cfg.negPlace zone)
            ((listed.filterMap id).filter (isStale instanceName nic.networkIP))) w := by
          refine ⟨hne, x, hx, fun e he => (hmem e).1 (mem_filter.1 he).1,
            .inl ⟨howned x hx, fun e he nic' rest' hvm' => ?_⟩⟩
          have hisStale := (mem_filter.1 he).2
          simp only [isStale, Bool.and_eq_true, decide_eq_true_eq, Bool.not_eq_true',
            Bool.or_eq_false_iff, decide_eq_false_iff_not] at hisStale
          obtain ⟨hbase, -, hne⟩ := hisStale
          rw [hbase] at hvm'
          obtain ⟨rfl, -⟩ := cons.inj (Option.some.inj (hvm.symm.trans hvm'))
          exact hne
        refine Meets.bind (sending_call hallowed ?_)
        intro b w' hchange
        cases b with
        | error e => trivial
        | ok op =>
          refine (reading_change hchange).bind fun _ heffect => ?_
          obtain ⟨y, hy, rfl⟩ := heffect
          obtain rfl := Option.some.inj (hx.symm.trans hy)
          refine Meets.weaken (enrolling_attach ?_ hvm ?_) fun _ _ h _ => h
          · exact owned_of_some (put_self _ _) (howned x hx)
          intro z hz
          rw [put_self] at hz
          obtain rfl := Option.some.inj hz
          rw [addressesOf_eq_nil]
          intro e he hbase
          obtain ⟨he, hkept⟩ := mem_filter.1 he
          exact of_decide_eq_true hkept (mem_filter.2 ⟨(hmem e).2 he, hstale e he hbase⟩)
      · next hnone =>
        refine (enrolling_attach howned hvm ?_).weaken fun _ _ h _ => h
        intro y hy
        obtain rfl := Option.some.inj (hx.symm.trans hy)
        rw [addressesOf_eq_nil]
        intro e he hbase
        rw [not_not, filter_eq_nil_iff] at hnone
        exact hnone e ((hmem e).2 he) (hstale e he hbase)

theorem enrolling_ensureEndpoint (zone instanceName : String) :
    Sending (Enrolling cfg joining)
      (fun _ w' => WellFormedVMs w → Tidy cfg.owner w → Member cfg zone instanceName w')
      (ensureEndpoint waits cfg cfg.name zone instanceName) w := by
  refine Reading.bind (reading_call trivial fun _ h => h.2) fun b hb => ?_
  cases b with
  | error e => trivial
  | ok nics =>
    cases nics with
    | nil => trivial
    | cons nic rest =>
      have hvm : w.instances ⟨cfg.projectID, zone, instanceName⟩ = some (nic :: rest) := hb
      refine Meets.bind ((keeps (sending_ensureResource _ _ _
        (reading_getGroup zone instanceName nic.subnetwork) ⟨⟨zone, rfl⟩, rfl, rfl⟩)).weaken ?_)
      rintro _ w₁ ⟨howned, hkeeps⟩
      refine Meets.bind ((keeps (enrolling_ensureBackend howned)).weaken ?_)
      rintro _ w₂ ⟨⟨hgroups, hbacked⟩, hkeeps'⟩
      have hkept := hkeeps.trans hkeeps'
      have howned' : Owned cfg.owner w₂ .networkEndpointGroup (cfg.negPlace zone) := by
        unfold Owned
        rw [hgroups]
        exact howned
      have hvm' : w₂.instances ⟨cfg.projectID, zone, instanceName⟩ = some (nic :: rest) := by
        rw [hkept.vms, hvm]
      refine (keeps (enrolling_attachEndpoint howned' hvm')).weaken ?_
      rintro _ w₃ ⟨haddress, hkeeps''⟩ hvms htidy
      obtain ⟨hplain, hne⟩ := hvms.named _ _ hvm
      obtain ⟨x, hx, hone⟩ := haddress (hkept.tidy hvms htidy) (base_of_notMem hplain hne)
      refine ⟨⟨x, nic, rest, hx, ?_, hone⟩, hkeeps''.backed _ _ hbacked⟩
      rw [hkeeps''.vms]
      exact hvm'

theorem enrolling_ensureEndpoints (machines : List Machine) :
    Sending (Enrolling cfg joining)
      (fun _ w' => WellFormedVMs w → Tidy cfg.owner w → ∀ m ∈ machines, m.name ∉ joining →
        ∃ zone, machineZone m cfg = .ok zone ∧ Member cfg zone m.name w')
      (ensureEndpoints waits cfg cfg.name machines) w := by
  induction machines generalizing w with
  | nil => exact fun _ _ m hm => absurd hm not_mem_nil
  | cons machine rest ih =>
    refine Meets.bind (meets_ofExcept fun zone hzone => ?_)
    refine Meets.bind ((keeps (enrolling_ensureEndpoint zone machine.name)).weaken
      ?_)
    rintro _ w' ⟨hmember, hkeeps⟩
    refine (keeps ih).weaken ?_
    rintro _ w'' ⟨hrest, hkeeps'⟩ hvms htidy m hm hname
    have hvms' := hvms.congr hkeeps.vms
    rcases mem_cons.1 hm with rfl | hm
    · exact ⟨zone, hzone, hkeeps'.member hvms' hname (hmember hvms htidy)⟩
    · exact hrest hvms' (hkeeps.tidy hvms htidy) m hm hname

theorem Refs.congr {bs : Place} (h : w'.resources .backendService = w.resources .backendService) :
    Refs w' bs q ↔ Refs w bs q := by
  unfold Refs
  rw [h]

theorem backendServices_put (x : Option (Resource .networkEndpointGroup)) :
    (w.put .networkEndpointGroup q x).resources .backendService = w.resources .backendService := by
  simp [put]

theorem enrolling_detachJoining {groups : List Place} (h : ∀ q ∈ groups, Refs w cfg.place q) :
    Sending (Enrolling cfg joining)
      (fun _ w' => w'.resources .backendService = w.resources .backendService ∧
        ∀ q, q ∈ groups ∨ Vacant joining w q → Vacant joining w' q)
      (detachJoining waits joining groups) w := by
  induction groups generalizing w with
  | nil => exact ⟨rfl, fun q hq => hq.resolve_left not_mem_nil⟩
  | cons p rest ih =>
    rw [forall_mem_cons] at h
    -- the rest of the groups, once the first one has lost the hosts
    have hnext : ∀ w₁ : Compute, w₁.resources .backendService = w.resources .backendService →
        Vacant joining w₁ p → (∀ q, Vacant joining w q → Vacant joining w₁ q) →
        Sending (Enrolling cfg joining)
          (fun _ w' => w'.resources .backendService = w.resources .backendService ∧
            ∀ q, q ∈ p :: rest ∨ Vacant joining w q → Vacant joining w' q)
          (detachJoining waits joining rest) w₁ := by
      intro w₁ hbs hvacant hothers
      refine (ih fun q hq => (Refs.congr hbs).2 (h.2 q hq)).weaken ?_
      rintro _ w₂ ⟨hbs', hrest⟩
      refine ⟨hbs'.trans hbs, fun q hq => hrest q ?_⟩
      rcases hq with hq | hq
      · rcases mem_cons.1 hq with rfl | hq
        · exact .inr hvacant
        · exact .inl hq
      · exact .inr (hothers q hq)
    refine Reading.bind (reading_call trivial fun _ h => h) fun b hserve => ?_
    cases b with
    | error e =>
      obtain ⟨-, items, hitems, hnone, -⟩ := hserve
      refine Meets.ite (fun hnf => ?_) fun _ => ?_
      · have hmissing : w.resources .networkEndpointGroup p = none :=
          hnone.1 (hitems (by simpa [isNotFound] using hnf))
        refine hnext w rfl ?_ fun _ => id
        intro x hx
        rw [hmissing] at hx
        cases hx
      · trivial
    | ok listed =>
      obtain ⟨x, hx, hmem⟩ := exists_listed hserve rfl
      have hjoins : ∀ e, e ∈ (listed.filterMap id).filter (fun e => base e.instanceRef ∈ joining) ↔
          e ∈ x.members ∧ base e.instanceRef ∈ joining := by
        intro e
        rw [mem_filter, hmem, decide_eq_true_eq]
      dsimp only
      split
      · next hdetach =>
        refine hnext w rfl ?_ fun _ => id
        intro y hy e he hjoining
        obtain rfl := Option.some.inj (hx.symm.trans hy)
        have hin := (hjoins e).2 ⟨he, hjoining⟩
        rw [hdetach] at hin
        exact absurd hin not_mem_nil
      · next hne =>
        refine Meets.bind (sending_call ⟨hne, x, hx, fun e he => ((hjoins e).1 he).1,
          .inr ⟨h.1, fun e he => ((hjoins e).1 he).2⟩⟩ ?_)
        intro b w' hchange
        cases b with
        | error e => trivial
        | ok op =>
          refine (reading_change hchange).bind fun _ heffect => ?_
          obtain ⟨y, hy, rfl⟩ := heffect
          obtain rfl := Option.some.inj (hx.symm.trans hy)
          refine hnext _ (backendServices_put _) ?_ fun q hq => hq.detach hx
          intro z hz e he hjoining
          rw [put_self] at hz
          obtain rfl := Option.some.inj hz
          obtain ⟨he, hkept⟩ := mem_filter.1 he
          exact of_decide_eq_true hkept ((hjoins e).2 ⟨he, hjoining⟩)

theorem enrolling_removeJoiningEndpoints (machines : List Machine) (leaderName : String) :
    Sending (Enrolling cfg joining)
      (fun _ w' => (∀ p, p.Plain → BackedBy w' cfg.place p → Vacant joining w' p) ∧
        (WellFormedVMs w → Tidy cfg.owner w → leaderName ∉ joining →
          ∀ m ∈ machines, m.name = leaderName →
            ∃ zone, machineZone m cfg = .ok zone ∧ Member cfg zone m.name w'))
      (removeJoiningEndpoints waits cfg cfg.name machines leaderName joining) w := by
  refine Meets.bind ((keeps (enrolling_ensureEndpoints _)).weaken ?_)
  rintro _ w' ⟨hmembers, hkeeps⟩
  have hleader : WellFormedVMs w → Tidy cfg.owner w → leaderName ∉ joining →
      ∀ m ∈ machines, m.name = leaderName →
        ∃ zone, machineZone m cfg = .ok zone ∧ Member cfg zone m.name w' := by
    rintro hvms htidy hjoining m hm rfl
    exact hmembers hvms htidy m (mem_filter.2 ⟨hm, by simp [hjoining]⟩) hjoining
  refine Meets.ite (fun hnil => ?_) fun _ => ?_
  · refine ⟨fun p _ _ x _ e _ => ?_, hleader⟩
    rw [hnil]
    exact not_mem_nil
  · refine (reading_getResource _ _).bind fun b hb => ?_
    cases b with
    | error e => trivial
    | ok bs =>
      refine (keeps (enrolling_detachJoining fun q hq => ⟨bs, hb, hq⟩)).weaken ?_
      rintro _ w'' ⟨⟨hbs, hvacant⟩, hkeeps'⟩
      constructor
      · rintro p hplain ⟨r, hr, b, hmem, hpath⟩
        rw [hbs] at hr
        obtain rfl := Option.some.inj (hr.symm.trans hb)
        exact hvacant p (.inl (mem_filterMap.2
          ⟨b, hmem, backendNEG_of_groupPath hpath hplain⟩))
      · rintro hvms htidy hjoining m hm rfl
        obtain ⟨zone, hzone, hmember⟩ := hleader hvms htidy hjoining m hm rfl
        exact ⟨zone, hzone, hkeeps'.member (hvms.congr hkeeps.vms) hjoining hmember⟩

/-! ### Runs -/

theorem reading_healthyMembers (p : Place) (backends : List Backend) :
    Reading (fun _ => True) (healthyMembers p backends) w := by
  induction backends with
  | nil => exact ⟨rfl, trivial⟩
  | cons backend rest ih =>
    refine Reading.bind (reading_call trivial fun _ _ => trivial) fun b _ => ?_
    cases b with
    | error e => trivial
    | ok statuses => exact Reading.bind ih fun _ _ => ⟨rfl, trivial⟩

/-- KubeOne manages the load balancer of the cluster: the backend service has its owner. -/
def Managed (s : Cluster) (cfg : LbConfig) (w : Compute) : Prop :=
  resolveLB s = .ok cfg ∧
    ∃ bs, w.resources .backendService cfg.place = some bs ∧ bs.description = cfg.owner

variable {s : Cluster}

theorem Managed.eq {cfg' : LbConfig} (h : Managed s cfg w) (h' : Managed s cfg' w) : cfg' = cfg :=
  Except.ok.inj (h'.1.symm.trans h.1)

theorem reading_managedBackendService (s : Cluster) :
    Reading (fun managed => (managed.2 = none → ∀ cfg, ¬ Managed s cfg w) ∧
        ∀ bs, managed.2 = some bs → Managed s managed.1 w)
      (managedBackendService s) w := by
  refine Meets.bind (meets_ofExcept fun cfg hcfg => ?_)
  have hnot : ¬ Managed s cfg w → ∀ cfg', ¬ Managed s cfg' w := by
    intro h cfg' h'
    obtain rfl := Except.ok.inj (hcfg.symm.trans h'.1)
    exact h h'
  refine (reading_getResource _ _).bind fun b hb => ?_
  cases b with
  | error e =>
    refine Meets.ite (fun hnf => ?_) fun _ => ?_
    · have hnone : w.resources .backendService cfg.place = none :=
        hb (by simpa [isNotFound] using hnf)
      refine ⟨rfl, fun _ => hnot ?_, by simp⟩
      rintro ⟨-, bs, hbs, -⟩
      rw [hnone] at hbs
      cases hbs
    · trivial
  | ok bs =>
    have hbs : w.resources .backendService cfg.place = some bs := hb
    refine Meets.ite (fun hd => ?_) fun hd => ?_
    · refine ⟨rfl, fun _ => hnot ?_, by simp⟩
      rintro ⟨-, bs', hbs', howner⟩
      obtain rfl := Option.some.inj (hbs.symm.trans hbs')
      exact hd howner
    · exact ⟨rfl, by simp, fun _ _ => ⟨hcfg, bs, hbs, not_not.1 hd⟩⟩

/-- A request for the members of a load balancer that was managed when the run started. -/
def EnrollingIn (s : Cluster) (joining : List String) (start : Compute) (r : Request)
    (w : Compute) : Prop :=
  ∃ cfg, Managed s cfg start ∧ Enrolling cfg joining r w

theorem enrolling_managed {next : LbConfig × Option (Resource .backendService) → Program Cluster}
    {Q : LbConfig → Compute → Prop} (hskip : ∀ cfg, next (cfg, none) = pure s)
    (h : ∀ cfg bs, Managed s cfg w →
      Sending (Enrolling cfg joining) (fun _ => Q cfg) (next (cfg, some bs)) w) :
    Sending (EnrollingIn s joining w) (fun _ w' => ∀ cfg, Managed s cfg w → Q cfg w')
      (managedBackendService s >>= next) w := by
  refine (reading_managedBackendService s).bind ?_
  rintro ⟨cfg, managed⟩ ⟨hnone, hsome⟩
  cases managed with
  | none =>
    rw [hskip]
    exact fun cfg' hmanaged => absurd hmanaged (hnone rfl cfg')
  | some bs =>
    have hmanaged : Managed s cfg w := hsome bs rfl
    refine ((h cfg bs hmanaged).allow ?_).weaken ?_
    · exact fun r w' hr => hr.imp_right fun hr => ⟨cfg, hmanaged, hr⟩
    · intro _ w' hQ cfg' hmanaged'
      rwa [hmanaged.eq hmanaged']

theorem enrolling_provider_ensureMembers :
    Sending (EnrollingIn s [] w)
      (fun _ w' => ∀ cfg, Managed s cfg w → ∃ machines, s.machines = .ok machines ∧
        (WellFormedVMs w → Tidy cfg.owner w → ∀ m ∈ machines,
          ∃ zone, machineZone m cfg = .ok zone ∧ Member cfg zone m.name w'))
      (Provider.ensureLoadBalancerMembers waits s) w := by
  refine Meets.bind (meets_ofExcept fun machines hmachines => ?_)
  refine enrolling_managed (fun _ => rfl) fun cfg bs _ => ?_
  refine Meets.bind ((enrolling_ensureEndpoints machines).weaken ?_)
  intro _ w' hmembers
  exact ⟨machines, hmachines, fun hvms htidy m hm => hmembers hvms htidy m hm not_mem_nil⟩

theorem enrolling_provider_ensureLeader (machine : Machine) :
    Sending (EnrollingIn s [] w) (fun _ _ => True)
      (Provider.ensureLeaderEndpoint waits s machine) w := by
  refine Meets.weaken (enrolling_managed (Q := fun _ _ => True) (fun _ => rfl)
    fun cfg bs _ => ?_) fun _ _ _ => trivial
  refine (reading_healthyMembers _ _).bind fun healthy _ => ?_
  refine Meets.ite (fun _ => ?_) fun _ => ?_
  · trivial
  · exact Meets.bind ((enrolling_ensureEndpoints [machine]).weaken fun _ _ _ => trivial)

theorem enrolling_provider_removeJoining (joining : List String) :
    Sending (EnrollingIn s joining w)
      (fun _ w' => ∀ cfg, Managed s cfg w →
        (∀ p, p.Plain → BackedBy w' cfg.place p → Vacant joining w' p) ∧
        ∃ machines leader, s.machines = .ok machines ∧ s.leader = .ok leader ∧
          (WellFormedVMs w → Tidy cfg.owner w → leader ∉ joining →
            ∀ m ∈ machines, m.name = leader →
              ∃ zone, machineZone m cfg = .ok zone ∧ Member cfg zone m.name w'))
      (Provider.removeJoiningLoadBalancerMembers waits s joining) w := by
  refine enrolling_managed (fun _ => rfl) fun cfg bs _ => ?_
  refine Meets.bind (meets_ofExcept fun machines hmachines => ?_)
  refine Meets.bind (meets_ofExcept fun leader hleader => ?_)
  refine Meets.bind ((enrolling_removeJoiningEndpoints machines leader).weaken ?_)
  rintro _ w' ⟨hvacant, hmembers⟩
  exact ⟨hvacant, machines, leader, hmachines, hleader, hmembers⟩

end Procedures

end KubeOne.CloudProvider.Gce
