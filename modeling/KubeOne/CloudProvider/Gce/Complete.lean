import KubeOne.CloudProvider.Gce.Ownership

/-! What a cleanup leaves. Resources with the owner of the cluster exist only at the places of its
load balancer, over every sequence of runs, and a cleanup that succeeds has looked at all of them.
-/

namespace KubeOne.CloudProvider.Gce

open Process Client Text

/-- The configuration is for the load balancer of the site, in any network. -/
structure LbConfig.At (cfg : LbConfig) (site : Site) : Prop where
  project : cfg.projectID = site.project
  region : cfg.region = site.region
  name : cfg.name = site.name

/-- What the request creates, if it does, is at a place of the site. -/
def Request.Within (site : Site) : Request → Prop
  | .insert k p _ => site.Has k p
  | _ => True

def Site.Of (site : Site) (s : Cluster) : Prop := ∀ cfg, resolveLB s = .ok cfg → cfg.At site

/-- A run for the load balancer of the site. When it is to ensure the firewall rules, the network
is in the project of the site, or cannot be resolved. -/
structure Site.Runs (site : Site) (S : Service Compute Request Answer) (clusterName : String)
    (j : Job) (w : Compute) : Prop where
  named : j.cluster.name = clusterName
  located : site.Of j.cluster
  network : j.task = .ensure → Resolves S j.cluster w fun b =>
    ∀ cfg, b = .ok cfg → cfg.firewallProject = site.networkProject

/-- What happens between runs: others take resources of the owner away, and an operation that a
stopped run has left behind creates something at a place of the site. -/
def Settles (site : Site) (owner : String) (w w' : Compute) : Prop :=
  Shrinks owner w w' ∨ ∃ k p x, site.Has k p ∧ Request.Effect w w' (.insert k p x)

section Runs

variable {site : Site} {cfg : LbConfig} {S : Service Compute Request Answer} {s : Cluster}
  {w w' : Compute} {r : Request} {waits : ℕ}

theorem Site.Of.at_of_resolved (hsite : site.Of s) (h : ResolvedFor s cfg) : cfg.At site := by
  obtain ⟨cfg₀, network, hcfg₀, rfl⟩ := h
  exact ⟨(hsite cfg₀ hcfg₀).project, (hsite cfg₀ hcfg₀).region, (hsite cfg₀ hcfg₀).name⟩

theorem LbConfig.At.site_eq (h : cfg.At site)
    (hproject : cfg.firewallProject = site.networkProject) : cfg.site = site := by
  rw [LbConfig.site, h.project, h.region, h.name, hproject]

theorem LbConfig.At.negPlace_eq (h : cfg.At site) (zone : String) :
    cfg.negPlace zone = ⟨site.project, zone, site.name ++ "-" ++ zone⟩ := by
  rw [LbConfig.negPlace, LbConfig.negName, h.project, h.name]

theorem Request.IsRead.within (h : r.IsRead) : r.Within site := by
  cases r <;> first | exact h.elim | trivial

theorem Creating.within (h : Creating cfg r w) : r.Within cfg.site := by
  cases r with
  | insert k p x => exact h.2.1
  | _ => trivial

theorem Deleting.within {owner : String} (h : Deleting owner r w) : r.Within site := by
  cases r with
  | insert k p x => exact h.elim
  | _ => trivial

theorem Enrolling.within {joining : List String} (h : Enrolling cfg joining r w)
    (hcfg : cfg.At site) : r.Within site := by
  cases r with
  | insert k p x =>
    cases k with
    | networkEndpointGroup =>
      obtain ⟨⟨zone, rfl⟩, -⟩ := h
      exact ⟨zone, hcfg.negPlace_eq zone⟩
    | _ => exact h.elim
  | _ => trivial

variable {A : Kind → Place → Prop}

variable (hS : ∀ r w b w', S r w b w' → serve r w b w')

include hS

theorem within_of_enrolling {α : Type} {Q : α → Compute → Prop} {c : Program α}
    {joining : List String} (hsite : site.Of s) (h : Sending (EnrollingIn s joining w) Q c w) :
    c.Meets S (fun r _ => r.Within site) (fun _ _ => True) w := by
  refine ((h.refine hS).allow ?_).weaken fun _ _ _ => trivial
  rintro r w' (hr | ⟨cfg, hmanaged, hr⟩)
  · exact hr.within
  · exact hr.within (hsite cfg hmanaged.1)

theorem Site.Runs.meets_code {clusterName : String} {j : Job} (h : site.Runs S clusterName j w) :
    j.code.Meets S (fun r _ => r.Within site) (fun _ _ => True) w := by
  obtain ⟨task, s, waits⟩ := j
  have hsite : site.Of s := h.located
  cases task with
  | ensure =>
    refine (creating_provider_ensureLoadBalancer hS (h.network rfl)).allow ?_
    rintro r w' (hr | ⟨cfg, hresolved, hproject, hr⟩)
    · exact hr.within
    · rw [← (hsite.at_of_resolved hresolved).site_eq (hproject cfg rfl)]
      exact hr.within
  | ensureMembers => exact within_of_enrolling hS hsite enrolling_provider_ensureMembers
  | ensureLeader machine =>
    exact within_of_enrolling hS hsite (enrolling_provider_ensureLeader machine)
  | removeJoining joining =>
    exact within_of_enrolling hS hsite (enrolling_provider_removeJoining joining)
  | cleanup =>
    have hall : Resolves S s w fun _ => True := fun cfg hcfg =>
      Meets.refine hS (resolves_of_forall (fun _ => trivial) cfg hcfg)
    refine ((deleting_provider_cleanup hS hall).allow ?_).weaken fun _ _ _ => trivial
    exact fun r w' hr => hr.elim Request.IsRead.within Deleting.within

end Runs

namespace Interrupted

def cluster : Cluster where
  name := "one"
  loadBalancer := { projectID := "p", region := "r", name := "api" }
  serviceAccountProjectID := .ok "p"
  nodeSets := []
  machines := .ok []
  leader := .ok "leader"

def site : Site := ⟨"p", "r", "api", "p"⟩

def cfg : LbConfig := ⟨"one", "p", "p", "r", "api", networkFullPath "p" "default", []⟩

def rule : Resource .firewall := firewallRule cfg ["0.0.0.0/0"]

def place : Place := cfg.firewallPlace "api-6443"

def empty : Compute := ⟨fun _ _ => none, fun _ => none⟩

def created : Compute := empty.put .firewall place (some rule)

def cleaned : Compute := created.put .firewall place none

theorem run_missing {α : Type} {k : Kind} {next : Except ApiError (Resource k) → Program α}
    {p : Place} {w w' : Compute} {calls : List (Request × Compute)}
    {out : Option (Except Failure α)} (h : w.resources k p = none)
    (rest : Client.Run serve (next (.error ⟨404, "not found"⟩)) w calls w' out) :
    Client.Run serve (.send (.get k p) next) w ((.get k p, w) :: calls) w' out :=
  .send (S := serve) (r := Request.get k p) (b := Except.error ⟨404, "not found"⟩)
    ⟨rfl, fun _ => h⟩ rest

def operation : Operation := { name := "operation", status := "DONE" }

theorem operation_consistent : operation.Consistent := by
  simp [Operation.Consistent, operation]

theorem ensure_run : ∃ calls,
    Client.Run serve (Provider.ensureLoadBalancer 0 cluster) empty calls created none := by
  apply Exists.intro
  apply run_missing (p := place) rfl
  apply Client.Run.send (S := serve) (r := Request.insert .firewall place rule)
    (b := Except.ok operation) (t := created)
  · exact ⟨operation_consistent, .inr ⟨rfl, rfl, rule.fields, rfl, rfl⟩⟩
  · exact .stop _ _

end Interrupted

end KubeOne.CloudProvider.Gce
