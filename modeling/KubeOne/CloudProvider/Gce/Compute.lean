import KubeOne.Process.Client
import KubeOne.Text.Path
import Mathlib.Data.List.Forall2

/-! The part of the Compute Engine API that the load balancer code uses. Resources have a
description and are found by project, location and name. A change is answered with an operation,
which may still fail, and a request that is answered with an error may have taken effect. -/

namespace KubeOne.CloudProvider.Gce

open Process Text

inductive Kind
  | address
  | healthCheck
  | backendService
  | networkEndpointGroup
  | forwardingRule
  | firewall
  deriving DecidableEq

structure Address where
  addressType : String
  address : String := ""

structure HealthCheck where
  type : String
  port : ℕ

structure Backend where
  group : String
  balancingMode : String

structure BackendService where
  loadBalancingScheme : String
  protocol : String
  healthChecks : List String
  backends : List Backend := []
  fingerprint : String := ""

structure NetworkEndpoint where
  instanceRef : String
  ipAddress : String
  deriving DecidableEq

structure NetworkEndpointGroup where
  networkEndpointType : String
  network : String
  subnetwork : String
  endpoints : List NetworkEndpoint := []

structure ForwardingRule where
  loadBalancingScheme : String
  ipProtocol : String
  ports : List String
  ipAddress : String
  backendService : String

structure Firewall where
  network : String
  direction : String
  targetTags : List String
  sourceRanges : List String
  allowed : List (String × List String)

def Fields : Kind → Type
  | .address => Address
  | .healthCheck => HealthCheck
  | .backendService => BackendService
  | .networkEndpointGroup => NetworkEndpointGroup
  | .forwardingRule => ForwardingRule
  | .firewall => Firewall

structure Resource (k : Kind) where
  description : String
  fields : Fields k

/-- The location is a region or a zone; firewall rules have none. -/
structure Place where
  project : String
  location : String
  name : String
  deriving DecidableEq

structure NetworkInterface where
  network : String
  subnetwork : String
  networkIP : String

structure Compute where
  resources : (k : Kind) → Place → Option (Resource k)
  instances : Place → Option (List NetworkInterface)

namespace Compute

variable (w : Compute) {k k' : Kind} {p p' : Place}

def put (k : Kind) (p : Place) (r : Option (Resource k)) : Compute :=
  { w with resources := Function.update w.resources k (Function.update (w.resources k) p r) }

@[simp] theorem put_self (r : Option (Resource k)) : (w.put k p r).resources k p = r := by
  simp [put]

theorem put_of_ne (r : Option (Resource k)) (h : k' = k → p' ≠ p) :
    (w.put k p r).resources k' p' = w.resources k' p' := by
  by_cases hk : k' = k
  · subst hk
    simp [put, Function.update_of_ne (h rfl)]
  · simp [put, Function.update_of_ne hk]

end Compute

structure ApiError where
  code : ℕ
  message : String

/-- The code does not read `failed`, which says how the operation is going to end. -/
structure Operation where
  name : String
  selfLink : String := ""
  zone : String := ""
  region : String := ""
  status : String
  errors : List (String × String) := []
  operationType : String := ""
  targetLink : String := ""
  failed : Bool := false

def Operation.Consistent (op : Operation) : Prop :=
  op.status = "DONE" → (op.errors ≠ [] ↔ op.failed = true)

/-- A network endpoint group in the list of all zones; its zone is a URL, and one that is not
zonal has none. -/
structure ListedGroup where
  zone : String
  name : String
  description : String

structure HealthStatus where
  instanceRef : String
  healthState : String

inductive Request
  | get (k : Kind) (p : Place)
  | insert (k : Kind) (p : Place) (r : Resource k)
  | delete (k : Kind) (p : Place)
  | patchFirewall (p : Place) (sourceRanges targetTags : List String)
  | patchBackends (p : Place) (backends : List Backend) (fingerprint : String)
  | attachNetworkEndpoints (p : Place) (endpoints : List NetworkEndpoint)
  | detachNetworkEndpoints (p : Place) (endpoints : List NetworkEndpoint)
  | listNetworkEndpoints (p : Place)
  | aggregatedList (project : String)
  | getHealth (p : Place) (group : String)
  | getInstance (p : Place)
  | getSubnetwork (p : Place)
  | wait (project : String) (op : Operation)

def Answer : Request → Type
  | .get k _ => Except ApiError (Resource k)
  | .insert _ _ _ | .delete _ _ | .patchFirewall _ _ _ | .patchBackends _ _ _
  | .attachNetworkEndpoints _ _ | .detachNetworkEndpoints _ _ | .wait _ _ =>
    Except ApiError Operation
  | .listNetworkEndpoints _ => Except ApiError (List (Option NetworkEndpoint))
  | .aggregatedList _ => Except ApiError (List ListedGroup)
  | .getHealth _ _ => Except ApiError (List HealthStatus)
  | .getInstance _ => Except ApiError (List NetworkInterface)
  | .getSubnetwork _ => Except ApiError String

/-- The existing resource that a request changes or deletes. -/
def Request.target : Request → Option (Kind × Place)
  | .delete k p => some (k, p)
  | .patchFirewall p _ _ => some (.firewall, p)
  | .patchBackends p _ _ => some (.backendService, p)
  | .attachNetworkEndpoints p _ | .detachNetworkEndpoints p _ => some (.networkEndpointGroup, p)
  | _ => none

/-- Full and partial URLs of a resource have the same path. -/
def resourcePath (url : String) : String :=
  .ofList ((fromFirst "projects/".toList url.toList).getD url.toList)

def pathParts (url : String) : List String :=
  (split '/' (resourcePath url).toList).map String.ofList

/-- What the service adds to a new resource: the address of an address, the fingerprint of a
backend service. -/
def Assigned : (k : Kind) → Fields k → Fields k → Prop
  | .address, f, f' => Address.addressType f' = Address.addressType f
  | .backendService, f, f' =>
    f' = BackendService.mk (BackendService.loadBalancingScheme f) (BackendService.protocol f)
      (BackendService.healthChecks f) (BackendService.backends f) (BackendService.fingerprint f')
  | _, f, f' => f' = f

/-- A backend is stored with the full URL of its group, an endpoint with that of its instance. -/
def SameBackend (b b' : Backend) : Prop :=
  resourcePath b'.group = resourcePath b.group ∧ b'.balancingMode = b.balancingMode

def SameEndpoint (e e' : NetworkEndpoint) : Prop :=
  base e'.instanceRef = base e.instanceRef ∧ e'.ipAddress = e.ipAddress

/-- A successful request, as a relation of the states before and after it. -/
def Request.Effect (w w' : Compute) : Request → Prop
  | .insert k p r => w.resources k p = none ∧ ∃ f, Assigned k r.fields f ∧
      w' = w.put k p (some ⟨r.description, f⟩)
  | .delete k p => w.resources k p ≠ none ∧ w' = w.put k p none
  | .patchFirewall p sourceRanges targetTags => ∃ r, w.resources .firewall p = some r ∧
      w' = w.put .firewall p (some ⟨r.description, { (r.fields : Firewall) with
        sourceRanges := sourceRanges, targetTags := targetTags }⟩)
  | .patchBackends p backends fingerprint => ∃ r, w.resources .backendService p = some r ∧
      BackendService.fingerprint r.fields = fingerprint ∧
      ∃ stored fingerprint', List.Forall₂ SameBackend backends stored ∧
        w' = w.put .backendService p (some ⟨r.description, { (r.fields : BackendService) with
          backends := stored, fingerprint := fingerprint' }⟩)
  | .attachNetworkEndpoints p endpoints => ∃ r, w.resources .networkEndpointGroup p = some r ∧
      ∃ stored, List.Forall₂ SameEndpoint endpoints stored ∧
        w' = w.put .networkEndpointGroup p (some ⟨r.description,
          { (r.fields : NetworkEndpointGroup) with
            endpoints := NetworkEndpointGroup.endpoints r.fields ++ stored }⟩)
  | .detachNetworkEndpoints p endpoints => ∃ r, w.resources .networkEndpointGroup p = some r ∧
      w' = w.put .networkEndpointGroup p (some ⟨r.description,
        { (r.fields : NetworkEndpointGroup) with
          endpoints := (NetworkEndpointGroup.endpoints r.fields).filter (· ∉ endpoints) }⟩)
  | _ => False

/-- A change takes effect unless its operation fails, and may do so when an error is returned. The
code waits for the operation before it goes on, so the effect is that of the request. -/
def Changes (r : Request) (w : Compute) (b : Except ApiError Operation) (w' : Compute) : Prop :=
  match b with
  | .error _ => w' = w ∨ r.Effect w w'
  | .ok op => op.Consistent ∧ (op.failed = true ∧ w' = w ∨ op.failed = false ∧ r.Effect w w')

/-- Reading a resource that exists is never answered with "not found". -/
def Reads {α : Type} (stored : Option α) (b : Except ApiError α) : Prop :=
  match b with
  | .ok a => stored = some a
  | .error e => e.code = 404 → stored = none

def serve : Service Compute Request Answer
  | .get k p, w, b, w' => w' = w ∧ Reads (w.resources k p) b
  | .insert k p r, w, b, w' => Changes (.insert k p r) w b w'
  | .delete k p, w, b, w' => Changes (.delete k p) w b w' ∧
      ∀ e : ApiError, b = Except.error (α := Operation) e → e.code = 404 → w.resources k p = none
  | .patchFirewall p sourceRanges targetTags, w, b, w' =>
      Changes (.patchFirewall p sourceRanges targetTags) w b w'
  | .patchBackends p backends fingerprint, w, b, w' =>
      Changes (.patchBackends p backends fingerprint) w b w'
  | .attachNetworkEndpoints p endpoints, w, b, w' =>
      Changes (.attachNetworkEndpoints p endpoints) w b w'
  | .detachNetworkEndpoints p endpoints, w, b, w' =>
      Changes (.detachNetworkEndpoints p endpoints) w b w'
  | .listNetworkEndpoints p, w, b, w' => w' = w ∧
      ∃ items, Reads items b ∧
        (items = none ↔ w.resources .networkEndpointGroup p = none) ∧
        ∀ r, w.resources .networkEndpointGroup p = some r → ∀ listed, items = some listed →
          ∀ e, some e ∈ listed ↔ e ∈ NetworkEndpointGroup.endpoints r.fields
  | .aggregatedList project, w, b, w' => w' = w ∧
      ∀ groups : List ListedGroup, b = Except.ok (ε := ApiError) groups →
        (∀ g ∈ groups, g.zone ≠ "" →
          ∃ r, w.resources .networkEndpointGroup ⟨project, base g.zone, g.name⟩ = some r ∧
            r.description = g.description) ∧
        ∀ zone name, w.resources .networkEndpointGroup ⟨project, zone, name⟩ ≠ none →
          ∃ g ∈ groups, g.zone ≠ "" ∧ base g.zone = zone ∧ g.name = name
  | .getHealth _ _, w, _, w' => w' = w
  | .getInstance p, w, b, w' => w' = w ∧ Reads (w.instances p) b
  | .getSubnetwork _, w, _, w' => w' = w
  | .wait _ op, w, b, w' => w' = w ∧
      ∀ op' : Operation, b = Except.ok (ε := ApiError) op' → op'.Consistent ∧ op'.failed = op.failed

end KubeOne.CloudProvider.Gce
