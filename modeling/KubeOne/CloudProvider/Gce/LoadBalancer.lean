import KubeOne.CloudProvider.Gce.Compute

/-! The load balancer of a cluster on GCE, as a client of the Compute Engine API. Members are
added to the network endpoint group of their zone, which becomes a backend; joining hosts are
removed from all groups that are backends. Resources carry the owner of the cluster as their
description. -/

namespace KubeOne.CloudProvider.Gce

open Process Text

/-! ### Configuration -/

inductive Cause
  | api (e : ApiError)
  | text (format : String) (args : List String)

inductive Failure
  | cloud (cause : Cause) (op : String) (args : List String)
  | config (err op : String)
  | configValidation (format : String) (args : List String)

abbrev Program := Client Request Answer Failure

structure LbConfig where
  clusterName : String
  projectID : String
  serviceAccountProjectID : String
  region : String
  name : String
  network : String
  allowedSourceRanges : List String

def apiServerPort : ℕ := 6443

def ownerDescription (clusterName : String) : String := "kubeone:" ++ clusterName

namespace LbConfig

variable (c : LbConfig)

def owner : String := ownerDescription c.clusterName

def regionalPath (collection name : String) : String :=
  "projects/" ++ c.projectID ++ "/regions/" ++ c.region ++ "/" ++ collection ++ "/" ++ name

def firewallProject : String :=
  match pathParts c.network with
  | first :: project :: _ => if first = "projects" then project else c.projectID
  | _ => c.projectID

def negName (zone : String) : String := c.name ++ "-" ++ zone

def place : Place := ⟨c.projectID, c.region, c.name⟩

def negPlace (zone : String) : Place := ⟨c.projectID, zone, c.negName zone⟩

def firewallPlace (name : String) : Place := ⟨c.firewallProject, "", name⟩

end LbConfig

/-- What the provider spec of a machine says, or why it cannot be read. -/
structure MachineConfig where
  zone : String
  projectID : String

structure Machine where
  name : String
  config : Except Failure MachineConfig

structure NodeSetConfig where
  network : String
  subnetwork : String

structure NodeSet where
  name : String
  config : Except Failure NodeSetConfig

structure GCELoadBalancer where
  projectID : String := ""
  region : String := ""
  name : String := ""
  network : String := ""
  allowedSourceRanges : List String := []

/-- What a run reads of the cluster: the service account gives a project, and the machines are
generated from the node sets. -/
structure Cluster where
  name : String
  loadBalancer : GCELoadBalancer
  serviceAccountProjectID : Except Failure String
  nodeSets : List NodeSet
  machines : Except Failure (List Machine)
  leader : Except Failure String
  apiHost : String := ""
  apiPort : ℕ := 0

def resolveLB (s : Cluster) : Except Failure LbConfig := do
  let serviceAccountProjectID ← s.serviceAccountProjectID
  let lb := s.loadBalancer
  let cfg : LbConfig :=
    { clusterName := s.name
      projectID := if lb.projectID = "" then serviceAccountProjectID else lb.projectID
      serviceAccountProjectID := serviceAccountProjectID
      region := lb.region
      name := lb.name
      network := lb.network
      allowedSourceRanges := lb.allowedSourceRanges }
  if cfg.projectID = "" then
    .error (.configValidation
      ("no GCE project: set .cloudProvider.gce.controlPlane.loadBalancer.projectID or use a " ++
        "service account with project_id") [])
  else if cfg.region = "" then
    .error (.configValidation
      ("no GCE region: set .cloudProvider.gce.controlPlane.loadBalancer.region or a zone in the " ++
        "control plane nodeSets") [])
  else if cfg.name = "" then
    .error (.configValidation ".cloudProvider.gce.controlPlane.loadBalancer.name is empty" [])
  else .ok cfg

def machineLocation (machine : Machine) (cfg : LbConfig) : Except Failure (String × String) := do
  let config ← machine.config
  if config.zone = "" then
    .error (.configValidation "control plane machine %q has no zone" [machine.name])
  else
    .ok (config.zone,
      if config.projectID = "" then cfg.serviceAccountProjectID else config.projectID)

/-- The zone of a machine, whose project must be that of the load balancer. -/
def machineZone (machine : Machine) (cfg : LbConfig) : Except Failure String := do
  let location ← machineLocation machine cfg
  if location.2 ≠ cfg.projectID then
    .error (.configValidation
      ("control plane machine %q is created in project %q (cloudProviderSpec.projectID or the " ++
        "project of the service account), but the load balancer is in project %q; set " ++
        "cloudProviderSpec.projectID of the control plane nodeSets to %q")
      [machine.name, location.2, cfg.projectID, cfg.projectID])
  else .ok location.1

/-! ### Requests -/

def ofExcept {α : Type} : Except Failure α → Program α
  | .ok a => .done a
  | .error e => .fail e

def getResource (k : Kind) (p : Place) : Program (Except ApiError (Resource k)) :=
  .call (Request.get k p)

def insertResource (k : Kind) (p : Place) (r : Resource k) : Program (Except ApiError Operation) :=
  .call (Request.insert k p r)

def deleteRequest (k : Kind) (p : Place) : Program (Except ApiError Operation) :=
  .call (Request.delete k p)

def listNetworkEndpoints (p : Place) : Program (Except ApiError (List (Option NetworkEndpoint))) :=
  .call (Request.listNetworkEndpoints p)

def patchFirewall (p : Place) (sourceRanges targetTags : List String) :
    Program (Except ApiError Operation) :=
  .call (Request.patchFirewall p sourceRanges targetTags)

def patchBackends (p : Place) (backends : List Backend) (fingerprint : String) :
    Program (Except ApiError Operation) :=
  .call (Request.patchBackends p backends fingerprint)

def attachNetworkEndpoints (p : Place) (endpoints : List NetworkEndpoint) :
    Program (Except ApiError Operation) :=
  .call (Request.attachNetworkEndpoints p endpoints)

def detachNetworkEndpoints (p : Place) (endpoints : List NetworkEndpoint) :
    Program (Except ApiError Operation) :=
  .call (Request.detachNetworkEndpoints p endpoints)

def aggregatedList (project : String) : Program (Except ApiError (List ListedGroup)) :=
  .call (Request.aggregatedList project)

def getHealth (p : Place) (group : String) : Program (Except ApiError (List HealthStatus)) :=
  .call (Request.getHealth p group)

def getInstance (p : Place) : Program (Except ApiError (List NetworkInterface)) :=
  .call (Request.getInstance p)

def getSubnetwork (p : Place) : Program (Except ApiError String) := .call (Request.getSubnetwork p)

def waitOperation (project : String) (op : Operation) : Program (Except ApiError Operation) :=
  .call (Request.wait project op)

def isNotFound : Cause → Bool
  | .api e => e.code = 404
  | .text _ _ => false

def getDescription (k : Kind) (p : Place) : Program (Except Cause String) := do
  match ← getResource k p with
  | .error e => pure (.error (.api e))
  | .ok r => pure (.ok r.description)

section Operations

variable (waits : ℕ)

def waitLoop (project name : String) : ℕ → Operation → Program Operation
  | 0, op =>
    if op.status = "DONE" then pure op
    else .fail (.cloud (.text "context canceled" []) "waiting for operation %q" [name])
  | waits + 1, op =>
    if op.status = "DONE" then pure op
    else do
      match ← waitOperation project op with
      | .error e => .fail (.cloud (.api e) "waiting for operation %q" [name])
      | .ok op' => waitLoop project name waits op'

def operationProject (projectID : String) (op : Operation) : String :=
  match pathParts op.selfLink with
  | first :: project :: _ => if first = "projects" then project else projectID
  | _ => projectID

def waitForOperation (projectID : String) (op : Operation) : Program Unit := do
  let name := op.name
  let op ← waitLoop (operationProject projectID op) name waits op
  if op.errors = [] then pure ()
  else
    .fail (.cloud (.text "%s" (op.errors.map fun e => e.1 ++ ": " ++ e.2))
      "operation %q (%s %s) failed" [name, op.operationType, op.targetLink])

/-! ### Resources with an owner -/

def checkOwner (cfg : LbConfig) (kind name description : String) : Except Failure Unit :=
  if description = cfg.owner then .ok ()
  else .error (.cloud (.text
    ("%s %q already exists and was not created by KubeOne for this cluster (description %q, " ++
      "expected %q), choose another .cloudProvider.gce.controlPlane.loadBalancer.name")
    [kind, name, description, cfg.owner]) "ensuring %s %q" [kind, name])

def ensureResource (cfg : LbConfig) (kind name : String) (get : Program (Except Cause String))
    (create : Program (Except ApiError Operation)) : Program Unit := do
  match ← get with
  | .error err =>
    if isNotFound err then
      match ← create with
      | .error e => .fail (.cloud (.api e) "creating %s %q" [kind, name])
      | .ok op => waitForOperation waits cfg.projectID op
    else .fail (.cloud err "getting %s %q" [kind, name])
  | .ok description => ofExcept (checkOwner cfg kind name description)

def deleteResource (cfg : LbConfig) (kind name : String) (get : Program (Except Cause String))
    (del : Program (Except ApiError Operation)) : Program Unit := do
  match ← get with
  | .error err =>
    if isNotFound err then pure () else .fail (.cloud err "getting %s %q" [kind, name])
  | .ok description =>
    if description ≠ cfg.owner then pure ()
    else
      match ← del with
      | .error e =>
        if isNotFound (.api e) then pure ()
        else .fail (.cloud (.api e) "deleting %s %q" [kind, name])
      | .ok op => waitForOperation waits cfg.projectID op

/-! ### Networks and firewall rules -/

@[irreducible] def networkFullPath (project network : String) : String :=
  let network := resourcePath network
  if "projects/".toList <+: network.toList then network
  else if '/' ∈ network.toList then "projects/" ++ project ++ "/" ++ network
  else "projects/" ++ project ++ "/global/networks/" ++ network

def subnetworkScope : List String → String × String → String × String
  | first :: second :: rest, scope =>
    subnetworkScope (second :: rest)
      (if first = "projects" then (second, scope.2)
      else if first = "regions" then (scope.1, second) else scope)
  | _, scope => scope

def nodeSetNetwork (cfg : LbConfig) (ns : NodeSet) : Program (Except Failure String) :=
  match ns.config with
  | .error err => pure (.error err)
  | .ok spec =>
    if spec.network ≠ "" then pure (.ok (networkFullPath cfg.projectID spec.network))
    else if spec.subnetwork = "" then pure (.ok (networkFullPath cfg.projectID "default"))
    else do
      let scope := subnetworkScope (pathParts spec.subnetwork) (cfg.projectID, cfg.region)
      let subnetwork : Place := ⟨scope.1, scope.2, base spec.subnetwork⟩
      match ← getSubnetwork subnetwork with
      | .error e =>
        pure (.error (.cloud (.api e) "getting subnetwork %q" [spec.subnetwork]))
      | .ok network => pure (.ok (networkFullPath cfg.projectID network))

def nodeSetNetworks (cfg : LbConfig) : List NodeSet → Program (Except Failure (List String))
  | [] => pure (.ok [])
  | ns :: rest => do
    match ← nodeSetNetwork cfg ns with
    | .error err => pure (.error err)
    | .ok network =>
      match ← nodeSetNetworks cfg rest with
      | .error err => pure (.error err)
      | .ok networks => pure (.ok (network :: networks))

/-- The configuration with the network of the control plane, which must be the same for all node
sets and the configured one, if there is one. -/
def resolveNetwork (cfg : LbConfig) (nodeSets : List NodeSet) :
    Program (Except Failure LbConfig) := do
  match ← nodeSetNetworks cfg nodeSets with
  | .error err => pure (.error err)
  | .ok networks =>
    if networks.dedup.length > 1 then
      pure (.error (.configValidation
        "all control plane nodeSets must be in the same network, got %v" networks.dedup))
    else
      let resolved := networks.head?.getD (networkFullPath cfg.projectID "default")
      if cfg.network ≠ "" ∧ networkFullPath cfg.projectID cfg.network ≠ resolved then
        pure (.error (.configValidation
          (".cloudProvider.gce.controlPlane.loadBalancer.network %q must be the network %q of " ++
            "the control plane nodeSets")
          [networkFullPath cfg.projectID cfg.network, resolved]))
      else pure (.ok { cfg with network := resolved })

def apiFirewallSuffix : String := "-6443"
def healthCheckFirewallSuffix : String := "-6443-hc"

def healthCheckSourceRanges : List String := ["35.191.0.0/16", "209.85.152.0/22", "209.85.204.0/22"]

def controlPlaneTag (clusterName : String) : String := clusterName ++ "-control-plane"

def sameSet (a b : List String) : Bool := a.all (· ∈ b) && b.all (· ∈ a)

/-- The network of an existing rule cannot be changed. -/
def ensureFirewall (cfg : LbConfig) (name : String) (want : Resource .firewall) : Program Unit := do
  match ← getResource .firewall (cfg.firewallPlace name) with
  | .error e =>
    if isNotFound (.api e) then
      match ← insertResource .firewall (cfg.firewallPlace name) want with
      | .error e => .fail (.cloud (.api e) "creating firewall rule %q" [name])
      | .ok op => waitForOperation waits cfg.firewallProject op
    else .fail (.cloud (.api e) "getting firewall rule %q" [name])
  | .ok existing =>
    ofExcept (checkOwner cfg "firewall rule" name existing.description)
    let have' := networkFullPath cfg.projectID (Firewall.network existing.fields)
    let wantNetwork := networkFullPath cfg.projectID (Firewall.network want.fields)
    if have' ≠ wantNetwork then
      .fail (.cloud (.text
        ("firewall rule %q is in network %q, but the control plane is in network %q; delete the " ++
          "firewall rule to have it recreated")
        [name, have', wantNetwork]) "ensuring firewall rule %q" [name])
    else if sameSet (Firewall.sourceRanges existing.fields) (Firewall.sourceRanges want.fields) &&
        sameSet (Firewall.targetTags existing.fields) (Firewall.targetTags want.fields) then
      pure ()
    else
      match ← patchFirewall (cfg.firewallPlace name) (Firewall.sourceRanges want.fields)
          (Firewall.targetTags want.fields) with
      | .error e => .fail (.cloud (.api e) "updating firewall rule %q" [name])
      | .ok op => waitForOperation waits cfg.firewallProject op

def firewallRule (cfg : LbConfig) (sourceRanges : List String) : Resource .firewall where
  description := cfg.owner
  fields := ({
    network := cfg.network
    direction := "INGRESS"
    targetTags := [controlPlaneTag cfg.clusterName]
    sourceRanges := sourceRanges
    allowed := [("tcp", [toString apiServerPort])] } : Firewall)

def ensureFirewalls (cfg : LbConfig) : Program Unit := do
  let sourceRanges := if cfg.allowedSourceRanges = [] then ["0.0.0.0/0"]
    else cfg.allowedSourceRanges
  ensureFirewall waits cfg (cfg.name ++ apiFirewallSuffix) (firewallRule cfg sourceRanges)
  ensureFirewall waits cfg (cfg.name ++ healthCheckFirewallSuffix)
    (firewallRule cfg healthCheckSourceRanges)

/-! ### The load balancer -/

def schemeExternal : String := "EXTERNAL"
def protocolTCP : String := "TCP"
def negTypeGCEVMIP : String := "GCE_VM_IP"
def balancingModeConnection : String := "CONNECTION"

def ensureRegional (cfg : LbConfig) (kind : String) (k : Kind) (fields : Fields k) : Program Unit :=
  ensureResource waits cfg kind cfg.name (getDescription k cfg.place)
    (insertResource k cfg.place ⟨cfg.owner, fields⟩)

def ensureLoadBalancer (cfg : LbConfig) : Program String := do
  ensureRegional waits cfg "address" .address (Address.mk schemeExternal "")
  ensureRegional waits cfg "health check" .healthCheck (HealthCheck.mk protocolTCP apiServerPort)
  ensureRegional waits cfg "backend service" .backendService
    (BackendService.mk schemeExternal protocolTCP [cfg.regionalPath "healthChecks" cfg.name] [] "")
  match ← getResource .address cfg.place with
  | .error e => .fail (.cloud (.api e) "getting address %q" [cfg.name])
  | .ok addr =>
    ensureRegional waits cfg "forwarding rule" .forwardingRule
      (ForwardingRule.mk schemeExternal protocolTCP [toString apiServerPort]
        (Address.address addr.fields) (cfg.regionalPath "backendServices" cfg.name))
    pure (Address.address addr.fields)

/-! ### Members -/

def negPath (cfg : LbConfig) (zone : String) : String :=
  "projects/" ++ cfg.projectID ++ "/zones/" ++ zone ++ "/networkEndpointGroups/" ++ cfg.negName zone

/-- The backend service is read again, since its fingerprint must match. -/
def ensureBackend (cfg : LbConfig) (bsName zone : String) : Program Unit := do
  let p : Place := ⟨cfg.projectID, cfg.region, bsName⟩
  match ← getResource .backendService p with
  | .error e => .fail (.cloud (.api e) "getting backend service %q" [bsName])
  | .ok current =>
    if (BackendService.backends current.fields).any
        fun b => resourcePath b.group = negPath cfg zone then pure ()
    else
      match ← patchBackends p
          (BackendService.backends current.fields ++ [⟨negPath cfg zone, balancingModeConnection⟩])
          (BackendService.fingerprint current.fields) with
      | .error e =>
        .fail (.cloud (.api e) "adding network endpoint group %q to backend service %q"
          [cfg.negName zone, bsName])
      | .ok op => waitForOperation waits cfg.projectID op

def getGroup (cfg : LbConfig) (zone instanceName subnetwork : String) :
    Program (Except Cause String) := do
  match ← getResource .networkEndpointGroup (cfg.negPlace zone) with
  | .error e => pure (.error (.api e))
  | .ok neg =>
    let have' := resourcePath (NetworkEndpointGroup.subnetwork neg.fields)
    if have' ≠ resourcePath subnetwork then
      pure (.error (.text
        ("network endpoint group %q is in subnetwork %q, instance %q in %q; all control plane " ++
          "VMs of a zone must be in the same subnetwork")
        [cfg.negName zone, have', instanceName, resourcePath subnetwork]))
    else pure (.ok neg.description)

/-- The endpoints of the instance with its address, and those with another one. -/
def isAttached (instanceName networkIP : String) (e : NetworkEndpoint) : Bool :=
  base e.instanceRef = instanceName && (e.ipAddress = "" || e.ipAddress = networkIP)

def isStale (instanceName networkIP : String) (e : NetworkEndpoint) : Bool :=
  base e.instanceRef = instanceName && !(e.ipAddress = "" || e.ipAddress = networkIP)

/-- Endpoints of a former VM with the same name are replaced. -/
def attachEndpoint (cfg : LbConfig) (zone instanceName networkIP : String) : Program Unit := do
  match ← listNetworkEndpoints (cfg.negPlace zone) with
  | .error e =>
    .fail (.cloud (.api e) "listing endpoints of network endpoint group %q" [cfg.negName zone])
  | .ok items =>
    let endpoints := items.filterMap id
    if endpoints.any (isAttached instanceName networkIP) then pure ()
    else
      let stale := endpoints.filter (isStale instanceName networkIP)
      if stale ≠ [] then
        match ← detachNetworkEndpoints (cfg.negPlace zone) stale with
        | .error e =>
          .fail (.cloud (.api e) "removing stale endpoints of %q from network endpoint group %q"
            [instanceName, cfg.negName zone])
        | .ok op =>
          waitForOperation waits cfg.projectID op
          attach
      else attach
where
  attach : Program Unit := do
    match ← attachNetworkEndpoints (cfg.negPlace zone) [⟨instanceName, networkIP⟩] with
    | .error e =>
      .fail (.cloud (.api e) "attaching instance %q to network endpoint group %q"
        [instanceName, cfg.negName zone])
    | .ok op => waitForOperation waits cfg.projectID op

def ensureEndpoint (cfg : LbConfig) (bsName zone instanceName : String) : Program Unit := do
  match ← getInstance ⟨cfg.projectID, zone, instanceName⟩ with
  | .error e => .fail (.cloud (.api e) "getting instance %q" [instanceName])
  | .ok [] =>
    .fail (.cloud (.text "instance has no network interface" []) "getting network of instance %q"
      [instanceName])
  | .ok (nic :: _) =>
    ensureResource waits cfg "network endpoint group" (cfg.negName zone)
      (getGroup cfg zone instanceName nic.subnetwork)
      (insertResource .networkEndpointGroup (cfg.negPlace zone)
        ⟨cfg.owner, NetworkEndpointGroup.mk negTypeGCEVMIP nic.network nic.subnetwork []⟩)
    ensureBackend waits cfg bsName zone
    attachEndpoint waits cfg zone instanceName nic.networkIP

def ensureEndpoints (cfg : LbConfig) (bsName : String) : List Machine → Program Unit
  | [] => pure ()
  | machine :: rest => do
    let zone ← ofExcept (machineZone machine cfg)
    ensureEndpoint waits cfg bsName zone machine.name
    ensureEndpoints cfg bsName rest

def backendNEG (backend : Backend) : Option Place :=
  match pathParts backend.group with
  | [projects, project, zones, zone, groups, name] =>
    if projects = "projects" ∧ zones = "zones" ∧ groups = "networkEndpointGroups" then
      some ⟨project, zone, name⟩
    else none
  | _ => none

def backendNEGs (bs : BackendService) : List Place := bs.backends.filterMap backendNEG

def healthyMembers (p : Place) : List Backend → Program (List String)
  | [] => pure []
  | backend :: rest => do
    match ← getHealth p backend.group with
    | .error e => .fail (.cloud (.api e) "getting health of backend service %q" [p.name])
    | .ok statuses =>
      let healthy := (statuses.filter (·.healthState = "HEALTHY")).map (base ·.instanceRef)
      let others ← healthyMembers p rest
      pure (healthy ++ others)

/-- The backend service of the load balancer, unless KubeOne does not manage it. -/
def managedBackendService (s : Cluster) : Program (LbConfig × Option (Resource .backendService)) :=
  do
  let cfg ← ofExcept (resolveLB s)
  match ← getResource .backendService cfg.place with
  | .error e =>
    if isNotFound (.api e) then pure (cfg, none)
    else .fail (.cloud (.api e) "getting backend service %q" [cfg.name])
  | .ok bs => if bs.description ≠ cfg.owner then pure (cfg, none) else pure (cfg, some bs)

def detachJoining (joining : List String) : List Place → Program Unit
  | [] => pure ()
  | neg :: rest => do
    match ← listNetworkEndpoints neg with
    | .error e =>
      if isNotFound (.api e) then detachJoining joining rest
      else
        .fail (.cloud (.api e) "listing endpoints of network endpoint group %q" [neg.name])
    | .ok items =>
      let detach := (items.filterMap id).filter fun e => base e.instanceRef ∈ joining
      if detach = [] then detachJoining joining rest
      else
        match ← detachNetworkEndpoints neg detach with
        | .error e =>
          .fail (.cloud (.api e) "removing endpoints from network endpoint group %q" [neg.name])
        | .ok op =>
          waitForOperation waits neg.project op
          detachJoining joining rest

/-- The leader is added unless it is joining itself, then the joining hosts are removed. -/
def removeJoiningEndpoints (cfg : LbConfig) (bsName : String) (machines : List Machine)
    (leaderName : String) (joining : List String) : Program Unit := do
  ensureEndpoints waits cfg bsName
    (machines.filter fun machine => machine.name = leaderName ∧ leaderName ∉ joining)
  if joining = [] then pure ()
  else
    match ← getResource .backendService ⟨cfg.projectID, cfg.region, bsName⟩ with
    | .error e => .fail (.cloud (.api e) "getting backend service %q" [cfg.name])
    | .ok bs => detachJoining waits joining (backendNEGs bs.fields)

/-! ### Cleaning up -/

def deleteRegional (cfg : LbConfig) (kind : String) (k : Kind) : Program Unit :=
  deleteResource waits cfg kind cfg.name (getDescription k cfg.place) (deleteRequest k cfg.place)

def deleteGroups (cfg : LbConfig) : List ListedGroup → Program Unit
  | [] => pure ()
  | neg :: rest => do
    deleteResource waits cfg "network endpoint group" neg.name (pure (.ok neg.description))
      (deleteRequest .networkEndpointGroup ⟨cfg.projectID, base neg.zone, neg.name⟩)
    deleteGroups cfg rest

def deleteLoadBalancer (cfg : LbConfig) : Program Unit := do
  deleteRegional waits cfg "forwarding rule" .forwardingRule
  deleteRegional waits cfg "backend service" .backendService
  match ← aggregatedList cfg.projectID with
  | .error e => .fail (.cloud (.api e) "listing network endpoint groups" [])
  | .ok groups =>
    deleteGroups waits cfg
      (groups.filter fun neg => neg.zone ≠ "" ∧ neg.name = cfg.negName (base neg.zone))
    deleteRegional waits cfg "health check" .healthCheck
    deleteRegional waits cfg "address" .address

def deleteFirewall (cfg : LbConfig) (name : String) : Program Unit :=
  deleteResource waits cfg "firewall rule" name (getDescription .firewall (cfg.firewallPlace name))
    (deleteRequest .firewall (cfg.firewallPlace name))

def deleteFirewalls (cfg : LbConfig) : Program Unit := do
  deleteFirewall waits cfg (cfg.name ++ apiFirewallSuffix)
  deleteFirewall waits cfg (cfg.name ++ healthCheckFirewallSuffix)

/-- Another address than that of the load balancer is an endpoint of the user. -/
def keepsLB (cfg : LbConfig) (apiHost : String) : Program Bool :=
  if apiHost = "" then pure false
  else do
    match ← getResource .address cfg.place with
    | .error e =>
      if isNotFound (.api e) then pure false
      else .fail (.cloud (.api e) "getting address %q" [cfg.name])
    | .ok addr => pure (Address.address addr.fields ≠ apiHost)

def cleanupLoadBalancer (cfg : LbConfig) (apiHost : String) : Program Unit := do
  if ← keepsLB cfg apiHost then deleteFirewalls waits cfg
  else
    deleteLoadBalancer waits cfg
    deleteFirewalls waits cfg

/-! ### The provider -/

def checkZones (cfg : LbConfig) : List Machine → Except Failure Unit
  | [] => .ok ()
  | machine :: rest => do
    let _ ← machineZone machine cfg
    checkZones cfg rest

/-- The firewall rules are needed even for an endpoint of the user. -/
def Provider.ensureLoadBalancer (s : Cluster) : Program Cluster := do
  let cfg ← ofExcept (resolveLB s)
  let machines ← ofExcept s.machines
  ofExcept (checkZones cfg machines)
  let cfg ← ofExcept (← resolveNetwork cfg s.nodeSets)
  ensureFirewalls waits cfg
  if s.apiHost ≠ "" then pure s
  else
    let ip ← Gce.ensureLoadBalancer waits cfg
    pure { s with apiHost := ip, apiPort := apiServerPort }

/-- A network that cannot be resolved does not block the cleanup. -/
def Provider.cleanupLoadBalancer (s : Cluster) : Program Cluster := do
  let cfg ← ofExcept (resolveLB s)
  let resolved ← resolveNetwork cfg s.nodeSets
  Gce.cleanupLoadBalancer waits (resolved.toOption.getD cfg) s.apiHost
  pure s

def Provider.ensureLoadBalancerMembers (s : Cluster) : Program Cluster := do
  let machines ← ofExcept s.machines
  let managed ← managedBackendService s
  match managed.2 with
  | none => pure s
  | some _ =>
    ensureEndpoints waits managed.1 managed.1.name machines
    pure s

/-- The leader is added while no other member is healthy. -/
def Provider.ensureLeaderEndpoint (s : Cluster) (machine : Machine) : Program Cluster := do
  let managed ← managedBackendService s
  match managed.2 with
  | none => pure s
  | some bs =>
    let healthy ← healthyMembers managed.1.place (BackendService.backends bs.fields)
    if healthy.any (· ≠ machine.name) then pure s
    else
      ensureEndpoints waits managed.1 managed.1.name [machine]
      pure s

def Provider.removeJoiningLoadBalancerMembers (s : Cluster) (joining : List String) :
    Program Cluster := do
  let managed ← managedBackendService s
  match managed.2 with
  | none => pure s
  | some _ =>
    let machines ← ofExcept s.machines
    let leader ← ofExcept s.leader
    removeJoiningEndpoints waits managed.1 managed.1.name machines leader joining
    pure s

end Operations

end KubeOne.CloudProvider.Gce
