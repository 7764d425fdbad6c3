import KubeOne.Process.Client
import Mathlib.Data.Nat.Notation

/-! The load balancer of a cluster on DigitalOcean, which is referred to by ID when the user
provides it, or by name when KubeOne creates it. It counts as owned when it selects its backends
by the tag of the cluster. -/

namespace KubeOne.CloudProvider.DigitalOcean

open Process

def validTagChar (c : Char) : Bool :=
  ('a' ≤ c && c ≤ 'z') || ('A' ≤ c && c ≤ 'Z') || ('0' ≤ c && c ≤ '9') ||
    c = ':' || c = '_' || c = '-'

def maxTagLength : ℕ := 255

def sanitizeTag (tag : String) : String :=
  .ofList ((tag.toList.map fun c => if validTagChar c then c else '_').take maxTagLength)

def clusterTag (clusterName : String) : String := sanitizeTag ("kubeone-cluster:" ++ clusterName)

theorem clusterTag_ne_empty (clusterName : String) : clusterTag clusterName ≠ "" := by
  intro h
  have hlist := congrArg String.toList h
  simp [clusterTag, sanitizeTag, maxTagLength, String.toList_append] at hlist

def kubeAPIPort : ℕ := 6443
def lbStatusUp : String := "active"
def lbStatusErr : String := "errored"
def loadBalancerTypeGlobal : String := "GLOBAL"

structure ForwardingRule where
  entryProtocol : String
  entryPort : ℕ
  targetProtocol : String
  targetPort : ℕ

structure HealthCheck where
  protocol : String
  port : ℕ
  path : String := ""
  checkIntervalSeconds : ℕ := 0
  responseTimeoutSeconds : ℕ := 0
  healthyThreshold : ℕ := 0
  unhealthyThreshold : ℕ := 0

/-- The settings that are only copied are `otherSettings`. -/
structure LoadBalancer where
  id : String
  name : String
  type : String := ""
  region : Option String := none
  tag : String := ""
  vpcUUID : String := ""
  sizeSlug : String := ""
  sizeUnit : ℕ := 0
  forwardingRules : List ForwardingRule := []
  healthCheck : Option HealthCheck := none
  dropletIDs : List ℕ := []
  otherSettings : List (String × String) := []
  status : String := ""
  ip : String := ""

structure LoadBalancerRequest where
  name : String
  type : String := ""
  region : String := ""
  tag : String := ""
  vpcUUID : String := ""
  sizeSlug : String := ""
  sizeUnit : ℕ := 0
  forwardingRules : List ForwardingRule := []
  healthCheck : Option HealthCheck := none
  dropletIDs : List ℕ := []
  otherSettings : List (String × String) := []

def LoadBalancer.asRequest (lb : LoadBalancer) : LoadBalancerRequest where
  name := lb.name
  type := lb.type
  region := lb.region.getD ""
  tag := lb.tag
  vpcUUID := lb.vpcUUID
  sizeSlug := lb.sizeSlug
  sizeUnit := lb.sizeUnit
  forwardingRules := lb.forwardingRules
  healthCheck := lb.healthCheck
  dropletIDs := lb.dropletIDs
  otherSettings := lb.otherSettings

structure VPC where
  id : String
  name : String
  default : Bool
  regionSlug : String

structure ApiError where
  status : Option ℕ
  message : String

structure Links where
  isLastPage : Bool
  currentPage : Except String ℕ

structure Page where
  items : List LoadBalancer
  links : Option Links

inductive Request
  | get (id : String)
  | list (page : ℕ)
  | create (req : LoadBalancerRequest)
  | update (id : String) (req : LoadBalancerRequest)
  | delete (id : String)
  | getVPC (id : String)

def Answer : Request → Type
  | .get _ => Except ApiError LoadBalancer
  | .list _ => Except ApiError Page
  | .create _ => Except ApiError LoadBalancer
  | .update _ _ => Except ApiError LoadBalancer
  | .delete _ => Except ApiError Unit
  | .getVPC _ => Except ApiError VPC

inductive Cause
  | api (e : ApiError)
  | text (format : String) (args : List String)
  | wrapped (format : String) (args : List String) (cause : Cause)

structure Failure where
  cause : Cause
  op : String
  args : List String := []

abbrev Program := Client Request Answer Failure

def get (id : String) : Program (Except ApiError LoadBalancer) := .call (Request.get id)
def list (page : ℕ) : Program (Except ApiError Page) := .call (Request.list page)
def create (req : LoadBalancerRequest) : Program (Except ApiError LoadBalancer) :=
  .call (Request.create req)
def update (id : String) (req : LoadBalancerRequest) : Program (Except ApiError LoadBalancer) :=
  .call (Request.update id req)
def delete (id : String) : Program (Except ApiError Unit) := .call (Request.delete id)
def getVPC (id : String) : Program (Except ApiError VPC) := .call (Request.getVPC id)

def isNotFound (e : ApiError) : Bool := e.status = some 404

def isPermanentError (e : ApiError) (retryNotFound : Bool) : Bool :=
  match e.status with
  | none => false
  | some status =>
    if status = 400 ∨ status = 401 ∨ status = 403 then true
    else if status = 404 then !retryNotFound
    else false

structure DigitalOceanLoadBalancer where
  id : String := ""
  name : String := ""
  region : String := ""
  sizeUnit : ℕ := 0

structure APIEndpoint where
  host : String := ""
  port : ℕ := 0

structure Cluster where
  name : String
  lbSpec : DigitalOceanLoadBalancer
  apiEndpoint : APIEndpoint := {}

def ownedByKubeOne (lb : LoadBalancer) (clusterName : String) : Bool :=
  lb.tag = clusterTag clusterName

def describeBackends (lb : LoadBalancer) : String × List String :=
  if lb.tag ≠ "" then ("droplets tagged %q", [lb.tag])
  else if lb.dropletIDs ≠ [] then ("%d droplets by ID", [toString lb.dropletIDs.length])
  else ("no droplets", [])

def kubeAPIHealthCheck : HealthCheck where
  protocol := "tcp"
  port := kubeAPIPort
  checkIntervalSeconds := 3
  responseTimeoutSeconds := 3
  healthyThreshold := 2
  unhealthyThreshold := 3

def isKubeAPIHealthCheck : Option HealthCheck → Bool
  | none => false
  | some hc => hc.protocol = "tcp" ∧ hc.port = kubeAPIPort

def checksKubeAPI (hc : Option HealthCheck) : Bool :=
  isKubeAPIHealthCheck hc ||
    match hc with
    | none => false
    | some hc => hc.protocol = "https" ∧ hc.port = kubeAPIPort ∧
        hc.path ∈ ["/readyz", "/livez", "/healthz"]

def describeHealthCheck : Option HealthCheck → String × List String
  | none => ("nothing", [])
  | some hc =>
    if hc.path ≠ "" then
      ("%s on port %d with path %s", [hc.protocol, toString hc.port, hc.path])
    else ("%s on port %d", [hc.protocol, toString hc.port])

def kubeAPIForwardingRule : ForwardingRule := ⟨"tcp", kubeAPIPort, "tcp", kubeAPIPort⟩

/-- The first rule on the API server port decides; it must be the wanted one. -/
def hasKubeAPIForwardingRule (lb : LoadBalancer) : Except Cause Bool :=
  match lb.forwardingRules.find? fun rule => rule.entryPort = kubeAPIPort with
  | none => .ok false
  | some rule =>
    if rule.entryProtocol ≠ "tcp" ∨ rule.targetProtocol ≠ "tcp" ∨ rule.targetPort ≠ kubeAPIPort then
      .error (.text
        "load balancer %q forwards %s/%d to %s/%d, kube-apiserver requires %s/%d to %s/%d"
        [lb.name, rule.entryProtocol, toString rule.entryPort, rule.targetProtocol,
          toString rule.targetPort, "tcp", toString kubeAPIPort, "tcp", toString kubeAPIPort])
    else .ok true

def checkRegion (lb : LoadBalancer) (region : String) : Except Cause Unit :=
  match lb.region with
  | none => .ok ()
  | some slug =>
    if region = "" ∨ slug = region then .ok ()
    else .error (.text
      "load balancer %q is in region %q, but the control plane nodeSets use region %q"
      [lb.name, slug, region])

def getLoadBalancer (id : String) : Program LoadBalancer := do
  match ← get id with
  | .ok lb => pure lb
  | .error e =>
    if isNotFound e then
      .fail ⟨.text "no load balancer found with id: %s" [id], "looking up load balancer", []⟩
    else .fail ⟨.api e, "getting load balancer %q", [id]⟩

def Matches (name region : String) (lb : LoadBalancer) : Bool :=
  lb.name = name && (region = "" || lb.region = some region)

/-- The pages are read until an owned load balancer is found or the last page was read; the
first match is kept for the case that none is owned. `pages` bounds the number of pages. -/
def findPages (name region clusterName : String) :
    ℕ → ℕ → Option LoadBalancer → Program (Option LoadBalancer)
  | 0, _, _ => .fail ⟨.text "context canceled" [], "listing load balancers", []⟩
  | pages + 1, page, firstMatch => do
    match ← list page with
    | .error e => .fail ⟨.api e, "listing load balancers", []⟩
    | .ok lbs =>
      match lbs.items.find? fun lb => Matches name region lb && ownedByKubeOne lb clusterName with
      | some lb => pure (some lb)
      | none =>
        let firstMatch := firstMatch.or (lbs.items.find? (Matches name region))
        match lbs.links with
        | none => pure firstMatch
        | some links =>
          if links.isLastPage then pure firstMatch
          else match links.currentPage with
            | .error err => .fail ⟨.text err [], "paginating load balancers", []⟩
            | .ok current => findPages name region clusterName pages (current + 1) firstMatch

/-- No result stands for the error that no load balancer was found. -/
def findLoadBalancerByName (pages : ℕ) (name region clusterName : String) :
    Program (Option LoadBalancer) :=
  findPages name region clusterName pages 1 none

def Active (lb : LoadBalancer) : Bool := lb.status = lbStatusUp && lb.ip ≠ ""

/-- The time limit ends the polling after some number of requests. -/
def pollLoadBalancer (lb : LoadBalancer) (justCreated : Bool) : ℕ → Program LoadBalancer
  | 0 => .fail (inactive (.text "context deadline exceeded" []))
  | polls + 1 => do
    match ← get lb.id with
    | .error e =>
      if isPermanentError e justCreated then .fail (inactive (.api e))
      else pollLoadBalancer lb justCreated polls
    | .ok got =>
      if got.status = lbStatusErr then
        .fail (inactive (.text "load balancer is in %q state" [lbStatusErr]))
      else if Active got then pure got
      else pollLoadBalancer lb justCreated polls
where
  inactive (cause : Cause) : Failure :=
    ⟨.wrapped "load balancer %q did not become active: %w" [lb.name] cause,
      "waiting for load balancer", []⟩

def waitForLoadBalancer (polls : ℕ) (lb : LoadBalancer) (justCreated : Bool) :
    Program LoadBalancer :=
  if Active lb then pure lb else pollLoadBalancer lb justCreated polls

def checkDefaultVPC (lb : LoadBalancer) : Program (Except Cause Unit) :=
  if lb.vpcUUID = "" then pure (.ok ())
  else do
    match ← getVPC lb.vpcUUID with
    | .error e =>
      pure (.error (.wrapped "getting VPC %q of load balancer %q: %w" [lb.vpcUUID, lb.name]
        (.api e)))
    | .ok vpc =>
      if vpc.default then pure (.ok ())
      else pure (.error (.text
        ("load balancer %q is in VPC %q (%s), but control plane droplets are created in the " ++
          "default VPC of region %q; use a load balancer in the default VPC")
        [lb.name, vpc.name, vpc.id, vpc.regionSlug]))

/-- The request keeps the configuration. The two size fields exclude each other, and so do the
tag and the droplets that were found by it. -/
def updateRequest (lb : LoadBalancer) : LoadBalancerRequest :=
  { lb.asRequest with
    sizeSlug := if lb.sizeUnit > 0 then "" else lb.sizeSlug
    dropletIDs := [] }

def reconcileLoadBalancer (polls : ℕ) (lb : LoadBalancer) (setTag : String)
    (restoreHealthCheck : Bool) : Program LoadBalancer :=
  match hasKubeAPIForwardingRule lb with
  | .error err => .fail ⟨err, "configuring load balancer %q", [lb.id]⟩
  | .ok hasRule =>
    let needsHealthCheck := restoreHealthCheck && !isKubeAPIHealthCheck lb.healthCheck
    if setTag = "" ∧ needsHealthCheck = false ∧ hasRule = true then pure lb
    else do
      let req := updateRequest lb
      let req := if setTag ≠ "" then { req with tag := setTag } else req
      let req := if needsHealthCheck then { req with healthCheck := kubeAPIHealthCheck } else req
      let req := if hasRule then req
        else { req with forwardingRules := req.forwardingRules ++ [kubeAPIForwardingRule] }
      match ← update lb.id req with
      | .error e => .fail ⟨.api e, "updating load balancer %q", [lb.id]⟩
      | .ok updated => waitForLoadBalancer polls updated false

def ensureExistingLoadBalancer (polls : ℕ) (cluster : Cluster) : Program LoadBalancer := do
  let spec := cluster.lbSpec
  let backendTag := clusterTag cluster.name
  let configuring (cause : Cause) : Failure := ⟨cause, "configuring load balancer %q", [spec.id]⟩
  let lb ← getLoadBalancer spec.id
  let lb ← waitForLoadBalancer polls lb false
  if lb.type = loadBalancerTypeGlobal then
    .fail (configuring (.text
      ("load balancer %q is a global load balancer, which only forwards HTTP/HTTPS; " ++
        "kube-apiserver requires a regional load balancer forwarding TCP on port %d")
      [lb.name, toString kubeAPIPort]))
  else match checkRegion lb spec.region with
  | .error err => .fail (configuring err)
  | .ok () =>
    match ← checkDefaultVPC lb with
    | .error err => .fail (configuring err)
    | .ok () =>
      if lb.tag ≠ backendTag ∧ ¬ (lb.tag = "" ∧ lb.dropletIDs = []) then
        .fail (configuring (.text
          ("load balancer %q already has backends (tag %q, %d droplets), it must target " ++
            "droplets tagged %q or have no backends")
          [lb.name, lb.tag, toString lb.dropletIDs.length, backendTag]))
      -- the health check of the user cannot be restored, so it is never changed
      else if !checksKubeAPI lb.healthCheck then
        .fail (configuring (.text
          ("load balancer %q health checks %s, it must health check kube-apiserver with TCP on " ++
            "port %d (or HTTPS on port %d with path /readyz, /livez or /healthz)")
          (lb.name :: (describeHealthCheck lb.healthCheck).1 ::
            (describeHealthCheck lb.healthCheck).2 ++
            [toString kubeAPIPort, toString kubeAPIPort])))
      else
        let setTag := if lb.tag = backendTag then "" else backendTag
        reconcileLoadBalancer polls lb setTag false

def createRequest (cluster : Cluster) : LoadBalancerRequest where
  name := cluster.lbSpec.name
  region := cluster.lbSpec.region
  sizeUnit := cluster.lbSpec.sizeUnit
  tag := clusterTag cluster.name
  forwardingRules := [kubeAPIForwardingRule]
  healthCheck := some kubeAPIHealthCheck

def ensureLoadBalancer (polls pages : ℕ) (cluster : Cluster) : Program LoadBalancer :=
  let spec := cluster.lbSpec
  if spec.id ≠ "" then ensureExistingLoadBalancer polls cluster
  else do
    match ← findLoadBalancerByName pages spec.name spec.region cluster.name with
    | some lb =>
      if !ownedByKubeOne lb cluster.name then
        .fail ⟨.text
          ("load balancer %q (id: %s) already exists but targets %s instead of droplets tagged " ++
            "%q, it was not created by KubeOne for this cluster or was modified; " ++
            "set .cloudProvider.digitalocean.controlPlane.loadBalancer.name to a different " ++
            "name, " ++
            "or restore the load balancer to target droplets tagged %q")
          (lb.name :: lb.id :: (describeBackends lb).1 :: (describeBackends lb).2 ++
            [clusterTag cluster.name, clusterTag cluster.name]),
          "ensuring load balancer", []⟩
      else
        let lb ← waitForLoadBalancer polls lb false
        reconcileLoadBalancer polls lb "" true
    | none =>
      match ← create (createRequest cluster) with
      | .error e => .fail ⟨.api e, "creating load balancer", []⟩
      -- a new load balancer might not be visible right away
      | .ok lb => waitForLoadBalancer polls lb true

def cleanupLoadBalancer (pages : ℕ) (cluster : Cluster) : Program Unit := do
  let spec := cluster.lbSpec
  match ← findLoadBalancerByName pages spec.name spec.region cluster.name with
  | none => pure ()
  | some lb =>
    if !ownedByKubeOne lb cluster.name then pure ()
    else if cluster.apiEndpoint.host ≠ "" ∧ cluster.apiEndpoint.host ≠ lb.ip then pure ()
    else
      match ← delete lb.id with
      | .ok () => pure ()
      | .error e =>
        if isNotFound e then pure () else .fail ⟨.api e, "deleting load balancer", []⟩

def releaseLoadBalancer (polls : ℕ) (cluster : Cluster) : Program Unit := do
  let id := cluster.lbSpec.id
  match ← get id with
  | .error e => if isNotFound e then pure () else .fail ⟨.api e, "getting load balancer %q", [id]⟩
  | .ok lb =>
    if lb.tag ≠ clusterTag cluster.name then pure ()
    else
      let lb ← waitForLoadBalancer polls lb false
      match ← update lb.id { updateRequest lb with tag := "" } with
      | .error e => .fail ⟨.api e, "updating load balancer %q", [lb.id]⟩
      | .ok _ => pure ()

/-- Nothing is done for an endpoint that the user provides; otherwise the address of the load
balancer becomes the endpoint. -/
def Provider.ensureLoadBalancer (polls pages : ℕ) (cluster : Cluster) : Program Cluster :=
  if cluster.apiEndpoint.host ≠ "" then pure cluster
  else do
    let lb ← DigitalOcean.ensureLoadBalancer polls pages cluster
    pure { cluster with apiEndpoint := ⟨lb.ip, kubeAPIPort⟩ }

def Provider.cleanupLoadBalancer (polls pages : ℕ) (cluster : Cluster) : Program Cluster := do
  if cluster.lbSpec.id ≠ "" then
    releaseLoadBalancer polls cluster
    pure cluster
  else
    DigitalOcean.cleanupLoadBalancer pages cluster
    pure cluster

end KubeOne.CloudProvider.DigitalOcean
