import KubeOne.Process.Client
import Mathlib.Data.Nat.Notation

/-! The load balancer of a cluster on AWS. It is looked for by name; when there is none, a target
group, the load balancer and a listener that forwards from the one to the other are created in this
order. The cleanup deletes the load balancer and then the target group. -/

namespace KubeOne.CloudProvider.Aws

open Process

def awsAPIServerPort : ℕ := 6443

structure LoadBalancer where
  arn : String
  dnsName : String

structure TargetGroup where
  arn : String

structure CreateTargetGroupInput where
  name : String
  port : ℕ
  vpcId : String
  tags : List (String × String)

structure CreateLoadBalancerInput where
  name : String
  internal : Bool
  subnets : List String
  securityGroups : List String
  tags : List (String × String)

/-- A listener forwards what arrives at the port of a load balancer to a target group. -/
structure CreateListenerInput where
  loadBalancerArn : String
  port : ℕ
  targetGroupArn : String

inductive Request
  | describeLoadBalancers (name : String)
  | describeTargetGroups (name : String)
  | createTargetGroup (input : CreateTargetGroupInput)
  | createLoadBalancer (input : CreateLoadBalancerInput)
  | createListener (input : CreateListenerInput)
  | deleteLoadBalancer (arn : String)
  | deleteTargetGroup (arn : String)

def Output : Request → Type
  | .describeLoadBalancers _ => List LoadBalancer
  | .describeTargetGroups _ => List TargetGroup
  | .createTargetGroup _ => List TargetGroup
  | .createLoadBalancer _ => List LoadBalancer
  | _ => Unit

inductive ApiError
  | loadBalancerNotFound
  | targetGroupNotFound
  | other (message : String)

def Answer (r : Request) : Type := Except ApiError (Output r)

/-- An error with what was being done. An index out of range or a nil pointer ends the program. -/
inductive Failure
  | config (message : String)
  | cloud (cause : ApiError) (op : String)
  | panicked

abbrev Program := Client Request Answer Failure

def send (r : Request) : Program (Except ApiError (Output r)) := .call r

structure NodeSetNetwork where
  name : String
  vpcID : String
  subnetID : String

structure Cluster where
  name : String
  apiEndpointHost : String := ""
  lbName : String
  internal : Option Bool := none
  securityGroupIDs : List String := []
  tags : List (String × String) := []
  /-- The node sets, `none` for a specification that cannot be read. -/
  nodeSets : List (Option NodeSetNetwork)
  clientError : Option String := none

def awsTargetGroupName (lbName : String) : String :=
  let name := lbName ++ "-tg"
  if 32 < name.length then .ofList (name.toList.take 32) else name

def networkLoop (vpcID : String) (subnetIDs : List String) :
    List (Option NodeSetNetwork) → Except Failure (String × List String)
  | [] => .ok (vpcID, subnetIDs)
  | none :: _ => .error (.config "decode aws config")
  | some node :: rest =>
    if node.vpcID = "" ∨ node.subnetID = "" then
      .error (.config ("vpcId/subnetId missing from control-plane nodeSet " ++ node.name))
    else if vpcID ≠ "" ∧ vpcID ≠ node.vpcID then
      .error (.config "control-plane nodeSets must use the same vpcId")
    else networkLoop node.vpcID
      (if node.subnetID ∈ subnetIDs then subnetIDs else subnetIDs ++ [node.subnetID]) rest

def awsNetworkFromNodeSets (nodeSets : List (Option NodeSetNetwork)) :
    Except Failure (String × List String) :=
  networkLoop "" [] nodeSets

def awsLabels (clusterName : String) : List (String × String) :=
  [("kubeone_cluster_name", clusterName), ("kubeone_role", "control-plane"),
    ("kubernetes.io/cluster/" ++ clusterName, "shared")]

def awsTags (clusterName : String) (extra : List (String × String)) : List (String × String) :=
  extra.filter (fun tag => !(awsLabels clusterName).any (·.1 == tag.1)) ++ awsLabels clusterName

def required (r : Request) (op : String) : Program (Output r) := do
  match ← send r with
  | .ok out => pure out
  | .error e => .fail (.cloud e op)

def first {α : Type} : List α → Program α
  | a :: _ => pure a
  | [] => .fail .panicked

def createAWSLoadBalancer (c : Cluster) : Program LoadBalancer := do
  match awsNetworkFromNodeSets c.nodeSets with
  | .error e => .fail e
  | .ok (vpcID, subnetIDs) =>
    let sdkTags := awsTags c.name c.tags
    let tg ← first (← required (.createTargetGroup
      { name := awsTargetGroupName c.lbName, port := awsAPIServerPort, vpcId := vpcID
        tags := sdkTags }) "creating target group")
    let newLB ← first (← required (.createLoadBalancer
      { name := c.lbName, internal := c.internal = some true, subnets := subnetIDs
        securityGroups := c.securityGroupIDs, tags := sdkTags }) "creating load balancer")
    let _ ← required (.createListener
      { loadBalancerArn := newLB.arn, port := awsAPIServerPort, targetGroupArn := tg.arn })
      "creating listener"
    pure newLB

/-- The host and the port of the API endpoint afterwards; `none` if they stay as they are. -/
def ensureLoadBalancer (c : Cluster) : Program (Option (String × ℕ)) :=
  if c.apiEndpointHost ≠ "" then pure none
  else match c.clientError with
    | some e => .fail (.config e)
    | none => do
      let realLB ← match ← send (.describeLoadBalancers c.lbName) with
        | .ok (lb :: _) => pure lb
        | .ok [] | .error .loadBalancerNotFound => createAWSLoadBalancer c
        | .error e => .fail (.cloud e "describing loadbalancers")
      pure (some (realLB.dnsName, awsAPIServerPort))

/-- The second half of the cleanup. An error that the target group was not found passes the check,
but there is no output to look into then. -/
def cleanupTargetGroup (c : Cluster) : Program Unit := do
  match ← send (.describeTargetGroups (awsTargetGroupName c.lbName)) with
  | .error .targetGroupNotFound => .fail .panicked
  | .error e => .fail (.cloud e "describing target groups")
  | .ok (tg :: _) => required (.deleteTargetGroup tg.arn) "deleting target group"
  | .ok [] => pure ()

def cleanupLoadBalancer (c : Cluster) : Program Unit :=
  match c.clientError with
  | some e => .fail (.config e)
  | none => do
    match ← required (.describeLoadBalancers c.lbName) "describing loadbalancers" with
    | realLB :: _ => required (.deleteLoadBalancer realLB.arn) "deleting loadbalancer"
    | [] => pure ()
    cleanupTargetGroup c

end KubeOne.CloudProvider.Aws
