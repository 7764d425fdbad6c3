import KubeOne.CloudProvider.Machines
import KubeOne.Process.Appending

/-! Ensuring and looking up the machines of a managed control plane. The task of a machine is
retried as a whole, so a request that fails behind the append of its host makes the next attempt
append the host again. -/

namespace KubeOne.CloudProvider

open Process Stage
open Apis.V1beta3 (defaultHosts)

/-- The steps that can fail. Those of a lookup that goes machine by machine carry the
position of the machine. -/
inductive Call
  | preflight
  | loadBalancer
  | credentials
  | awsConfig
  | findOrCreateMachines
  | registerNICToBackendPool
  | elbClient
  | findTargetGroup
  | registerTargets
  | ensureLeaderEndpoint
  | ensureLBMembers
  | generateMachines
  | findMachines
  | resolveLB
  | computeService
  | machineLocation (idx : ℕ)
  | getInstance (idx : ℕ)
  | findMachine (idx : ℕ)
  | defaultCluster
  deriving DecidableEq

abbrev HostStage := Stage (List HostConfig) Call

def callStage (failing : Call → Bool) (c : Call) : HostStage := fun s =>
  if failing c then (s, .failed [c]) else (s, .success)

def appendStage (hosts : List HostConfig) : HostStage := fun s => (s ++ hosts, .success)

structure Setup where
  provider : Provider
  controlPlane : Bool
  clusterName : String
  nodeSets : List NodeSet
  destroyControlPlaneMachines : Bool := false

namespace Setup

def enabled (i : Setup) : Bool :=
  match i.provider with
  | .azure | .gce | .openstack => i.controlPlane && !i.nodeSets.isEmpty
  | .aws | .digitalOcean | .hetzner | .kubevirt => !i.nodeSets.isEmpty

def hasLoadBalancer (i : Setup) : Bool :=
  match i.provider with
  | .kubevirt => i.enabled && i.controlPlane
  | _ => i.enabled

def hasPreflight (i : Setup) : Bool :=
  match i.provider with
  | .digitalOcean => true
  | _ => false

/-- The machines, each with the node set it was generated from. -/
def machines (i : Setup) : List (String × NodeSet) :=
  (generateMachines i.clusterName i.nodeSets).zip
    (i.nodeSets.flatMap fun ns => List.replicate ns.replicas.toNat ns)

end Setup

def gceHostConfigsFromMachines (machines : List Machine) (names : List String)
    (nodeSets : List NodeSet) : List HostConfig :=
  (hostConfigsFromMachines machines nodeSets).mapIdx fun idx h =>
    { h with hostname := names[idx]?.getD h.hostname }

/-- The instances might have a private address only. -/
def kubevirtHostConfigsFromMachines (machines : List Machine) (nodeSets : List NodeSet) :
    List HostConfig :=
  (hostConfigsFromMachines machines nodeSets).map fun h =>
    { h with publicAddress := if h.publicAddress = "" then h.privateAddress else h.publicAddress }

def Provider.hostConfigs (p : Provider) (machines : List Machine) (names : List String)
    (nodeSets : List NodeSet) : List HostConfig :=
  match p with
  | .gce => gceHostConfigsFromMachines machines names nodeSets
  | .kubevirt => kubevirtHostConfigsFromMachines machines nodeSets
  | _ => hostConfigsFromMachines machines nodeSets

structure VMAttempt where
  failing : Call → Bool
  found : Machine

def leaderMachineName (clusterName : String) (nodeSets : List NodeSet) : String :=
  match nodeSets.find? fun ns => 0 < ns.replicas with
  | some ns => ns.machineName clusterName 0
  | none => ""

def Provider.callsBefore : Provider → List Call
  | .aws => [.awsConfig, .findOrCreateMachines]
  | .azure => [.credentials, .findOrCreateMachines, .registerNICToBackendPool]
  | .openstack => [.findOrCreateMachines]
  | .digitalOcean | .gce | .hetzner | .kubevirt => [.credentials, .findOrCreateMachines]

def Setup.callsAfter (i : Setup) (name : String) (found : Machine) : List Call :=
  match i.provider with
  | .aws =>
    [.elbClient, .findTargetGroup] ++ if found.privateAddress = "" then [] else [.registerTargets]
  | .gce =>
    if name ≠ leaderMachineName i.clusterName i.nodeSets then [] else [.ensureLeaderEndpoint]
  | .openstack => [.ensureLBMembers]
  | .azure | .digitalOcean | .hetzner | .kubevirt => []

def ensureVM (i : Setup) (m : String × NodeSet) (a : VMAttempt) : HostStage :=
  sequence (i.provider.callsBefore.map (callStage a.failing) ++
    appendStage (i.provider.hostConfigs [a.found] [m.1] [m.2]) ::
      (i.callsAfter m.1 a.found).map (callStage a.failing))

structure LookupAttempt where
  failing : Call → Bool
  found : ℕ → Machine

def lookupExistingVMs (a : LookupAttempt) (present : String → Bool) :
    ℕ → List (String × NodeSet) → HostStage
  | _, [] => skip
  | idx, (name, ns) :: rest =>
    (callStage a.failing (.machineLocation idx)).andThen
      ((callStage a.failing (.getInstance idx)).andThen
        ((if present name then
            (callStage a.failing (.findMachine idx)).andThen
              (appendStage (gceHostConfigsFromMachines [a.found idx] [name] [ns]))
          else skip).andThen
          (lookupExistingVMs a present (idx + 1) rest)))

/-- The control plane is going to be destroyed, so the lookup goes machine by machine. -/
def Setup.byMachine (i : Setup) : Prop := i.provider = .gce ∧ i.destroyControlPlaneMachines = true

instance (i : Setup) : Decidable i.byMachine := inferInstanceAs (Decidable (_ ∧ _))

def Setup.lookupCalls (i : Setup) : List Call :=
  (match i.provider with
    | .aws | .openstack => []
    | .azure | .digitalOcean | .gce | .hetzner | .kubevirt => [.credentials]) ++
  .generateMachines ::
    if i.byMachine then [.resolveLB, .computeService] else [.findMachines]

def lookupVMs (i : Setup) (present : String → Bool) (a : LookupAttempt) : HostStage :=
  (sequence (i.lookupCalls.map (callStage a.failing))).andThen <|
    if i.byMachine then lookupExistingVMs a present 0 i.machines
    else appendStage (i.provider.hostConfigs ((List.range i.machines.length).map a.found)
      (i.machines.map (·.1)) i.nodeSets)

/-- A task has ten attempts, unless it says otherwise. -/
def taskAgain : ℕ := 9

def preflightAgain : ℕ := 2

/-- The answers to the attempts of the tasks that change no host. -/
structure Surroundings where
  preflight : ℕ → Call → Bool
  loadBalancer : ℕ → Call → Bool
  defaultCluster : ℕ → Call → Bool

def defaultCluster (failing : Call → Bool) : HostStage :=
  (callStage failing .defaultCluster).andThen fun s => (defaultHosts s, .success)

def setupTasks (i : Setup) (r : Surroundings) : List HostStage :=
  (if i.hasPreflight && i.enabled then
    [retry preflightAgain fun n => callStage (r.preflight n) .preflight] else []) ++
  (if i.hasLoadBalancer then
    [retry taskAgain fun n => callStage (r.loadBalancer n) .loadBalancer] else [])

def defaultTask (i : Setup) (r : Surroundings) : HostStage :=
  if i.nodeSets.isEmpty then skip else retry taskAgain fun n => defaultCluster (r.defaultCluster n)

def withEnsureControlPlane (i : Setup) (r : Surroundings) (vm : ℕ → ℕ → VMAttempt) : HostStage :=
  (sequence (setupTasks i r ++
    if i.enabled then
      i.machines.mapIdx fun k m => retry taskAgain fun n => ensureVM i m (vm k n)
    else [])).andThen (defaultTask i r)

def withFindControlPlane (i : Setup) (r : Surroundings) (present : String → Bool)
    (lookup : ℕ → LookupAttempt) : HostStage :=
  (sequence (setupTasks i r ++
    if i.enabled then [retry taskAgain fun n => lookupVMs i present (lookup n)]
    else [])).andThen (defaultTask i r)

end KubeOne.CloudProvider
