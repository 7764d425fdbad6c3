import KubeOne.Tasks.HostProbe

/-! The probes over a whole cluster. Every host is probed in a goroutine of its own, which looks
up the entry of its host by the hostname and writes it back when the answers are in. In a
provisioned cluster a leader is then elected. The entries point to the hosts of the configuration,
so the election changes both. -/

namespace KubeOne.Tasks.Probes

open Process State

structure Place where
  controlPlane : Bool
  idx : ℕ

def firstNamed (hosts : List Host) (hostname : String) : Option (ℕ × Host) :=
  (hosts.findIdx? (·.config.hostname = hostname)).bind fun i => hosts[i]?.map (i, ·)

/-- The first control plane host with the name, and otherwise the first static worker. -/
def lookupHost (c : Cluster) (hostname : String) : Option (Place × Host) :=
  match firstNamed c.controlPlane hostname with
  | some (i, foundHost) => some (⟨true, i⟩, foundHost)
  | none => (firstNamed c.staticWorkers hostname).map fun (i, foundHost) => (⟨false, i⟩, foundHost)

def writeHost (c : Cluster) (place : Place) (host : Host) : Cluster :=
  if place.controlPlane then { c with controlPlane := c.controlPlane.set place.idx host }
  else { c with staticWorkers := c.staticWorkers.set place.idx host }

/-- The two stretches of a probe in which it holds the lock of the live cluster. -/
inductive Job
  | lookup (hostname : String) (conn : Conn)
  | writeBack (place : Place) (foundHost : Host)

/-- The commands go to the connection of the node and run outside the lock. -/
def investigateHost (r : Readers) (_ : Unit) : Job → Cluster → Cluster × (Job ⊕ Option Failure)
  | .lookup hostname conn, c =>
    match lookupHost c hostname with
    | none => (c, .inr (some (.new "didn't matched live cluster against provided")))
    | some (place, foundHost) =>
      match investigate r conn place.controlPlane foundHost with
      | .error err => (c, .inr (some err))
      | .ok host => (c, .inl (.writeBack place host))
  | .writeBack place host, c => (writeHost c place host, .inr none)

structure ProbeState where
  controlPlane : List HostConfig
  staticWorkers : List HostConfig
  kubernetes : String
  liveCluster : Cluster := { controlPlane := [], staticWorkers := [] }
  hasDynamicClient : Bool := false

/-- What one attempt meets: the connections to the control plane hosts and behind them to the
static workers, the order in which the goroutines get on, and the answers of the API servers, of
etcd and of the cluster. A pod is given by the command of its first container. -/
structure Answers where
  conns : ℕ → Except Failure Conn
  controlPlaneEvents : List (Pool.Event Unit)
  staticWorkersEvents : List (Pool.Event Unit)
  apiServerHealth : ℕ → Bool
  etcdMembers : Except Failure (List String)
  etcdHealth : ℕ → Option Bool
  clientset : Except Failure Unit
  nodes : Except Failure (List String)
  authenticationPods : Except Failure (List (List String))
  encryptionPods : Except Failure (List (List String))
  encryptionProvidersFile : Except Failure String
  clusterName : Except Failure String

/-- A host without a hostname gets the one that its machine reports. -/
def determineHostname (reported : String) (node : HostConfig) : HostConfig :=
  if node.hostname ≠ "" then node else { node with hostname := reported }

def nodeTasks (a : Answers) (start : ℕ) (nodes : List HostConfig) :
    List (String × Except Failure Job) :=
  nodes.mapIdx fun i node => (node.publicAddress, (a.conns (start + i)).map (.lookup node.hostname))

/-- The control plane hosts at once, and then the static workers. -/
def runTaskOnAllNodes (r : Readers) (a : Answers) (controlPlane staticWorkers : List HostConfig) :
    Stage Cluster Failure :=
  (runTaskOnNodes (investigateHost r) (nodeTasks a 0 controlPlane) a.controlPlaneEvents).andThen
    (runTaskOnNodes (investigateHost r) (nodeTasks a controlPlane.length staticWorkers)
      a.staticWorkersEvents)

def freshCluster (s : ProbeState) (expectedVersion : Semver.Version) : Cluster where
  controlPlane := s.controlPlane.map ({ config := · })
  staticWorkers := s.staticWorkers.map ({ config := · })
  expectedKubernetesVersion := some expectedVersion

def ProbeState.start (s : ProbeState) (expectedVersion : Semver.Version) : ProbeState :=
  { s with liveCluster := freshCluster s expectedVersion }

def probeHosts (r : Readers) (a : Answers) : Stage ProbeState Failure := fun s =>
  let p := runTaskOnAllNodes r a s.controlPlane s.staticWorkers s.liveCluster
  ({ s with liveCluster := p.1 }, p.2)

def clearLeader (h : Host) : Host := { h with config := { h.config with isLeader := false } }

/-- The loop over the control plane hosts, from an index on. The first healthy one is elected. -/
def elect (health : ℕ → Bool) : ℕ → Bool → List Host → List Host × Bool
  | _, leaderElected, [] => ([], leaderElected)
  | i, leaderElected, h :: hosts =>
    if health i then
      let config := if leaderElected then h.config else { h.config with isLeader := true }
      let rest := elect health (i + 1) true hosts
      ({ h with apiServer := ⟨h.apiServer.status ||| podRunning⟩, config } :: rest.1, rest.2)
    else
      let rest := elect health (i + 1) leaderElected hosts
      (h :: rest.1, rest.2)

/-- The entries point to the hosts of the configuration. -/
def ProbeState.setControlPlane (s : ProbeState) (hosts : List Host) : ProbeState :=
  { s with
    controlPlane := hosts.map (·.config)
    liveCluster := { s.liveCluster with controlPlane := hosts } }

def electLeader (a : Answers) : Stage ProbeState Failure := fun s =>
  let election := elect a.apiServerHealth 0 false (s.liveCluster.controlPlane.map clearLeader)
  (s.setControlPlane election.1,
    if election.2 then .success
    else .failed [.wrapped .runtime "leader electing" (.new "quorum mostly like lost")])

def withAnswer {α : Type} (answer : Except Failure α) (onError : Failure → Failure)
    (f : α → Stage ProbeState Failure) : Stage ProbeState Failure := fun s =>
  match answer with
  | .error err => (s, .failed [onError err])
  | .ok x => f x s

def ProbeState.updateCluster (f : Cluster → Cluster) : Stage ProbeState Failure := fun s =>
  ({ s with liveCluster := f s.liveCluster }, .success)

def etcdStatus (a : Answers) (members : List String) (i : ℕ) (h : Host) : Host :=
  if a.etcdHealth i = some true ∧ h.config.hostname ∈ members then
    { h with etcd := ⟨h.etcd.status ||| podRunning⟩ }
  else h

def investigateEtcd (a : Answers) : Stage ProbeState Failure :=
  withAnswer a.etcdMembers id fun members => ProbeState.updateCluster fun c =>
    { c with controlPlane := c.controlPlane.mapIdx (etcdStatus a members) }

def buildKubernetesClientset (a : Answers) : Stage ProbeState Failure := fun s =>
  if s.hasDynamicClient then (s, .success)
  else withAnswer a.clientset id (fun _ s => ({ s with hasDynamicClient := true }, .success)) s

def investigateNodes (a : Answers) : Stage ProbeState Failure :=
  withAnswer a.nodes (.wrapped .kubeClient "getting v1.NodeList") fun nodes =>
    ProbeState.updateCluster (·.markNodes nodes)

def hasArgument (pods : List (List String)) (p : List Char → Bool) : Bool :=
  pods.any fun command => command.any fun c => p c.toList

def detectAuthenticationConfigEnabled (pods : List (List String)) : Bool :=
  hasArgument pods "--authentication-config=".toList.isPrefixOf

def detectEncryptionProvidersEnabled (pods : List (List String)) : Bool :=
  hasArgument pods "--encryption-provider".toList.isPrefixOf

def detectCustomEncryptionProviders (pods : List (List String)) : Bool :=
  hasArgument pods fun c =>
    c.tails.any "encryption-providers/custom-encryption-providers.yaml".toList.isPrefixOf

def investigateAuthentication (a : Answers) : Stage ProbeState Failure :=
  withAnswer a.authenticationPods (.wrapped .kubeClient "listing kube-apiserver pods") fun pods =>
    ProbeState.updateCluster fun c =>
      { c with authenticationConfigEnabled := detectAuthenticationConfigEnabled pods }

/-- The file is read on the leader. -/
def fetchEncryptionProvidersFile (a : Answers) : Stage ProbeState Failure := fun s =>
  if s.controlPlane.any (·.isLeader) then
    withAnswer a.encryptionProvidersFile id (fun text => ProbeState.updateCluster fun c =>
      { c with encryptionConfiguration := { c.encryptionConfiguration with config := some text } })
      s
  else (s, .failed [.wrapped .config "leader" (.new "not found")])

def investigateEncryption (a : Answers) : Stage ProbeState Failure :=
  withAnswer a.encryptionPods (.wrapped .kubeClient "listing kube-apiserver pods") fun pods =>
    if detectEncryptionProvidersEnabled pods then
      (ProbeState.updateCluster fun c =>
        { c with encryptionConfiguration :=
          { enable := true, custom := detectCustomEncryptionProviders pods } }).andThen
        (fetchEncryptionProvidersFile a)
    else Stage.skip

def clusterProbes (a : Answers) : List (Stage ProbeState Failure) :=
  [investigateEtcd a, buildKubernetesClientset a, investigateNodes a, investigateAuthentication a,
    investigateEncryption a]

def investigateCluster (a : Answers) : Stage ProbeState Failure := fun s =>
  if s.liveCluster.isProvisioned then
    (electLeader a).andThen (Stage.sequence (clusterProbes a)) s
  else (s, .failed [.new "unable to investigate non-provisioned cluster"])

def setClusterName (a : Answers) : Stage ProbeState Failure :=
  withAnswer a.clusterName
    (.wrapped .wrap "failed to detect the ccm --cluster-name flag value") fun name =>
      ProbeState.updateCluster fun c => { c with ccmClusterName := name }

def investigateProvisioned (a : Answers) : Stage ProbeState Failure := fun s =>
  if s.liveCluster.isProvisioned then investigateCluster a s else (s, .success)

def runProbes (r : Readers) (a : Answers) : Stage ProbeState Failure := fun s =>
  match r.newVersion s.kubernetes with
  | .error err => (s, .failed [.wrapped .config "validation" err])
  | .ok expectedVersion =>
    (probeHosts r a).andThen ((investigateProvisioned a).andThen (setClusterName a))
      (s.start expectedVersion)

end KubeOne.Tasks.Probes
