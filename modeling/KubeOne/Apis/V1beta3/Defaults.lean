import KubeOne.Yamled.Document
import Mathlib.Data.Int.Notation

/-! The defaults of a cluster in the API version `v1beta3`. Seventeen steps fill in what a manifest
leaves open. Pointers and slices that can be nil are options, so that an empty list is not the
same as none. -/

namespace KubeOne.Apis.V1beta3

structure Taint where
  key : String
  value : String := ""
  effect : String

inductive OperatingSystemName
  | ubuntu
  | debian
  | centos
  | rhel
  | rockylinux
  | flatcar
  | unknown
  | other (name : String)
  deriving DecidableEq

structure KubeletConfig where
  maxPods : Option ℤ := none
  imageGCHighThresholdPercent : Option ℤ := none
  imageGCLowThresholdPercent : Option ℤ := none

structure HostConfig where
  id : ℤ := 0
  publicAddress : String := ""
  privateAddress : String := ""
  sshPort : ℤ := 0
  sshUsername : String := ""
  sshPrivateKeyFile : String := ""
  sshAgentSocket : String := ""
  bastionPort : ℤ := 0
  bastionUser : String := ""
  isLeader : Bool := false
  taints : Option (List Taint) := none
  hostname : String := ""
  ipv6Addresses : List String := []
  labels : List (String × String) := []
  annotations : List (String × String) := []
  kubelet : KubeletConfig := {}
  operatingSystem : OperatingSystemName := .unknown
  sshCertFile : String := ""
  sshHostPublicKey : List UInt8 := []
  bastion : String := ""
  bastionHostPublicKey : List UInt8 := []

structure SSHSpec where
  port : ℤ := 0
  username : String := ""
  privateKeyFile : String := ""
  certFile : String := ""
  hostPublicKey : List UInt8 := []
  agentSocket : String := ""
  bastion : String := ""
  bastionPort : ℤ := 0
  bastionUser : String := ""
  bastionHostPublicKey : List UInt8 := []

structure NodeSettingsSpec where
  labels : Option (List (String × String)) := none
  annotations : List (String × String) := []
  taints : Option (List Taint) := none

structure NodeSet where
  name : String := ""
  replicas : ℤ := 0
  nodeSettings : NodeSettingsSpec := {}
  operatingSystem : OperatingSystemName := .unknown
  ssh : SSHSpec := {}

structure ControlPlaneConfig where
  hosts : List HostConfig := []
  nodeSets : Option (List NodeSet) := none

structure LoadBalancer where
  name : String := ""

structure ProviderSpec where
  controlPlane : Option LoadBalancer := none

structure CloudProviderSpec where
  external : Bool := false
  aws : Option ProviderSpec := none
  digitalOcean : Option ProviderSpec := none
  gce : Option ProviderSpec := none
  hetzner : Option ProviderSpec := none
  openstack : Option ProviderSpec := none
  vmwareCloudDirector : Bool := false
  /-- No cloud provider, as an explicit choice: the `None` of the source. -/
  noProvider : Bool := false

inductive IPFamily
  | unset
  | ipv4
  | ipv6
  | ipv4ipv6
  | ipv6ipv4
  | other (name : String)
  deriving DecidableEq

structure CanalSpec where
  mtu : ℤ := 0

structure CiliumSpec where
  kubeProxyReplacement : Bool := false

structure CNI where
  canal : Option CanalSpec := none
  cilium : Option CiliumSpec := none

structure ClusterNetworkConfig where
  podSubnet : String := ""
  podSubnetIPv6 : String := ""
  serviceSubnet : String := ""
  serviceSubnetIPv6 : String := ""
  serviceDomainName : String := ""
  nodePortRange : String := ""
  cni : Option CNI := none
  ipFamily : IPFamily := .unset
  nodeCIDRMaskSizeIPv4 : Option ℤ := none
  nodeCIDRMaskSizeIPv6 : Option ℤ := none

structure ProxyConfig where
  http : String := ""
  https : String := ""
  noProxy : String := ""

structure LoggingConfig where
  containerLogMaxSize : String := ""
  containerLogMaxFiles : ℤ := 0

structure HelmAuth where
  username : String := ""
  password : String := ""

structure HelmValues where
  valuesFile : String := ""
  inline : Option Yamled.Node := none

structure HelmRelease where
  chart : String
  repoURL : String := ""
  chartURL : String := ""
  version : String := ""
  releaseName : String := ""
  namespaceName : String := ""
  wait : Bool := false
  insecure : Bool := false
  /-- In nanoseconds. -/
  waitTimeout : ℤ := 0
  values : List HelmValues := []
  auth : Option HelmAuth := none

structure Addon where
  name : String
  params : List (String × String) := []
  disableTemplating : Bool := false
  delete : Bool := false
  deriving DecidableEq

structure AddonRef where
  addon : Option Addon := none
  helmRelease : Option HelmRelease := none

structure Addons where
  path : String := ""
  addons : List AddonRef := []

structure CoreDNS where
  replicas : Option ℤ := none
  deployPodDisruptionBudget : Option Bool := none

structure StaticAuditLogConfig where
  logPath : String := ""
  logMaxAge : ℤ := 0
  logMaxBackup : ℤ := 0
  logMaxSize : ℤ := 0

structure StaticAuditLog where
  enable : Bool := false
  config : StaticAuditLogConfig := {}

structure OpenIDConnectConfig where
  clientID : String := ""
  usernameClaim : String := ""
  usernamePrefix : String := ""
  groupsClaim : String := ""
  groupsPrefix : String := ""
  signingAlgs : String := ""

structure OpenIDConnect where
  enable : Bool := false
  config : OpenIDConnectConfig := {}

structure Features where
  coreDNS : Option CoreDNS := none
  metricsServer : Option Bool := none
  staticAuditLog : Option StaticAuditLog := none
  openIDConnect : Option OpenIDConnect := none
  nodeLocalDNS : Option Bool := none

structure TLSCipherSuites where
  apiServer : Option (List String) := none
  etcd : Option (List String) := none
  kubelet : Option (List String) := none

@[ext]
structure KubeOneCluster where
  controlPlane : ControlPlaneConfig := {}
  apiEndpointHost : String := ""
  apiEndpointPort : ℤ := 0
  apiEndpointAlternativeNames : List String := []
  cloudProvider : CloudProviderSpec := {}
  kubernetes : String
  /-- The `DeviceOwnershipFromSecurityContext` of containerd, if containerd is configured. -/
  containerd : Option (Option Bool) := none
  clusterNetwork : ClusterNetworkConfig := {}
  proxy : ProxyConfig := {}
  staticWorkers : List HostConfig := []
  machineController : Option Bool := none
  operatingSystemManager : Option Bool := none
  caBundle : String := ""
  certificateAuthorityBundle : String := ""
  features : Features := {}
  addons : Option Addons := none
  systemPackages : Option Bool := none
  loggingConfig : LoggingConfig := {}
  journaldSystemMaxUse : String := ""
  tlsCipherSuites : TLSCipherSuites := {}

/-- The input, unless it is the zero value of its type. -/
def defaults {α : Type*} [Inhabited α] [DecidableEq α] (input defaultValue : α) : α :=
  if input ≠ default then input else defaultValue

def controlPlaneTaint : Taint :=
  { key := "node-role.kubernetes.io/control-plane", effect := "NoSchedule" }

def defaultHostConfig (h : HostConfig) : HostConfig :=
  let h := if h.publicAddress = "" ∧ h.privateAddress ≠ "" then
    { h with publicAddress := h.privateAddress } else h
  let h := if h.privateAddress = "" ∧ h.publicAddress ≠ "" then
    { h with privateAddress := h.publicAddress } else h
  let h := if h.sshPrivateKeyFile = "" then
    { h with sshAgentSocket := defaults h.sshAgentSocket "env:SSH_AUTH_SOCK" } else h
  let h := { h with sshUsername := defaults h.sshUsername "root" }
  { h with
    sshPort := defaults h.sshPort 22
    bastionPort := defaults h.bastionPort 22
    bastionUser := defaults h.bastionUser h.sshUsername }

def numberedHost (taints : List Taint) (id : ℤ) (h : HostConfig) : HostConfig :=
  let h := defaultHostConfig { h with id := id }
  { h with taints := h.taints.or (some taints) }

def withLeader (hosts : List HostConfig) : List HostConfig :=
  if hosts.any (·.isLeader) then hosts
  else hosts.modifyHead fun h => { h with isLeader := true }

def defaultHosts (hosts : List HostConfig) : List HostConfig :=
  withLeader (hosts.mapIdx fun idx h => numberedHost [controlPlaneTaint] idx h)

/-- Without control plane hosts the static workers are left alone, too. -/
def setDefaultsHosts (c : KubeOneCluster) : KubeOneCluster :=
  if c.controlPlane.hosts = [] then c
  else
    { c with
      controlPlane := { c.controlPlane with hosts := defaultHosts c.controlPlane.hosts }
      staticWorkers := c.staticWorkers.mapIdx fun idx h =>
        numberedHost [] (idx + c.controlPlane.hosts.length) h }

def setDefaultsNodeSets (ns : NodeSet) : NodeSet :=
  { ns with
    replicas := if ns.replicas = 0 then 1 else ns.replicas
    nodeSettings := { ns.nodeSettings with
      taints := ns.nodeSettings.taints.or (some [controlPlaneTaint]) }
    ssh :=
      { ns.ssh with
        port := defaults ns.ssh.port 22
        bastionPort := defaults ns.ssh.bastionPort 22
        username := defaults ns.ssh.username "root"
        bastionUser := defaults ns.ssh.bastionUser "root"
        agentSocket := defaults ns.ssh.agentSocket "env:SSH_AUTH_SOCK" } }

def setDefaultsNodeSet (c : KubeOneCluster) : KubeOneCluster :=
  { c with controlPlane := { c.controlPlane with
      nodeSets := c.controlPlane.nodeSets.map (List.map setDefaultsNodeSets) } }

def setDefaultsCloudProvider (c : KubeOneCluster) : KubeOneCluster :=
  if c.cloudProvider.noProvider = false ∧ c.cloudProvider.vmwareCloudDirector = false then
    { c with cloudProvider := { c.cloudProvider with external := true } }
  else c

def setDefaultsAPIEndpoints (c : KubeOneCluster) : KubeOneCluster :=
  { c with apiEndpointPort := defaults c.apiEndpointPort 6443 }

def trimV (version : String) : String :=
  match version.toList with
  | 'v' :: rest => .ofList rest
  | _ => version

def setDefaultsVersions (c : KubeOneCluster) : KubeOneCluster :=
  { c with kubernetes := trimV c.kubernetes }

def setDefaultsContainerRuntime (c : KubeOneCluster) : KubeOneCluster :=
  { c with containerd := some ((c.containerd.getD none).or (some true)) }

def defaultIPv4 (n : ClusterNetworkConfig) : ClusterNetworkConfig :=
  { n with
    podSubnet := defaults n.podSubnet "10.244.0.0/16"
    serviceSubnet := defaults n.serviceSubnet "10.96.0.0/12"
    nodeCIDRMaskSizeIPv4 := defaults n.nodeCIDRMaskSizeIPv4 (some 24) }

def defaultIPv6 (n : ClusterNetworkConfig) : ClusterNetworkConfig :=
  { n with
    podSubnetIPv6 := defaults n.podSubnetIPv6 "fd01::/48"
    serviceSubnetIPv6 := defaults n.serviceSubnetIPv6 "fd02::/120"
    nodeCIDRMaskSizeIPv6 := defaults n.nodeCIDRMaskSizeIPv6 (some 64) }

def defaultSubnets (n : ClusterNetworkConfig) : ClusterNetworkConfig :=
  let n := if n.ipFamily = .unset then { n with ipFamily := .ipv4 } else n
  match n.ipFamily with
  | .ipv4 => defaultIPv4 n
  | .ipv6 => defaultIPv6 n
  | .ipv4ipv6 | .ipv6ipv4 => defaultIPv6 (defaultIPv4 n)
  | .unset | .other _ => n

/-- The MTU that Canal gets. The ones of the providers are defaults for a value that is set. -/
def defaultCanalMTU (p : CloudProviderSpec) : ℤ :=
  if p.aws.isSome then defaults 1450 8951
  else if p.gce.isSome then defaults 1450 1410
  else if p.hetzner.isSome then defaults 1450 1400
  else if p.openstack.isSome then defaults 1450 1400
  else 1450

def defaultCNI (mtu : ℤ) (cni : Option CNI) : CNI :=
  let cni := cni.getD { canal := some { mtu := mtu } }
  { cni with canal := cni.canal.map fun canal => if canal.mtu = 0 then { mtu := mtu } else canal }

def ProviderSpec.withControlPlane (p : ProviderSpec) : ProviderSpec :=
  { p with controlPlane := p.controlPlane.or (some {}) }

/-- The first provider that is configured gets settings of the control plane. -/
def defaultControlPlane (p : CloudProviderSpec) : CloudProviderSpec :=
  if p.aws.isSome then { p with aws := p.aws.map (·.withControlPlane) }
  else if p.gce.isSome then { p with gce := p.gce.map (·.withControlPlane) }
  else if p.hetzner.isSome then { p with hetzner := p.hetzner.map (·.withControlPlane) }
  else if p.openstack.isSome then { p with openstack := p.openstack.map (·.withControlPlane) }
  else { p with digitalOcean := p.digitalOcean.map (·.withControlPlane) }

def setDefaultsClusterNetwork (c : KubeOneCluster) : KubeOneCluster :=
  let n := defaultSubnets c.clusterNetwork
  { c with
    clusterNetwork := { n with
      serviceDomainName := defaults n.serviceDomainName "cluster.local"
      nodePortRange := defaults n.nodePortRange "30000-32767"
      cni := some (defaultCNI (defaultCanalMTU c.cloudProvider) n.cni) }
    cloudProvider :=
      if c.controlPlane.nodeSets.isSome then defaultControlPlane c.cloudProvider
      else c.cloudProvider }

/-- The proxy is not used for the network of the cluster. What is there already comes last. -/
def noProxy (n : ClusterNetworkConfig) (old : String) : String :=
  ",".intercalate (["127.0.0.1/8,localhost", n.serviceDomainName, n.podSubnet, n.serviceSubnet] ++
    if old ≠ "" then [old] else [])

def setDefaultsProxy (c : KubeOneCluster) : KubeOneCluster :=
  if c.proxy.http = "" ∧ c.proxy.https = "" then c
  else { c with proxy := { c.proxy with noProxy := noProxy c.clusterNetwork c.proxy.noProxy } }

def setDefaultsLoggingConfig (c : KubeOneCluster) : KubeOneCluster :=
  { c with loggingConfig :=
      { containerLogMaxSize := defaults c.loggingConfig.containerLogMaxSize "100Mi"
        containerLogMaxFiles := defaults c.loggingConfig.containerLogMaxFiles 5 } }

def setDefaultsJournald (c : KubeOneCluster) : KubeOneCluster :=
  { c with journaldSystemMaxUse := defaults c.journaldSystemMaxUse "5G" }

def setDefaultsMachineController (c : KubeOneCluster) : KubeOneCluster :=
  { c with machineController := c.machineController.or (some (!c.cloudProvider.noProvider)) }

/-- The machine controller has been decided on before. -/
def setDefaultsOperatingSystemManager (c : KubeOneCluster) : KubeOneCluster :=
  { c with operatingSystemManager := c.operatingSystemManager.or c.machineController }

def defaultHelmRelease (r : HelmRelease) : HelmRelease :=
  { r with
    releaseName := if r.releaseName = "" then r.chart else r.releaseName
    waitTimeout := if r.waitTimeout = 0 then 5 * 60 * 1000000000 else r.waitTimeout }

def setDefaultsAddons (c : KubeOneCluster) : KubeOneCluster :=
  let addons := c.addons.getD {}
  { c with addons := some { addons with
      addons := addons.addons.map fun ad =>
        { ad with helmRelease := ad.helmRelease.map defaultHelmRelease } } }

def setDefaultsSystemPackages (c : KubeOneCluster) : KubeOneCluster :=
  { c with systemPackages := c.systemPackages.or (some true) }

def defaultStaticAuditLogConfig (l : StaticAuditLogConfig) : StaticAuditLogConfig where
  logPath := defaults l.logPath "/var/log/kubernetes/audit.log"
  logMaxAge := defaults l.logMaxAge 30
  logMaxBackup := defaults l.logMaxBackup 3
  logMaxSize := defaults l.logMaxSize 100

def defaultOpenIDConnect (o : OpenIDConnectConfig) : OpenIDConnectConfig where
  clientID := defaults o.clientID "kubernetes"
  usernameClaim := defaults o.usernameClaim "sub"
  usernamePrefix := defaults o.usernamePrefix "oidc:"
  groupsClaim := defaults o.groupsClaim "groups"
  groupsPrefix := defaults o.groupsPrefix "oidc:"
  signingAlgs := defaults o.signingAlgs "RS256"

def defaultFeatures (f : Features) : Features where
  coreDNS :=
    let dns := f.coreDNS.getD {}
    some
      { replicas := dns.replicas.or (some 2)
        deployPodDisruptionBudget := dns.deployPodDisruptionBudget.or (some true) }
  metricsServer := f.metricsServer.or (some true)
  staticAuditLog := f.staticAuditLog.map fun l =>
    if l.enable then { l with config := defaultStaticAuditLogConfig l.config } else l
  openIDConnect := f.openIDConnect.map fun o =>
    if o.enable then { o with config := defaultOpenIDConnect o.config } else o
  nodeLocalDNS := f.nodeLocalDNS.or (some true)

def setDefaultsFeatures (c : KubeOneCluster) : KubeOneCluster :=
  { c with features := defaultFeatures c.features }

structure CipherSuites where
  apiServer : List String
  etcd : List String
  kubelet : List String

section Cluster

variable (suites : CipherSuites)

def setDefaultsTLSCipherSuites (c : KubeOneCluster) : KubeOneCluster :=
  { c with tlsCipherSuites :=
      { apiServer := c.tlsCipherSuites.apiServer.or (some suites.apiServer)
        etcd := c.tlsCipherSuites.etcd.or (some suites.etcd)
        kubelet := c.tlsCipherSuites.kubelet.or (some suites.kubelet) } }

def setDefaultsCABundle (c : KubeOneCluster) : KubeOneCluster :=
  if c.caBundle ≠ "" ∧ c.certificateAuthorityBundle = "" then
    { c with certificateAuthorityBundle := c.caBundle }
  else c

def setDefaultsKubeOneCluster (c : KubeOneCluster) : KubeOneCluster :=
  let c := setDefaultsHosts c
  let c := setDefaultsNodeSet c
  let c := setDefaultsCloudProvider c
  let c := setDefaultsAPIEndpoints c
  let c := setDefaultsVersions c
  let c := setDefaultsContainerRuntime c
  let c := setDefaultsClusterNetwork c
  let c := setDefaultsProxy c
  let c := setDefaultsLoggingConfig c
  let c := setDefaultsJournald c
  let c := setDefaultsMachineController c
  let c := setDefaultsOperatingSystemManager c
  let c := setDefaultsAddons c
  let c := setDefaultsSystemPackages c
  let c := setDefaultsFeatures c
  let c := setDefaultsTLSCipherSuites suites c
  setDefaultsCABundle c

end Cluster

end KubeOne.Apis.V1beta3
