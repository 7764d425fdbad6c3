import KubeOne.Apis.V1beta2.Defaults
import KubeOne.Config.Types
import KubeOne.Text.Base64

/-! Loading a manifest. A document of one of the API versions is decoded strictly, defaulted and
converted to the internal version. A field that is missing or null has the zero value of its type.
Of the fields that no default and no conversion touches, a manifest keeps what is written. -/

namespace KubeOne.Config

open Yamled KubeOne.Config.Types
open Apis (V1beta2.KubeOneCluster V1beta3.KubeOneCluster)
open Apis.V1beta3 hiding KubeOneCluster

def field (n : Node) (k : String) : Node := (n.child (.key k)).getD .null

def text : Node → String
  | .scalar (.str s) => s
  | _ => ""

def bytes (n : Node) : List UInt8 := (Text.Base64.decode (text n).toList).getD []

def flag : Node → Bool
  | .scalar (.bool b) => b
  | _ => false

def int : Node → ℤ
  | .scalar (.number n) => n.num
  | _ => 0

def elements : Node → List Node
  | .seq items => items
  | _ => []

def members : Node → List (String × Node)
  | .mapSlice items => items.map fun item => (item.1.text, item.2)
  | _ => []

def optional {α : Type} (read : Node → α) (n : Node) : Option α :=
  if n = .null then none else some (read n)

def textMap (n : Node) : List (String × String) := (members n).map fun m => (m.1, text m.2)

def readTaint (n : Node) : Taint where
  key := text (field n "key")
  value := text (field n "value")
  effect := text (field n "effect")

def readTaints : Node → Option (List Taint) := optional fun n => (elements n).map readTaint

def readOperatingSystem (s : String) : OperatingSystemName :=
  if s = "" then .unknown
  else if s = "ubuntu" then .ubuntu
  else if s = "debian" then .debian
  else if s = "centos" then .centos
  else if s = "rhel" then .rhel
  else if s = "rockylinux" then .rockylinux
  else if s = "flatcar" then .flatcar
  else .other s

def readKubelet (n : Node) : KubeletConfig where
  maxPods := optional int (field n "maxPods")
  imageGCHighThresholdPercent := optional int (field n "imageGCHighThresholdPercent")
  imageGCLowThresholdPercent := optional int (field n "imageGCLowThresholdPercent")

def readHost (n : Node) : HostConfig where
  publicAddress := text (field n "publicAddress")
  privateAddress := text (field n "privateAddress")
  sshPort := int (field n "sshPort")
  sshUsername := text (field n "sshUsername")
  sshPrivateKeyFile := text (field n "sshPrivateKeyFile")
  sshAgentSocket := text (field n "sshAgentSocket")
  bastionPort := int (field n "bastionPort")
  bastionUser := text (field n "bastionUser")
  isLeader := flag (field n "isLeader")
  taints := readTaints (field n "taints")
  hostname := text (field n "hostname")
  ipv6Addresses := (elements (field n "ipv6Addresses")).map text
  labels := textMap (field n "labels")
  annotations := textMap (field n "annotations")
  kubelet := readKubelet (field n "kubelet")
  operatingSystem := readOperatingSystem (text (field n "operatingSystem"))
  sshCertFile := text (field n "sshCertFile")
  sshHostPublicKey := bytes (field n "sshHostPublicKey")
  bastion := text (field n "bastion")
  bastionHostPublicKey := bytes (field n "bastionHostPublicKey")

def readSSH (n : Node) : SSHSpec where
  port := int (field n "port")
  username := text (field n "username")
  privateKeyFile := text (field n "privateKeyFile")
  certFile := text (field n "certFile")
  hostPublicKey := bytes (field n "hostPublicKey")
  agentSocket := text (field n "agentSocket")
  bastion := text (field n "bastion")
  bastionPort := int (field n "bastionPort")
  bastionUser := text (field n "bastionUser")
  bastionHostPublicKey := bytes (field n "bastionHostPublicKey")

def readNodeSettings (n : Node) : NodeSettingsSpec where
  labels := optional textMap (field n "labels")
  annotations := textMap (field n "annotations")
  taints := readTaints (field n "taints")

def readNodeSet (n : Node) : NodeSet where
  name := text (field n "name")
  replicas := int (field n "replicas")
  nodeSettings := readNodeSettings (field n "nodeSettings")
  operatingSystem := readOperatingSystem (text (field n "operatingSystem"))
  ssh := readSSH (field n "ssh")

def readControlPlane (n : Node) : ControlPlaneConfig where
  hosts := (elements (field n "hosts")).map readHost
  nodeSets := optional (fun n => (elements n).map readNodeSet) (field n "nodeSets")

def readProvider (n : Node) : ProviderSpec where
  controlPlane := optional (fun n => { name := text (field (field n "loadBalancer") "name") })
    (field n "controlPlane")

def readCloudProvider (n : Node) : CloudProviderSpec where
  external := flag (field n "external")
  aws := optional readProvider (field n "aws")
  digitalOcean := optional readProvider (field n "digitalocean")
  gce := optional readProvider (field n "gce")
  hetzner := optional readProvider (field n "hetzner")
  openstack := optional readProvider (field n "openstack")
  vmwareCloudDirector := field n "vmwareCloudDirector" ≠ .null
  noProvider := field n "none" ≠ .null

def readIPFamily (s : String) : IPFamily :=
  if s = "" then .unset
  else if s = "IPv4" then .ipv4
  else if s = "IPv6" then .ipv6
  else if s = "IPv4+IPv6" then .ipv4ipv6
  else if s = "IPv6+IPv4" then .ipv6ipv4
  else .other s

def readCNI (n : Node) : CNI where
  canal := optional (fun n => { mtu := int (field n "mtu") }) (field n "canal")
  cilium := optional (fun n => { kubeProxyReplacement := flag (field n "kubeProxyReplacement") })
    (field n "cilium")

def readClusterNetwork (n : Node) : ClusterNetworkConfig where
  podSubnet := text (field n "podSubnet")
  podSubnetIPv6 := text (field n "podSubnetIPv6")
  serviceSubnet := text (field n "serviceSubnet")
  serviceSubnetIPv6 := text (field n "serviceSubnetIPv6")
  serviceDomainName := text (field n "serviceDomainName")
  nodePortRange := text (field n "nodePortRange")
  cni := optional readCNI (field n "cni")
  ipFamily := readIPFamily (text (field n "ipFamily"))
  nodeCIDRMaskSizeIPv4 := optional int (field n "nodeCIDRMaskSizeIPv4")
  nodeCIDRMaskSizeIPv6 := optional int (field n "nodeCIDRMaskSizeIPv6")

def readProxy (n : Node) : ProxyConfig where
  http := text (field n "http")
  https := text (field n "https")
  noProxy := text (field n "noProxy")

def readCoreDNS (n : Node) : CoreDNS where
  replicas := optional int (field n "replicas")
  deployPodDisruptionBudget := optional flag (field n "deployPodDisruptionBudget")

def readStaticAuditLog (n : Node) : StaticAuditLog where
  enable := flag (field n "enable")
  config :=
    let n := field n "config"
    { logPath := text (field n "logPath")
      logMaxAge := int (field n "logMaxAge")
      logMaxBackup := int (field n "logMaxBackup")
      logMaxSize := int (field n "logMaxSize") }

def readOpenIDConnect (n : Node) : OpenIDConnect where
  enable := flag (field n "enable")
  config :=
    let n := field n "config"
    { clientID := text (field n "clientId")
      usernameClaim := text (field n "usernameClaim")
      usernamePrefix := text (field n "usernamePrefix")
      groupsClaim := text (field n "groupsClaim")
      groupsPrefix := text (field n "groupsPrefix")
      signingAlgs := text (field n "signingAlgs") }

def readFeatures (n : Node) : Features where
  coreDNS := optional readCoreDNS (field n "coreDNS")
  metricsServer := optional (fun n => flag (field n "enable")) (field n "metricsServer")
  staticAuditLog := optional readStaticAuditLog (field n "staticAuditLog")
  openIDConnect := optional readOpenIDConnect (field n "openidConnect")
  nodeLocalDNS := optional (fun n => flag (field n "deploy")) (field n "nodeLocalDNS")

def readLoggingConfig (n : Node) : LoggingConfig where
  containerLogMaxSize := text (field n "containerLogMaxSize")
  containerLogMaxFiles := int (field n "containerLogMaxFiles")

def readCipherSuites : Node → Option (List String) := optional fun n => (elements n).map text

def readTLSCipherSuites (n : Node) : TLSCipherSuites where
  apiServer := readCipherSuites (field n "apiServer")
  etcd := readCipherSuites (field n "etcd")
  kubelet := readCipherSuites (field n "kubelet")

def readCommon (n : Node) : V1beta3.KubeOneCluster where
  controlPlane := readControlPlane (field n "controlPlane")
  apiEndpointHost := text (field (field n "apiEndpoint") "host")
  apiEndpointPort := int (field (field n "apiEndpoint") "port")
  apiEndpointAlternativeNames :=
    (elements (field (field n "apiEndpoint") "alternativeNames")).map text
  cloudProvider := readCloudProvider (field n "cloudProvider")
  kubernetes := text (field (field n "versions") "kubernetes")
  containerd := optional
    (fun n => optional flag (field n "deviceOwnershipFromSecurityContext"))
    (field (field n "containerRuntime") "containerd")
  clusterNetwork := readClusterNetwork (field n "clusterNetwork")
  proxy := readProxy (field n "proxy")
  staticWorkers := (elements (field (field n "staticWorkers") "hosts")).map readHost
  machineController := optional (fun n => flag (field n "deploy")) (field n "machineController")
  operatingSystemManager :=
    optional (fun n => flag (field n "deploy")) (field n "operatingSystemManager")
  caBundle := text (field n "caBundle")
  certificateAuthorityBundle := text (field (field n "certificateAuthority") "bundle")
  features := readFeatures (field n "features")
  systemPackages :=
    optional (fun n => flag (field n "configureRepositories")) (field n "systemPackages")
  loggingConfig := readLoggingConfig (field n "loggingConfig")
  journaldSystemMaxUse := text (field (field n "journald") "systemMaxUse")
  tlsCipherSuites := readTLSCipherSuites (field n "tlsCipherSuites")

def readAddon (n : Node) : Addon where
  name := text (field n "name")
  params := textMap (field n "params")
  disableTemplating := flag (field n "disableTemplating")
  delete := flag (field n "delete")

def readHelmAuth (n : Node) : HelmAuth where
  username := text (field n "username")
  password := text (field n "password")

/-- Values that are null are there, too. -/
def readHelmValues (n : Node) : HelmValues where
  valuesFile := text (field n "valuesFile")
  inline := n.child (.key "inline")

section Formats

variable (F : Formats)

def readDuration (n : Node) : ℤ := (F.parseDuration (text n)).getD 0

def readHelmRelease (n : Node) : HelmRelease where
  chart := text (field n "chart")
  repoURL := text (field n "repoURL")
  chartURL := text (field n "chartURL")
  version := text (field n "version")
  releaseName := text (field n "releaseName")
  namespaceName := text (field n "namespace")
  wait := flag (field n "wait")
  insecure := flag (field n "insecure")
  waitTimeout := readDuration F (field n "timeout")
  values := (elements (field n "values")).map readHelmValues
  auth := optional readHelmAuth (field n "auth")

def readAddonRef (n : Node) : AddonRef where
  addon := optional readAddon (field n "addon")
  helmRelease := optional (readHelmRelease F) (field n "helmRelease")

def readAddons (n : Node) : Addons where
  path := text (field n "path")
  addons := (elements (field n "addons")).map (readAddonRef F)

def readOldAddons (n : Node) : Apis.V1beta2.Addons where
  enable := flag (field n "enable")
  path := text (field n "path")
  globalParams := textMap (field n "globalParams")
  addons := (elements (field n "addons")).map readAddon

def readV1beta3 (n : Node) : V1beta3.KubeOneCluster :=
  { readCommon n with addons := optional (readAddons F) (field n "addons") }

def readV1beta2 (n : Node) : V1beta2.KubeOneCluster where
  common := readCommon n
  kubeProxyReplacement := text
    (field (field (field (field n "clusterNetwork") "cni") "cilium") "kubeProxyReplacement")
  addons := optional readOldAddons (field n "addons")
  helmReleases := (elements (field n "helmReleases")).map (readHelmRelease F)

structure Manifest (Cluster : Type) where
  cluster : Cluster
  /-- What is written for the fields that are alike in both versions. -/
  written : List Node

/-- The fields that are alike in both versions, but for the API endpoint. -/
def alikeFields : List String :=
  ["kind", "name", "controlPlane", "kubeletConfig", "cloudProvider", "versions",
   "containerRuntime", "clusterNetwork", "proxy", "staticWorkers", "dynamicWorkers",
   "machineController", "operatingSystemManager", "caBundle", "certificateAuthority", "features",
   "systemPackages", "registryConfiguration", "loggingConfig", "journald", "tlsCipherSuites",
   "controlPlaneComponents"]

def groupVersion : Version → String
  | .v1beta2 => "kubeone.k8c.io/v1beta2"
  | .v1beta3 => "kubeone.k8c.io/v1beta3"

def unmarshalStrict (v : Version) (d : Document) : Option Node :=
  (normal F.numberText (.mapSlice d.root)).filter fun n => accepts F (kubeOneCluster v) n

def decodeInto (v : Version) (d : Document) : Option Node :=
  (unmarshalStrict F v d).filter fun n =>
    text (field n "apiVersion") = groupVersion v ∧ text (field n "kind") = "KubeOneCluster"

end Formats

variable (F : Formats) (suites : CipherSuites)

/-- The decoder of the scheme fills in the defaults once. -/
def decodeV1beta2 (d : Document) : Option (Manifest V1beta2.KubeOneCluster) :=
  (decodeInto F .v1beta2 d).map fun n =>
    ⟨Apis.V1beta2.setDefaultsKubeOneCluster suites (readV1beta2 F n), alikeFields.map (field n)⟩

def decodeV1beta3 (d : Document) : Option (Manifest V1beta3.KubeOneCluster) :=
  (decodeInto F .v1beta3 d).map fun n =>
    ⟨setDefaultsKubeOneCluster suites (readV1beta3 F n), alikeFields.map (field n)⟩

def defaultedV1Beta2KubeOneCluster (m : Manifest V1beta2.KubeOneCluster) :
    Manifest V1beta3.KubeOneCluster where
  cluster := Apis.V1beta2.convertKubeOneCluster
    (Apis.V1beta2.setDefaultsKubeOneCluster suites m.cluster)
  written := m.written

def defaultedV1Beta3KubeOneCluster (m : Manifest V1beta3.KubeOneCluster) :
    Manifest V1beta3.KubeOneCluster where
  cluster := setDefaultsKubeOneCluster suites m.cluster
  written := m.written

end KubeOne.Config
