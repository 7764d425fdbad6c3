import KubeOne.Config.Schema
import Mathlib.Algebra.Ring.Int.Defs

/-! The types of the manifests in the API versions `v1beta2` and `v1beta3`: the fields that are
decoded, by their JSON names. Where the versions differ, a field stands in the list of its
version. -/

namespace KubeOne.Config.Types

inductive Version
  | v1beta2
  | v1beta3

abbrev int32 : Schema := .int (-2 ^ 31) (2 ^ 31 - 1)
abbrev int64 : Schema := .int (-2 ^ 63) (2 ^ 63 - 1)
abbrev uint32 : Schema := .int 0 (2 ^ 32 - 1)

def taint : Schema :=
  .object [("key", .string), ("value", .string), ("effect", .string), ("timeAdded", .pointer .time)]

def kubeletConfig (v : Version) : Schema :=
  .object (
    [("systemReserved", .map .string), ("kubeReserved", .map .string),
     ("evictionHard", .map .string), ("maxPods", .pointer int32),
     ("imageGCHighThresholdPercent", .pointer int32),
     ("imageGCLowThresholdPercent", .pointer int32), ("imageMinimumGCAge", .duration),
     ("imageMaximumGCAge", .duration)] ++
    match v with
    | .v1beta2 => []
    | .v1beta3 => [("podPidsLimit", .pointer int64)])

def hostConfig (v : Version) : Schema :=
  .object
    [("publicAddress", .string), ("ipv6Addresses", .list .string), ("privateAddress", .string),
     ("sshPort", int64), ("sshUsername", .string), ("sshPrivateKeyFile", .string),
     ("sshCertFile", .string), ("sshHostPublicKey", .bytes), ("sshAgentSocket", .string),
     ("bastion", .string), ("bastionPort", int64), ("bastionUser", .string),
     ("bastionHostPublicKey", .bytes), ("bastionPrivateKeyFile", .string), ("hostname", .string),
     ("isLeader", .bool), ("taints", .list taint), ("labels", .map .string),
     ("annotations", .map .string), ("kubelet", kubeletConfig v), ("operatingSystem", .string)]

def nodeSettingsSpec : Schema :=
  .object [("labels", .map .string), ("annotations", .map .string), ("taints", .list taint)]

def operatingSystemSpec : Schema := .object [("distUpgradeOnBoot", .bool)]

def sshSpec : Schema :=
  .object
    [("publicKeys", .list .string), ("port", int64), ("username", .string),
     ("privateKeyFile", .string), ("certFile", .string), ("hostPublicKey", .bytes),
     ("agentSocket", .string), ("bastion", .string), ("bastionPort", int64),
     ("bastionUser", .string), ("bastionHostPublicKey", .bytes)]

def nodeSet : Schema :=
  .object
    [("name", .string), ("replicas", int64), ("generation", int64),
     ("nodeSettings", nodeSettingsSpec), ("operatingSystem", .string),
     ("operatingSystemSpec", operatingSystemSpec), ("ssh", sshSpec), ("cloudProviderSpec", .raw)]

def controlPlaneConfig (v : Version) : Schema :=
  .object [("hosts", .list (hostConfig v)), ("nodeSets", .list nodeSet)]

def apiEndpoint : Schema :=
  .object [("host", .string), ("port", int64), ("alternativeNames", .list .string)]

def awsLoadBalancer : Schema :=
  .object
    [("name", .string), ("internal", .pointer .bool), ("securityGroupIDs", .list .string),
     ("tags", .map .string)]

def awsControlPlane : Schema := .object [("loadBalancer", awsLoadBalancer)]

def awsSpec : Schema := .object [("region", .string), ("controlPlane", .pointer awsControlPlane)]

def azureLoadBalancer : Schema :=
  .object
    [("name", .string), ("resourceGroup", .string), ("location", .string), ("sku", .string),
     ("publicIPName", .string)]

def azureControlPlane : Schema := .object [("loadBalancer", azureLoadBalancer)]

def azureSpec : Schema := .object [("controlPlane", .pointer azureControlPlane)]

def digitalOceanLoadBalancer : Schema :=
  .object [("id", .string), ("name", .string), ("region", .string), ("sizeUnit", uint32)]

def digitalOceanControlPlane : Schema := .object [("loadBalancer", digitalOceanLoadBalancer)]

def digitalOceanSpec : Schema := .object [("controlPlane", .pointer digitalOceanControlPlane)]

def gceLoadBalancer : Schema :=
  .object
    [("projectID", .string), ("region", .string), ("network", .string), ("name", .string),
     ("allowedSourceRanges", .list .string)]

def gceControlPlane : Schema := .object [("loadBalancer", gceLoadBalancer)]

def gceSpec : Schema := .object [("controlPlane", .pointer gceControlPlane)]

def hetznerLoadBalancer : Schema :=
  .object
    [("name", .string), ("type", .string), ("location", .string), ("publicIP", .pointer .bool),
     ("labels", .map .string)]

def hetznerControlPlane : Schema := .object [("loadBalancer", hetznerLoadBalancer)]

def hetznerSpec : Schema :=
  .object [("networkID", .string), ("controlPlane", .pointer hetznerControlPlane)]

def kubevirtLoadBalancer : Schema :=
  .object [("name", .string), ("serviceType", .string), ("annotations", .map .string)]

def kubevirtControlPlane : Schema := .object [("loadBalancer", kubevirtLoadBalancer)]

def kubevirtSpec : Schema :=
  .object
    [("infraNamespace", .string), ("zoneAndRegionEnabled", .bool), ("loadBalancerEnabled", .bool),
     ("controlPlane", .pointer kubevirtControlPlane)]

def nutanixSpec : Schema := .object []

def openstackLoadBalancer : Schema := .object [("name", .string), ("poolID", .string)]

def openstackControlPlane : Schema := .object [("loadBalancer", openstackLoadBalancer)]

def openstackSpec : Schema := .object [("controlPlane", .pointer openstackControlPlane)]

def equinixMetalSpec : Schema := .object []

def vmwareCloudDirectorSpec : Schema := .object [("vApp", .string), ("storageProfile", .string)]

def vsphereSpec : Schema := .object []

def noneSpec : Schema := .object []

def cloudProviderSpec : Schema :=
  .object
    [("external", .bool), ("disableBundledCSIDrivers", .bool), ("cloudConfig", .string),
     ("csiConfig", .string), ("secretProviderClassName", .string), ("aws", .pointer awsSpec),
     ("azure", .pointer azureSpec), ("digitalocean", .pointer digitalOceanSpec),
     ("gce", .pointer gceSpec), ("hetzner", .pointer hetznerSpec),
     ("kubevirt", .pointer kubevirtSpec), ("nutanix", .pointer nutanixSpec),
     ("openstack", .pointer openstackSpec), ("equinixmetal", .pointer equinixMetalSpec),
     ("vmwareCloudDirector", .pointer vmwareCloudDirectorSpec), ("vsphere", .pointer vsphereSpec),
     ("none", .pointer noneSpec)]

def versionConfig : Schema := .object [("kubernetes", .string)]

def containerRuntimeDocker : Schema := .object [("registryMirrors", .list .string)]

def containerdTLSConfig : Schema := .object [("insecureSkipVerify", .bool)]

def containerdRegistryAuthConfig : Schema :=
  .object
    [("username", .string), ("password", .string), ("auth", .string), ("identityToken", .string)]

def containerdRegistry : Schema :=
  .object
    [("mirrors", .list .string), ("overridePath", .bool),
     ("tlsConfig", .pointer containerdTLSConfig), ("auth", .pointer containerdRegistryAuthConfig)]

def containerRuntimeContainerd : Schema :=
  .object
    [("registries", .map containerdRegistry),
     ("deviceOwnershipFromSecurityContext", .pointer .bool), ("sandboxImage", .string)]

def containerRuntimeConfig (v : Version) : Schema :=
  .object (
    [("containerd", .pointer containerRuntimeContainerd)] ++
    match v with
    | .v1beta2 => [("docker", .pointer containerRuntimeDocker)]
    | .v1beta3 => [])

def canalSpec : Schema := .object [("mtu", int64)]

def ciliumSpec (v : Version) : Schema :=
  .object (
    [("enableHubble", .bool), ("enableL2Announcements", .bool), ("enableGatewayAPI", .bool),
     ("enableLocalRedirectPolicy", .bool)] ++
    match v with
    | .v1beta2 => [("kubeProxyReplacement", .string)]
    | .v1beta3 => [("kubeProxyReplacement", .bool)])

def weaveNetSpec : Schema := .object [("encrypted", .bool)]

def externalCNISpec : Schema := .object []

def cni (v : Version) : Schema :=
  .object
    [("canal", .pointer canalSpec), ("cilium", .pointer (ciliumSpec v)),
     ("weaveNet", .pointer weaveNetSpec), ("external", .pointer externalCNISpec)]

def ipvsConfig : Schema :=
  .object
    [("scheduler", .string), ("excludeCIDRs", .list .string), ("strictARP", .bool),
     ("tcpTimeout", .duration), ("tcpFinTimeout", .duration), ("udpTimeout", .duration)]

def ipTables : Schema := .object []

def kubeProxyConfig : Schema :=
  .object
    [("skipInstallation", .bool), ("ipvs", .pointer ipvsConfig), ("iptables", .pointer ipTables)]

def clusterNetworkConfig (v : Version) : Schema :=
  .object
    [("podSubnet", .string), ("podSubnetIPv6", .string), ("serviceSubnet", .string),
     ("serviceSubnetIPv6", .string), ("serviceDomainName", .string), ("nodePortRange", .string),
     ("cni", .pointer (cni v)), ("kubeProxy", .pointer kubeProxyConfig), ("ipFamily", .string),
     ("nodeCIDRMaskSizeIPv4", .pointer int64), ("nodeCIDRMaskSizeIPv6", .pointer int64),
     ("clusterDNS", .list .string)]

def proxyConfig : Schema := .object [("http", .string), ("https", .string), ("noProxy", .string)]

def staticWorkersConfig (v : Version) : Schema := .object [("hosts", .list (hostConfig v))]

def dnsConfig : Schema := .object [("servers", .list .string)]

def providerStaticNetworkConfig : Schema :=
  .object [("cidr", .string), ("gateway", .string), ("dns", dnsConfig), ("ipFamily", .string)]

def providerSpec (v : Version) : Schema :=
  .object (
    [("cloudProviderSpec", .raw), ("annotations", .map .string), ("nodeAnnotations", .map .string),
     ("machineObjectAnnotations", .map .string), ("labels", .map .string), ("taints", .list taint),
     ("sshPublicKeys", .list .string), ("operatingSystem", .string), ("operatingSystemSpec", .raw),
     ("network", .pointer providerStaticNetworkConfig),
     ("overwriteCloudConfig", .pointer .string)] ++
    match v with
    | .v1beta2 => [("machineAnnotations", .map .string)]
    | .v1beta3 => [])

def dynamicWorkerConfig (v : Version) : Schema :=
  .object [("name", .string), ("replicas", .pointer int64), ("providerSpec", providerSpec v)]

def machineControllerConfig : Schema := .object [("deploy", .bool)]

def operatingSystemManagerConfig : Schema :=
  .object [("deploy", .bool), ("enableNonRootDeviceOwnership", .bool)]

def certificateAuthorithyConfig : Schema :=
  .object
    [("bundle", .string), ("file", .string), ("certificateValidityPeriod", .pointer .duration),
     ("caCertificateValidityPeriod", .pointer .duration)]

def coreDNS : Schema :=
  .object
    [("replicas", .pointer int32), ("deployPodDisruptionBudget", .pointer .bool),
     ("imageRepository", .string)]

def alwaysPullImages : Schema := .object [("enable", .bool)]

def eventRateLimitConfig : Schema := .object [("configFilePath", .string)]

def eventRateLimit : Schema := .object [("enable", .bool), ("config", eventRateLimitConfig)]

def podNodeSelectorConfig : Schema := .object [("configFilePath", .string)]

def podNodeSelector : Schema := .object [("enable", .bool), ("config", podNodeSelectorConfig)]

def podSecurityPolicy : Schema := .object [("enable", .bool)]

def staticAuditLogConfig : Schema :=
  .object
    [("policyFilePath", .string), ("logPath", .string), ("logMaxAge", int64),
     ("logMaxBackup", int64), ("logMaxSize", int64)]

def staticAuditLog : Schema := .object [("enable", .bool), ("config", staticAuditLogConfig)]

def dynamicAuditLog : Schema := .object [("enable", .bool)]

def metricsServer : Schema := .object [("enable", .bool)]

def openIDConnectConfig : Schema :=
  .object
    [("issuerUrl", .string), ("clientId", .string), ("usernameClaim", .string),
     ("usernamePrefix", .string), ("groupsClaim", .string), ("groupsPrefix", .string),
     ("requiredClaim", .string), ("signingAlgs", .string), ("caFile", .string)]

def openIDConnect : Schema := .object [("enable", .bool), ("config", openIDConnectConfig)]

def authenticationConfiguration : Schema := .object [("enable", .bool), ("configFilePath", .string)]

def encryptionProviders : Schema :=
  .object [("enable", .bool), ("customEncryptionConfiguration", .string)]

def nodeLocalDNS : Schema := .object [("deploy", .bool)]

def webHookAuditLogThrottleConfig : Schema :=
  .object [("disable", .bool), ("burst", int64), ("QPS", .float)]

def webHookAuditLogBatchConfig : Schema :=
  .object
    [("bufferSize", int64), ("maxSize", int64), ("maxWait", .duration),
     ("throttle", webHookAuditLogThrottleConfig)]

def webHookAuditLogTruncateConfig : Schema :=
  .object [("enable", .bool), ("maxBatchSize", int64), ("maxEventSize", int64)]

def webhookAuditLogConfig : Schema :=
  .object
    [("policyFilePath", .string), ("configFilePath", .string), ("initialBackOff", .duration),
     ("mode", .string), ("version", .string), ("batch", webHookAuditLogBatchConfig),
     ("truncate", webHookAuditLogTruncateConfig)]

def webhookAuditLog : Schema := .object [("enable", .bool), ("config", webhookAuditLogConfig)]

def features (v : Version) : Schema :=
  .object (
    [("coreDNS", .pointer coreDNS), ("alwaysPullImages", .pointer alwaysPullImages),
     ("eventRateLimit", .pointer eventRateLimit), ("podNodeSelector", .pointer podNodeSelector),
     ("staticAuditLog", .pointer staticAuditLog), ("dynamicAuditLog", .pointer dynamicAuditLog),
     ("metricsServer", .pointer metricsServer), ("openidConnect", .pointer openIDConnect),
     ("authenticationConfiguration", .pointer authenticationConfiguration),
     ("encryptionProviders", .pointer encryptionProviders),
     ("nodeLocalDNS", .pointer nodeLocalDNS)] ++
    match v with
    | .v1beta2 => [("podSecurityPolicy", .pointer podSecurityPolicy)]
    | .v1beta3 => [("webhookAuditLog", .pointer webhookAuditLog)])

def addon : Schema :=
  .object
    [("name", .string), ("params", .map .string), ("disableTemplating", .bool), ("delete", .bool)]

def helmValues : Schema := .object [("valuesFile", .string), ("inline", .raw)]

def helmAuth : Schema := .object [("username", .string), ("password", .string)]

def helmRelease : Schema :=
  .object
    [("chart", .string), ("repoURL", .string), ("chartURL", .string), ("version", .string),
     ("releaseName", .string), ("namespace", .string), ("wait", .bool), ("insecure", .bool),
     ("timeout", .duration), ("values", .list helmValues), ("auth", .pointer helmAuth)]

def addonRef : Schema := .object [("addon", .pointer addon), ("helmRelease", .pointer helmRelease)]

def addons (v : Version) : Schema :=
  .object (
    [("path", .string)] ++
    match v with
    | .v1beta2 => [("enable", .bool), ("globalParams", .map .string), ("addons", .list addon)]
    | .v1beta3 => [("addons", .list addonRef)])

def systemPackages : Schema := .object [("configureRepositories", .bool)]

def registryConfiguration : Schema :=
  .object [("overwriteRegistry", .string), ("insecureRegistry", .bool)]

def loggingConfig : Schema :=
  .object [("containerLogMaxSize", .string), ("containerLogMaxFiles", int32)]

def journaldConfig : Schema := .object [("systemMaxUse", .string)]

def tlsCipherSuites : Schema :=
  .object [("apiServer", .list .string), ("etcd", .list .string), ("kubelet", .list .string)]

def controlPlaneComponentConfig : Schema :=
  .object [("flags", .map .string), ("featureGates", .map .bool)]

def etcdConfig : Schema :=
  .object
    [("quotaBackendBytes", int64), ("autoCompactionRetention", .string),
     ("autoCompactionMode", .string)]

def controlPlaneComponents : Schema :=
  .object
    [("controllerManager", .pointer controlPlaneComponentConfig),
     ("scheduler", .pointer controlPlaneComponentConfig),
     ("apiServer", .pointer controlPlaneComponentConfig), ("etcd", .pointer etcdConfig)]

def kubeOneClusterFields (v : Version) : List (String × Schema) :=
  [("kind", .string), ("apiVersion", .string), ("name", .string),
   ("controlPlane", controlPlaneConfig v), ("kubeletConfig", kubeletConfig v),
   ("apiEndpoint", apiEndpoint), ("cloudProvider", cloudProviderSpec),
   ("versions", versionConfig), ("containerRuntime", containerRuntimeConfig v),
   ("clusterNetwork", clusterNetworkConfig v), ("proxy", proxyConfig),
   ("staticWorkers", staticWorkersConfig v), ("dynamicWorkers", .list (dynamicWorkerConfig v)),
   ("machineController", .pointer machineControllerConfig),
   ("operatingSystemManager", .pointer operatingSystemManagerConfig), ("caBundle", .string),
   ("certificateAuthority", certificateAuthorithyConfig), ("features", features v),
   ("addons", .pointer (addons v)), ("systemPackages", .pointer systemPackages),
   ("registryConfiguration", .pointer registryConfiguration), ("loggingConfig", loggingConfig),
   ("journald", journaldConfig), ("tlsCipherSuites", tlsCipherSuites),
   ("controlPlaneComponents", .pointer controlPlaneComponents)] ++
  match v with
  | .v1beta2 => [("helmReleases", .list helmRelease)]
  | .v1beta3 => []

def kubeOneCluster (v : Version) : Schema := .object (kubeOneClusterFields v)

end KubeOne.Config.Types
