import KubeOne.Apis.V1beta2.Defaults
import KubeOne.Text.Path

/-! The manifest that `kubeone init` writes. The answers make up a `v1beta2` cluster, and a template
prints the cluster. The template pastes texts as they are. -/

namespace KubeOne.Initcmd

open Apis.V1beta2 (Addons)
open Apis.V1beta3 (Addon)

structure InitProvider where
  alternativeName : String := ""
  terraformPath : String := ""
  external : Bool := false
  cloudConfig : String := ""
  csiConfig : String := ""

def heredoc (lines : List String) : String := .ofList (lines.flatMap fun l => l.toList ++ ['\n'])

def azureCloudConfig : List String :=
  ["\x7b",
   "    \"tenantId\": \"\x7b\x7b .Credentials.AZURE_TENANT_ID \x7d\x7d\",",
   "    \"subscriptionId\": \"\x7b\x7b .Credentials.AZURE_SUBSCRIPTION_ID \x7d\x7d\",",
   "    \"aadClientId\": \"\x7b\x7b .Credentials.AZURE_CLIENT_ID \x7d\x7d\",",
   "    \"aadClientSecret\": \"\x7b\x7b .Credentials.AZURE_CLIENT_SECRET \x7d\x7d\",",
   "    \"resourceGroup\": \"<RESOURCE-GROUP>\",",
   "    \"location\": \"<LOCATION>\",",
   "    \"subnetName\": \"<SUBNET>\",",
   "    \"routeTableName\": \"\",",
   "    \"securityGroupName\": \"<SECURITY-GROUP>\",",
   "    \"vnetName\": \"<VPC-NAME>\",",
   "    \"primaryAvailabilitySetName\": \"<AVAILABILITY-SET-NAME>\",",
   "    \"useInstanceMetadata\": true,",
   "    \"useManagedIdentityExtension\": false,",
   "    \"userAssignedIdentityID\": \"\"",
   "\x7d"]

def openstackCloudConfig : List String :=
  ["[Global]", "auth-url=<KEYSTONE-URL>", "username=<USER>", "password=<PASSWORD>",
   "tenant-id=<TENANT-ID>", "domain-name=DEFAULT", "region=<REGION>", "", "[LoadBalancer]",
   "[BlockStorage]"]

def vsphereCloudConfig : List String :=
  ["[Global]", "secret-name = \"vsphere-ccm-credentials\"", "secret-namespace = \"kube-system\"",
   "port = \"443\"", "insecure-flag = \"0\"", "", "[VirtualCenter \"<VCENTER-ADDRESS>\"]", "",
   "[Workspace]", "server = \"<VCENTER-ADDRESS>\"", "datacenter = \"<DATACENTER>\"",
   "default-datastore=\"<DATASTORE>\"", "resourcepool-path=\"\"", "folder = \"\"", "", "[Disk]",
   "scsicontrollertype = pvscsi", "", "[Network]", "public-network = \"<VM-NETWORK>\""]

def vsphereCSIConfig : List String :=
  ["[Global]", "cluster-id = \"<CLUSTER-ID>\"",
   "cluster-distribution = \"<CLUSTER-DISTRIBUTION>\"", "",
   "[VirtualCenter \"<VCENTER-ADDRESS>\"]", "insecure-flag = \"false\"", "user = \"<USERNAME>\"",
   "password = \"<PASSWORD>\"", "port = \"<PORT>\"", "datacenters = \"<DATACENTER>\""]

def validProviders : List (String × InitProvider) :=
  [("aws", { terraformPath := "terraform/aws", external := true }),
   ("azure",
    { terraformPath := "terraform/azure", external := true
      cloudConfig := heredoc azureCloudConfig }),
   ("digitalocean", { terraformPath := "terraform/digitalocean", external := true }),
   ("equinixmetal", { terraformPath := "terraform/equinixmetal", external := true }),
   ("gce", { terraformPath := "terraform/gce" }),
   ("hetzner", { terraformPath := "terraform/hetzner", external := true }),
   ("kubevirt", { external := true }),
   ("none", {}),
   ("nutanix", { terraformPath := "terraform/nutanix" }),
   ("openstack",
    { terraformPath := "terraform/openstack", external := true
      cloudConfig := heredoc openstackCloudConfig }),
   ("vmware-cloud-director",
    { alternativeName := "vmwareCloudDirector"
      terraformPath := "terraform/vmware-cloud-director" }),
   ("vsphere",
    { terraformPath := "terraform/vsphere", external := true
      cloudConfig := heredoc vsphereCloudConfig, csiConfig := heredoc vsphereCSIConfig }),
   ("vsphere/flatcar",
    { alternativeName := "vsphere", terraformPath := "terraform/vsphere_flatcar", external := true
      cloudConfig := heredoc vsphereCloudConfig, csiConfig := heredoc vsphereCSIConfig })]

/-- A name that is no key of the map has the zero value. -/
def initProvider (name : String) : InitProvider := (validProviders.lookup name).getD {}

/-- The specs of a cloud provider, in the order of their fields. -/
inductive Spec
  | aws
  | azure
  | digitalOcean
  | gce
  | hetzner
  | kubevirt
  | nutanix
  | openstack
  | equinixMetal
  | vmwareCloudDirector
  | vsphere
  | noProvider
  deriving DecidableEq

def Spec.name : Spec → String
  | .aws => "aws"
  | .azure => "azure"
  | .digitalOcean => "digitalocean"
  | .gce => "gce"
  | .hetzner => "hetzner"
  | .kubevirt => "kubevirt"
  | .nutanix => "nutanix"
  | .openstack => "openstack"
  | .equinixMetal => "equinixmetal"
  | .vmwareCloudDirector => "vmwareCloudDirector"
  | .vsphere => "vsphere"
  | .noProvider => "none"

def Spec.all : List Spec :=
  [.aws, .azure, .digitalOcean, .gce, .hetzner, .kubevirt, .nutanix, .openstack, .equinixMetal,
   .vmwareCloudDirector, .vsphere, .noProvider]

structure CloudProviderSpec where
  external : Bool := false
  cloudConfig : String := ""
  csiConfig : String := ""
  /-- The specs that are not nil; they are empty. -/
  specs : List Spec := []

def CloudProviderSpec.name (cp : CloudProviderSpec) : String :=
  match Spec.all.find? (· ∈ cp.specs) with
  | some spec => spec.name
  | none => "unknown"

structure CiliumSpec where
  enableHubble : Bool := false
  kubeProxyReplacement : String := ""
  deriving DecidableEq

structure CNI where
  canal : Bool := false
  cilium : Option CiliumSpec := none
  external : Bool := false
  deriving DecidableEq

structure KubeProxyConfig where
  skipInstallation : Bool := false

structure ClusterNetworkConfig where
  cni : Option CNI := none
  kubeProxy : Option KubeProxyConfig := none

structure EncryptionProviders where
  enable : Bool := false

structure CoreDNS where
  deployPodDisruptionBudget : Option Bool := none

structure Features where
  encryptionProviders : Option EncryptionProviders := none
  coreDNS : Option CoreDNS := none

/-- The `Deploy` of machine-controller or operating-system-manager. -/
structure DeployConfig where
  deploy : Bool := false

structure KubeOneCluster where
  apiVersion : String
  kind : String
  name : String := ""
  cloudProvider : CloudProviderSpec := {}
  kubernetes : String := ""
  /-- Whether `containerd` is not nil; it is empty. -/
  containerd : Bool := false
  clusterNetwork : ClusterNetworkConfig := {}
  features : Features := {}
  machineController : Option DeployConfig := none
  operatingSystemManager : Option DeployConfig := none
  addons : Option Addons := none
  /-- Whether there is anything in the other fields. -/
  others : Bool := false

inductive CNIValue
  | canal
  | cilium
  | ciliumReplacement
  | external
  | other (value : String)

structure GenerateOpts where
  providerName : String
  clusterName : String
  kubernetesVersion : String
  generateTerraform : Bool := false
  cni : CNIValue := .canal
  enableFeatureEncryption : Bool := false
  enableFeatureCoreDNSPDB : Bool := false
  enableAddonAutoscaler : Bool := false
  enableAddonBackups : Bool := false
  addonBackupsPassword : String := ""
  addonBackupsS3Bucket : String := ""
  addonBackupsDefaultAWSRegion : String := ""

inductive GenerateError
  /-- `provider %q is not supported` -/
  | unsupportedProvider (name : String)
  /-- `kubeone manifest testing marshal/unmarshal` -/
  | unmarshal

def supportedNames : List (String × Spec) :=
  [("aws", .aws), ("azure", .azure), ("digitalocean", .digitalOcean), ("gce", .gce),
   ("hetzner", .hetzner), ("kubevirt", .kubevirt), ("nutanix", .nutanix),
   ("openstack", .openstack), ("equinixmetal", .equinixMetal), ("packet", .equinixMetal),
   ("vmwareCloudDirector", .vmwareCloudDirector), ("vsphere", .vsphere), ("none", .noProvider)]

def setCloudProvider (cp : CloudProviderSpec) (name : String) :
    Except GenerateError CloudProviderSpec :=
  match supportedNames.lookup name with
  | some spec => .ok { cp with specs := Spec.all.filter fun s => s = spec ∨ s ∈ cp.specs }
  | none => .error (.unsupportedProvider name)

def setCNI (network : ClusterNetworkConfig) : CNIValue → ClusterNetworkConfig
  | .canal => { network with cni := some { canal := true } }
  | .cilium => { network with cni := some { cilium := some ⟨true, "disabled"⟩ } }
  | .ciliumReplacement =>
    { network with cni := some { cilium := some ⟨true, "strict"⟩ }, kubeProxy := some ⟨true⟩ }
  | .external => { network with cni := some { external := true } }
  | .other _ => network

def setFeatures (features : Features) (opts : GenerateOpts) : Features where
  encryptionProviders :=
    if opts.enableFeatureEncryption then some ⟨true⟩ else features.encryptionProviders
  coreDNS := if opts.enableFeatureCoreDNSPDB then some ⟨some true⟩ else features.coreDNS

def backupsAddon (opts : GenerateOpts) : Addon where
  name := "backups-restic"
  -- a map is the list of its entries in the order of the keys
  params := [("awsDefaultRegion", opts.addonBackupsDefaultAWSRegion),
    ("resticPassword", opts.addonBackupsPassword), ("s3Bucket", opts.addonBackupsS3Bucket)]

def additionalAddons (opts : GenerateOpts) : List Addon :=
  (if opts.enableAddonAutoscaler then [{ name := "cluster-autoscaler" }] else []) ++
    if opts.enableAddonBackups then [backupsAddon opts] else []

/-- An additional addon needs addons that are not nil. -/
def addAddons (addons : Option Addons) (opts : GenerateOpts) : Option Addons :=
  let addons :=
    if opts.enableAddonAutoscaler ∨ opts.enableAddonBackups then
      some (addons.getD { enable := true })
    else addons
  addons.map fun a => { a with addons := a.addons ++ additionalAddons opts }

def clusterAdditionalParams (cluster : KubeOneCluster) (opts : GenerateOpts) : KubeOneCluster :=
  { cluster with
    clusterNetwork := setCNI cluster.clusterNetwork opts.cni
    features := setFeatures cluster.features opts
    addons := addAddons cluster.addons opts }

/-- With Terraform the name of the cluster is left to Terraform. -/
def manifestName (opts : GenerateOpts) : String :=
  if opts.generateTerraform ∧ (initProvider opts.providerName).terraformPath ≠ "" then ""
  else opts.clusterName

def newCluster (opts : GenerateOpts) (cloudProvider : CloudProviderSpec) : KubeOneCluster :=
  let cluster : KubeOneCluster :=
    { apiVersion := "kubeone.k8c.io/v1beta2", kind := "KubeOneCluster"
      name := manifestName opts, cloudProvider, kubernetes := opts.kubernetesVersion
      containerd := true
      addons := some { enable := true, addons := [{ name := "default-storage-class" }] } }
  let cluster :=
    if .noProvider ∈ cloudProvider.specs then
      { cluster with addons := none, machineController := some ⟨false⟩
                     operatingSystemManager := some ⟨false⟩ }
    else cluster
  clusterAdditionalParams cluster opts

def clusterOf (opts : GenerateOpts) : Except GenerateError KubeOneCluster := do
  let prov := initProvider opts.providerName
  let providerName := if prov.alternativeName = "" then opts.providerName else prov.alternativeName
  let cloudProvider ← setCloudProvider
    { external := prov.external, cloudConfig := prov.cloudConfig, csiConfig := prov.csiConfig }
    providerName
  return newCluster opts cloudProvider

def boolText (b : Bool) : String := if b then "true" else "false"

def indent (spaces : ℕ) (text : String) : List String :=
  (Text.split '\n' text.toList).map fun l => .ofList (List.replicate spaces ' ' ++ l)

def typeMetaLines (c : KubeOneCluster) : List String :=
  ["apiVersion: " ++ c.apiVersion, "kind: " ++ c.kind] ++
    (if c.name = "" then [] else ["name: " ++ c.name]) ++ [""]

def versionsLines (c : KubeOneCluster) : List String :=
  ["versions:", "  kubernetes: " ++ c.kubernetes, ""]

def configLines (line : String) (config : String) : List String :=
  if config = "" then [] else line :: indent 4 config

def cloudProviderLines (cp : CloudProviderSpec) : List String :=
  ["cloudProvider:", "  " ++ cp.name ++ ": \x7b\x7d"] ++
    (if cp.external then ["  external: true", ""] else []) ++
    configLines "  cloudConfig: |" cp.cloudConfig ++ configLines "  csiConfig: |" cp.csiConfig

def containerRuntimeLines : List String := ["containerRuntime:", "  containerd: \x7b\x7d", ""]

def cniLines (cni : CNI) : List String :=
  "  cni:" :: (if cni.canal then ["    canal: \x7b\x7d", "  "] else []) ++
    (cni.cilium.elim [] fun cilium =>
      ["    cilium:", "      enableHubble: " ++ boolText cilium.enableHubble,
       "      kubeProxyReplacement: " ++ cilium.kubeProxyReplacement]) ++
    if cni.external then ["    external: \x7b\x7d"] else []

/-- Without a CNI the line is empty. -/
def clusterNetworkLines (network : ClusterNetworkConfig) : List String :=
  network.cni.elim [""] fun cni =>
    "clusterNetwork:" :: cniLines cni ++
      network.kubeProxy.elim [] fun kubeProxy =>
        ["  kubeProxy:", "    skipInstallation: " ++ boolText kubeProxy.skipInstallation]

def featuresLines (features : Features) : List String :=
  if features.encryptionProviders = none ∧ features.coreDNS = none then []
  else
    "features:" ::
      (features.encryptionProviders.elim [] fun encryption =>
        ["  encryptionProviders:", "    enable: " ++ boolText encryption.enable]) ++
      features.coreDNS.elim [] fun coreDNS =>
        ["  coreDNS:",
         "    deployPodDisruptionBudget: " ++
           coreDNS.deployPodDisruptionBudget.elim "<nil>" boolText, ""]

/-- The value of `Deploy` is not looked at. -/
def deployLines (line : String) (config : Option DeployConfig) : List String :=
  config.elim [] fun _ => [line, "  deploy: false", ""]

def paramLine (param : String × String) : String := "        " ++ param.1 ++ ": " ++ param.2

def addonLines (addon : Addon) : List String :=
  ("    - name: " ++ addon.name) ::
    if addon.params = [] then [] else "      params:" :: addon.params.map paramLine

def addonsLines (addons : Option Addons) : List String :=
  addons.elim [] fun a => ["addons:", "  enable: true", "  addons:"] ++ a.addons.flatMap addonLines

def manifestLines (c : KubeOneCluster) : List String :=
  typeMetaLines c ++ versionsLines c ++ cloudProviderLines c.cloudProvider ++
    (containerRuntimeLines ++ clusterNetworkLines c.clusterNetwork) ++ featuresLines c.features ++
    deployLines "machineController:" c.machineController ++
    deployLines "operatingSystemManager:" c.operatingSystemManager ++ addonsLines c.addons

def manifest (c : KubeOneCluster) : String := heredoc (manifestLines c)

end KubeOne.Initcmd
