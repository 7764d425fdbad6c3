import KubeOne.Addons.Applier

/-! Which addons a run applies and deletes. The features of a cluster select built-in addons; a
user adds directories, and declares addons or their deletion. Contents, answers and the order of
map iterations belong to the environment of a run. -/

namespace KubeOne.Addons

open Process NativeClient

structure Addon where
  name : String
  delete : Bool := false
  deriving DecidableEq

structure AddonRef where
  addon : Option Addon

structure AddonsSpec where
  path : String := ""
  addons : List AddonRef := []

structure CiliumSpec where
  enableLocalRedirectPolicy : Bool := false

structure WeaveNetSpec where
  encrypted : Bool := false

structure CNI where
  canal : Bool := false
  cilium : Option CiliumSpec := none
  weaveNet : Option WeaveNetSpec := none

structure CloudProviderSpec where
  external : Bool := false
  disableBundledCSIDrivers : Bool := false
  aws : Bool := false
  azure : Bool := false
  digitalOcean : Bool := false
  gce : Bool := false
  hetzner : Bool := false
  kubevirt : Bool := false
  nutanix : Bool := false
  openstack : Bool := false
  equinixMetal : Bool := false
  vmwareCloudDirector : Bool := false
  vsphere : Bool := false

/-- The fields that decide on addons, after defaulting. -/
structure KubeOneCluster where
  deployPodDisruptionBudget : Bool := true
  metricsServer : Bool := true
  nodeLocalDNS : Bool := true
  machineController : Bool := true
  operatingSystemManager : Bool := true
  cni : CNI := {}
  cloudProvider : CloudProviderSpec := {}
  addons : Option AddonsSpec := none

def AddonsSpec.enabled (ads : AddonsSpec) : Bool := ads.path ≠ "" || ads.addons ≠ []

namespace KubeOneCluster

variable (s : KubeOneCluster)

def declaredAddonsOnly : List Addon :=
  match s.addons with
  | none => []
  | some ads => ads.addons.filterMap (·.addon)

def hasLocalFS : Bool := s.addons.any fun ads => ads.enabled && ads.path ≠ ""

end KubeOneCluster

namespace Resources

def addonCCMAws : String := "ccm-aws"
def addonCCMAzure : String := "ccm-azure"
def addonCCMDigitalOcean : String := "ccm-digitalocean"
def addonCCMEquinixMetal : String := "ccm-equinixmetal"
def addonCCMHetzner : String := "ccm-hetzner"
def addonCCMKubeVirt : String := "ccm-kubevirt"
def addonCCMGCP : String := "ccm-gcp"
def addonCCMNutanix : String := "ccm-nutanix"
def addonCCMOpenStack : String := "ccm-openstack"
def addonCCMPacket : String := "ccm-packet"
def addonCCMVsphere : String := "ccm-vsphere"
def addonClusterAutoscaler : String := "cluster-autoscaler"
def addonCNICanal : String := "cni-canal"
def addonCNICilium : String := "cni-cilium"
def addonCNIWeavenet : String := "cni-weavenet"
def addonCoreDNSPDB : String := "coredns-pdb"
def addonCSIExternalSnapshotter : String := "csi-external-snapshotter"
def addonCSIAwsEBS : String := "csi-aws-ebs"
def addonCSIAzureDisk : String := "csi-azuredisk"
def addonCSIAzureFile : String := "csi-azurefile"
def addonCSIDigitalOcean : String := "csi-digitalocean"
def addonCSIGCPComputePD : String := "csi-gcp-compute-persistent"
def addonCSIHetzner : String := "csi-hetzner"
def addonCSIKubeVirt : String := "csi-kubevirt"
def addonCSINutanix : String := "csi-nutanix"
def addonCSIOpenStackCinder : String := "csi-openstack-cinder"
def addonCSIVMwareCloudDirector : String := "csi-vmware-cloud-director"
def addonCSIVsphere : String := "csi-vsphere"
def addonMachineController : String := "machinecontroller"
def addonMetricsServer : String := "metrics-server"
def addonNodeLocalDNS : String := "nodelocaldns"
def addonNodeLocalDNSCilium : String := "nodelocaldns-cilium"
def addonOperatingSystemManager : String := "operating-system-manager"

end Resources

open Resources

def defaultStorageClassAddonName : String := "default-storage-class"

def embeddedAddons : List String :=
  [addonCCMAws, addonCCMAzure, addonCCMDigitalOcean, addonCCMHetzner, addonCCMGCP,
    addonCCMOpenStack, addonCCMEquinixMetal, addonCCMPacket, addonCCMVsphere,
    addonClusterAutoscaler, addonCNICanal, addonCNICilium, addonCNIWeavenet, addonCSIAwsEBS,
    addonCSIExternalSnapshotter, addonCSIAzureDisk, addonCSIAzureFile, addonCSIDigitalOcean,
    addonCSIHetzner, addonCSIKubeVirt, addonCSIGCPComputePD, addonCSINutanix,
    addonCSIOpenStackCinder, addonCSIVMwareCloudDirector, addonCSIVsphere, addonMetricsServer,
    addonNodeLocalDNS, addonNodeLocalDNSCilium]

def otherAddons : List String :=
  [addonCCMKubeVirt, addonCCMNutanix, addonCoreDNSPDB, addonMachineController,
    addonOperatingSystemManager]

/-- What is done in front of an addon. The migration of the Packet addon deletes it; all others
only touch single objects. -/
inductive Support where
  | migrateMetricsServer
  | migrateCiliumHubbleCertsJob
  | ensureWeaveSecret (encrypted : Bool)
  | migrateClusterAutoscaler
  | migrateAWSCSIDriver
  | migrateAzureDiskCSI
  | migrateAzureFileCSI
  | migrateHetznerCSI
  | migrateOpenStackCSIDriver
  | migrateVsphereCSIDriver
  | migrateHetznerCCM
  | migrateOpenStackCCM
  | migrateVsphereAddon
  | migratePacketToEquinixCCM
  | migrateGCEStandardStorageClass

structure AddonAction where
  name : String
  supportFn : Option Support := none

section Collect

variable (s : KubeOneCluster)

def ensureCSIAddons (addonsToDeploy : List AddonAction) : List AddonAction :=
  let drivers : List AddonAction :=
    if s.cloudProvider.aws then [⟨addonCSIAwsEBS, some .migrateAWSCSIDriver⟩]
    else if s.cloudProvider.azure then
      [⟨addonCSIAzureDisk, some .migrateAzureDiskCSI⟩,
        ⟨addonCSIAzureFile, some .migrateAzureFileCSI⟩]
    else if s.cloudProvider.gce then [⟨addonCSIGCPComputePD, none⟩]
    else if s.cloudProvider.digitalOcean then [⟨addonCSIDigitalOcean, none⟩]
    else if s.cloudProvider.hetzner then [⟨addonCSIHetzner, some .migrateHetznerCSI⟩]
    else if s.cloudProvider.kubevirt then [⟨addonCSIKubeVirt, none⟩]
    else if s.cloudProvider.nutanix then [⟨addonCSINutanix, none⟩]
    else if s.cloudProvider.openstack then
      [⟨addonCSIOpenStackCinder, some .migrateOpenStackCSIDriver⟩]
    else if s.cloudProvider.vmwareCloudDirector then [⟨addonCSIVMwareCloudDirector, none⟩]
    else if s.cloudProvider.vsphere then [⟨addonCSIVsphere, some .migrateVsphereCSIDriver⟩]
    else []
  -- a provider without a driver gets no snapshotter either
  if drivers = [] then addonsToDeploy
  else addonsToDeploy ++ drivers ++ [⟨addonCSIExternalSnapshotter, none⟩]

def ensureCCMAddons (addonsToDeploy : List AddonAction) : List AddonAction :=
  addonsToDeploy ++
    if s.cloudProvider.aws then [⟨addonCCMAws, none⟩]
    else if s.cloudProvider.azure then [⟨addonCCMAzure, none⟩]
    else if s.cloudProvider.digitalOcean then [⟨addonCCMDigitalOcean, none⟩]
    else if s.cloudProvider.gce then [⟨addonCCMGCP, none⟩]
    else if s.cloudProvider.hetzner then [⟨addonCCMHetzner, some .migrateHetznerCCM⟩]
    else if s.cloudProvider.kubevirt then [⟨addonCCMKubeVirt, none⟩]
    else if s.cloudProvider.nutanix then [⟨addonCCMNutanix, none⟩]
    else if s.cloudProvider.openstack then [⟨addonCCMOpenStack, some .migrateOpenStackCCM⟩]
    else if s.cloudProvider.vsphere then [⟨addonCCMVsphere, some .migrateVsphereAddon⟩]
    else if s.cloudProvider.equinixMetal then
      [⟨addonCCMEquinixMetal, some .migratePacketToEquinixCCM⟩]
    else []

def cniAddons : List AddonAction :=
  if s.cni.canal then [⟨addonCNICanal, none⟩]
  else if s.cni.cilium.isSome then [⟨addonCNICilium, some .migrateCiliumHubbleCertsJob⟩]
  else
    match s.cni.weaveNet with
    | some weaveNet => [⟨addonCNIWeavenet, some (.ensureWeaveSecret weaveNet.encrypted)⟩]
    | none => []

def featureAddons : List AddonAction :=
  (if s.deployPodDisruptionBudget then [⟨addonCoreDNSPDB, none⟩] else []) ++
  (if s.metricsServer then [⟨addonMetricsServer, some .migrateMetricsServer⟩] else []) ++
  cniAddons s ++
  (if s.nodeLocalDNS then [⟨addonNodeLocalDNS, none⟩] else []) ++
  (if s.cni.cilium.any (·.enableLocalRedirectPolicy) then [⟨addonNodeLocalDNSCilium, none⟩]
    else []) ++
  (if s.machineController then [⟨addonMachineController, none⟩] else []) ++
  (if s.operatingSystemManager then [⟨addonOperatingSystemManager, none⟩] else []) ++
  (if s.declaredAddonsOnly.any (fun a => a.name = addonClusterAutoscaler && !a.delete) then
    [⟨addonClusterAutoscaler, some .migrateClusterAutoscaler⟩] else [])

def collectAddons : List AddonAction :=
  let addonsToDeploy := featureAddons s
  let addonsToDeploy :=
    if !s.cloudProvider.disableBundledCSIDrivers then ensureCSIAddons s addonsToDeploy
    else addonsToDeploy
  if s.cloudProvider.external then ensureCCMAddons s addonsToDeploy else addonsToDeploy

def disabledAddons : List String :=
  (if !s.deployPodDisruptionBudget then [addonCoreDNSPDB] else []) ++
  (if !s.cni.cilium.any (·.enableLocalRedirectPolicy) then [addonNodeLocalDNSCilium] else []) ++
  (if !s.nodeLocalDNS then [addonNodeLocalDNS] else [])

end Collect

inductive Source where
  | localFS
  | embeddedFS

structure DirEntry where
  name : String
  isDir : Bool

/-- The entries of a directory of addons, and the names under which a directory is found. -/
structure FS where
  entries : List DirEntry
  hasDir : String → Bool
  root : hasDir "" = true
  listed : ∀ e ∈ entries, e.isDir = true → hasDir e.name = true

def FS.lists (fsys : FS) (name : String) : Bool :=
  fsys.entries.any fun e => e.isDir && e.name = name

theorem FS.hasDir_of_lists {fsys : FS} {name : String} (h : fsys.lists name = true) :
    fsys.hasDir name = true := by
  obtain ⟨e, he, hname⟩ := List.any_eq_true.mp h
  simp only [Bool.and_eq_true, decide_eq_true_eq] at hname
  rw [← hname.2]
  exact fsys.listed e he hname.1

structure Directories where
  localDir : FS
  embeddedDir : FS
  builtIn : ∀ name ∈ embeddedAddons ++ otherAddons, embeddedDir.lists name = true

def Directories.fs (dirs : Directories) : Source → FS
  | .localFS => dirs.localDir
  | .embeddedFS => dirs.embeddedDir

/-- What a run meets. The steps of a run are counted. -/
structure RunEnvironment where
  digest : String → String
  render : ℕ → Source → String → Rendered
  newApplier : ℕ → Bool
  readDir : ℕ → Source → Bool
  supports : ℕ → Bool
  changes : ℕ → Cluster → Cluster
  client : ℕ → Option Client
  order : List String → List String
  order_perm : ∀ names, (order names).Perm names

/-- The delete of an addon, with the clusters in front of it and behind it and how it has ended. -/
structure Deletion where
  manifests : List Unstructured
  client : Option Client
  before : Cluster
  after : Cluster
  status : Status Failure

/-- A call of the client for the objects of an addon, or the delete of an addon. -/
inductive Operation where
  | apply (source : Source) (name : String)
  | delete (source : Source) (name : String) (deletion : Deletion)

structure World where
  cluster : Cluster
  log : List Operation := []
  clock : ℕ := 0
  combinedAddons : List String := []

section Runs

variable (s : KubeOneCluster) (dirs : Directories) (env : RunEnvironment)

def load (step : ℕ) (source : Source) (name : String) : Rendered :=
  if (dirs.fs source).hasDir name then env.render step source name else .error .readingDirectory

def World.tick (w : World) : World := { w with clock := w.clock + 1 }

def runApply (source : Source) (name : String) : Stage World Failure := fun w =>
  let rendered := load dirs env w.clock source name
  let client := env.client w.clock
  let done := loadAndApplyAddon env.digest client rendered name w.cluster
  let call : List Operation :=
    match rendered, client with
    | .ok (_ :: _), some _ => [.apply source name]
    | _, _ => []
  ({ w.tick with cluster := done.1, log := w.log ++ call }, done.2)

def runDelete (source : Source) (name : String) : Stage World Failure := fun w =>
  let rendered := load dirs env w.clock source name
  let client := env.client w.clock
  let done := loadAndDeleteAddon env.digest client rendered name w.cluster
  let call : List Operation :=
    match rendered with
    | .ok manifests => [.delete source name ⟨manifests, client, w.cluster, done.1, done.2⟩]
    | .error _ => []
  ({ w.tick with cluster := done.1, log := w.log ++ call }, done.2)

def newAddonsApplier : Stage World Failure := fun w =>
  (w.tick, if env.newApplier w.clock then .success else .failed [.creatingApplier])

/-- The directory in which an addon is looked up: a local one comes first. -/
def sourceOf (name : String) : Option Source :=
  if s.hasLocalFS && dirs.localDir.lists name then some .localFS
  else if dirs.embeddedDir.lists name then some .embeddedFS
  else none

/-- An addon by its name. A directory is read only if it is needed. -/
def addonByName (operation : String) (run : Source → String → Stage World Failure)
    (addonName : String) : Stage World Failure :=
  (newAddonsApplier env).andThen fun w =>
    if s.hasLocalFS && !env.readDir w.clock .localFS then (w, .failed [.readingLocalDirectory])
    else
      match sourceOf s dirs addonName with
      | some .localFS => run .localFS addonName w
      | source =>
        if env.readDir w.clock .embeddedFS then
          if source.isSome then run .embeddedFS addonName w
          else (w, .failed [.doesNotExist operation addonName])
        else (w, .failed [.readingEmbeddedDirectory])

def ensureAddonByName : String → Stage World Failure :=
  addonByName s dirs env "installing" (runApply dirs env)

def deleteAddonByName : String → Stage World Failure :=
  addonByName s dirs env "deleting" (runDelete dirs env)

/-- The migrations change the cluster in ways of their own. -/
def support (addonName : String) : Support → Stage World Failure
  | .migratePacketToEquinixCCM => deleteAddonByName s dirs env addonCCMPacket
  | .ensureWeaveSecret false => .skip
  -- the migration of the Azure file driver gives up without an error
  | .migrateAzureFileCSI => fun w =>
    ({ w.tick with cluster := env.changes w.clock w.cluster }, .success)
  | _ => fun w =>
    ({ w.tick with cluster := env.changes w.clock w.cluster },
      if env.supports w.clock then .success else .failed [.supporting addonName])

def deployAddon (add : AddonAction) : Stage World Failure :=
  (match add.supportFn with
    | some f => support s dirs env add.name f
    | none => .skip).andThen (ensureAddonByName s dirs env add.name)

def cleanupAddons : Stage World Failure :=
  .sequence ((disabledAddons s).map (deleteAddonByName s dirs env))

def ensure : Stage World Failure :=
  (Stage.sequence ((collectAddons s).map (deployAddon s dirs env))).andThen
    (cleanupAddons s dirs env)

def World.combine (w : World) (name : String) : World :=
  if name ∈ w.combinedAddons then w else { w with combinedAddons := w.combinedAddons ++ [name] }

def collectLocal (w : World) (useraddon : DirEntry) : World :=
  if !useraddon.isDir then w
  else if useraddon.name ∈ embeddedAddons then w
  else w.combine useraddon.name

def readLocalAddons : Stage World Failure := fun w =>
  if s.hasLocalFS then
    if env.readDir w.clock .localFS then (dirs.localDir.entries.foldl collectLocal w, .success)
    else (w, .failed [.readingLocalDirectory])
  else (w, .success)

def declaredAddon (addon : Addon) : Stage World Failure :=
  if addon.name ∈ embeddedAddons then .skip
  else if addon.delete then runDelete dirs env .embeddedFS addon.name
  else fun w => (w.combine addon.name, .success)

def combinedAddon (addonName : String) : Stage World Failure :=
  (if addonName = defaultStorageClassAddonName ∧ s.cloudProvider.gce = true then
      support s dirs env addonName .migrateGCEStandardStorageClass
    else .skip).andThen (ensureAddonByName s dirs env addonName)

def rootAddons : Stage World Failure :=
  if s.hasLocalFS then runApply dirs env .localFS "" else .skip

def ensureUserAddons : Stage World Failure :=
  (newAddonsApplier env).andThen <|
  Stage.andThen (fun w => ({ w with combinedAddons := [] }, .success)) <|
  (readLocalAddons s dirs env).andThen <|
  (Stage.sequence (s.declaredAddonsOnly.map (declaredAddon dirs env))).andThen <|
  Stage.andThen (fun w =>
    Stage.sequence ((env.order w.combinedAddons).map (combinedAddon s dirs env)) w) <|
  rootAddons s dirs env

def runAddons (c : Cluster) : World × Status Failure :=
  ((ensure s dirs env).andThen (ensureUserAddons s dirs env)) { cluster := c }

end Runs

end KubeOne.Addons
