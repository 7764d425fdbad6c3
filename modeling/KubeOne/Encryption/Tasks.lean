import KubeOne.Cmd.Apply
import KubeOne.Encryption.World
import KubeOne.Process.Machine

/-! The tasks of an apply run, with what they do to the encryption configuration of the nodes, and
the lists that the run makes of them. What a task meets outside of KubeOne is in the choice it is
executed with. -/

namespace KubeOne.Encryption

open Process

/-- How the upload of one file to a node ends. A torn upload leaves a part of it. -/
inductive Upload where
  | kept
  | torn
  | wrote
  deriving DecidableEq

/-- How a script on a node ends: it was not run, it failed after its effect, or it
succeeded. -/
inductive Script where
  | lost
  | broke
  | fine
  deriving DecidableEq

/-- How the restart script ends on a node. It restarts the API server when the log of
the container has one of two phrases about a failure; on a quiet log it succeeds
without a restart. -/
inductive Restart where
  | failed
  | broke
  | quiet
  | logged
  deriving DecidableEq

/-- How the upgrade of a control plane node ends: whether kubeadm wrote the static pod,
whether it restarted the API server with an unchanged flag, and whether all of the
task succeeded. -/
structure Kubeadm where
  applied : Bool
  restarted : Bool
  ok : Bool

/-- What an attempt meets. The work of a task before and after its effect on the nodes
succeeds or not; probes reach the cluster or not. -/
structure Choice (H : Type*) where
  before : Bool := true
  reached : Bool := true
  after : Bool := true
  healthy : H → Bool := fun _ => true
  key : Key := ⟨"", ""⟩
  upload : H → ProvidersFile → Upload := fun _ _ => .wrote
  script : H → Script := fun _ => .fine
  restart : H → Restart := fun _ => .logged
  lister : Option H := none
  getter : String → Option H := fun _ => none
  updater : String → Option H := fun _ => none
  configMap : Bool := true
  kubeadm : Kubeadm := ⟨true, false, true⟩
  provisioned : Bool := true
  clusterHealthy : Bool := true
  missing : Bool := false
  safeToRepair : Bool := true
  supported : Bool := true
  upgradeNeeded : Bool := false
  hasExtraEtcdMembers : Bool := false
  authenticationOutdated : Bool := false

/-- Tasks that leave the encryption configuration, the API servers and the stored
Secrets alone. -/
inductive Operation where
  | determineHostname
  | determineOS
  | safeguard
  | repairClusterIfNeeded
  | buildKubernetesClientset
  | runPreflightChecks
  | downloadKubePKI
  | ensureLoadBalancerMembers
  | determinePauseImage
  | patchStaticPods
  | renewControlPlaneCerts
  | saveKubeconfig
  | removeSuperKubeconfig
  | activateFeatures
  | patchCoreDNS
  | ensureCredentials
  | ensureCABundleConfigMap
  | labelNodes
  | annotateNodes
  | cleanupStaleObjects
  | ensureAddons
  | ensureUserAddons
  | deployHelm
  | ensureExternalCCM
  | ensureVsphereCSICABundleConfigMap
  | joinStaticWorkerNodes
  | fixFilePermissions
  | waitMachineController
  | waitOperatingSystemManager
  | upgradeMachineDeployments
  | upgradeStaticWorker
  | updateAllKubelets
  | migratePVCAllocatedResourceStatus
  | pruneImagesOnAllNodes
  | cleanupKubernetesTmp
  | updateAuthenticationConfig

inductive Task (H : Type*) where
  | runProbes
  /-- The decisions of `runApply` once the cluster has been probed. -/
  | runApply
  | fetchEncryptionProvidersFile
  | uploadIdentityFirstEncryptionConfiguration
  | uploadEncryptionConfigurationWithNewKey
  | uploadEncryptionConfigurationWithoutOldKey
  | restartKubeAPIServer
  | rewriteClusterSecrets
  | removeEncryptionProviderFile
  | generateKubeadm
  | generateConfigurationFiles
  | uploadConfigurationFiles
  | uploadKubeadmToConfigMaps
  | upgradeLeader
  | upgradeFollower (h : H)
  | saveCABundle
  /-- The task lists that install or repair a cluster. -/
  | install
  | operation (op : Operation)

structure Hosts (H : Type*) where
  controlPlane : List H
  staticWorkers : ℕ

namespace Node

def uploadTo (n : Node) (files : Directory) (a : ProvidersFile → Upload) : Node :=
  { n with workDir := fun f =>
      match files f, a f with
      | some d, .wrote => some d
      | some _, .torn => some .malformed
      | _, _ => n.workDir f }

/-- The script moves the file of the name from the work directory, if there is one. -/
def saveEncryptionProvidersConfig (n : Node) (name : ProvidersFile) : Node :=
  match n.workDir name with
  | some d =>
    { n with
      workDir := Function.update n.workDir name none
      etc := Function.update n.etc name (some d) }
  | none => n

def deleteEncryptionProvidersConfig (n : Node) : Node := { n with etc := fun _ => none }

def after (n : Node) (f : Node → Node) : Script → Node
  | .lost => n
  | _ => f n

end Node

def uploaded (files : Directory) (a : ProvidersFile → Upload) : Bool :=
  [ProvidersFile.default, .custom].all fun f => (files f).isNone || a f = .wrote

/-- Upload, and then the script that saves the encryption configuration. -/
def pushOnNode (files : Directory) (name : ProvidersFile) (a : ProvidersFile → Upload)
    (script : Script) (n : Node) : Node :=
  if uploaded files a then
    (n.uploadTo files a).after (·.saveEncryptionProvidersConfig name) script
  else n.uploadTo files a

section

variable {H : Type*}

abbrev Result (H : Type*) := World H × Memory H × Outcome (Task H)

def finish (ok : Bool) : Outcome (Task H) := if ok then .done [] else .failed

def fetchEncryptionProvidersFile (ch : Choice H) (w : World H) (m : Memory H) : Memory H × Bool :=
  match m.leader with
  | none => (m, false)
  | some leader =>
    match ch.before, (w.nodes leader).etc m.getEncryptionProviderConfigName with
    | true, some (.config c) => ({ m with live := { m.live with config := some c } }, true)
    | true, some .malformed => ({ m with live := { m.live with config := some ⟨[]⟩ } }, false)
    | _, _ => (m, false)

/-- A fault ends the attempt, and a panic the process. -/
def orFault (w : World H) (m : Memory H) (k : EncryptionConfiguration → Result H) :
    Except Fault EncryptionConfiguration → Result H
  | .ok c => k c
  | .error .emptyAESCBC => (w, m, .failed)
  | .error .panic => (w, m, .aborted)

section ControlPlane

variable (hosts : Hosts H) [DecidableEq H]

def onControlPlane (f : H → Node → Node) (w : World H) : World H :=
  { w with nodes := fun h => if h ∈ hosts.controlPlane then f h (w.nodes h) else w.nodes h }

/-- The flags of all API server pods: is there one for encryption, and is there one for
the custom file. -/
def detectEncryptionProvidersEnabled (w : World H) : Bool × Bool :=
  (hosts.controlPlane.any fun h => (w.nodes h).apiServer.flag.isSome,
    hosts.controlPlane.any fun h => (w.nodes h).apiServer.flag = some .custom)

def electLeader (ch : Choice H) (w : World H) : Option H :=
  hosts.controlPlane.find? fun h => ch.healthy h && (w.backend h).isSome

def investigateCluster (ch : Choice H) (w : World H) (m : Memory H) : Memory H × Bool :=
  match electLeader hosts ch w with
  | none => ({ m with leader := none }, false)
  | some leader =>
    if ch.reached then
      match detectEncryptionProvidersEnabled hosts w with
      | (true, custom) =>
        fetchEncryptionProvidersFile ch w
          { m with leader := some leader, live := ⟨true, custom, none⟩ }
      | (false, _) => ({ m with leader := some leader }, true)
    else ({ m with leader := some leader }, false)

def runProbes (ch : Choice H) (w : World H) (m : Memory H) : Result H :=
  let m := { m with live := .unknown }
  if ch.before then
    (w, (investigateCluster hosts ch w m).1,
      finish ((investigateCluster hosts ch w m).2 && ch.after))
  else (w, m, .failed)

def pushEncryptionConfiguration (ch : Choice H) (w : World H) (m : Memory H) (ok : Bool) :
    Result H :=
  (onControlPlane hosts (fun h n => pushOnNode m.configuration m.getEncryptionProviderConfigName
      (ch.upload h) (ch.script h) n) w, m,
    finish (ok && hosts.controlPlane.all fun h =>
      uploaded m.configuration (ch.upload h) && ch.script h = .fine))

def uploadIdentityFirstEncryptionConfiguration (ch : Choice H) (w : World H) (m : Memory H) :
    Result H :=
  match m.live.config with
  | none => (w, m, .failed)
  | some c =>
    if m.live.custom then (w, m, .failed)
    else
      orFault w m (fun c => pushEncryptionConfiguration hosts ch w (m.addFile .default (.config c))
        true) (updateEncryptionConfigDecryptOnly c)

/-- The two uploads of a rotation also replace the configuration in the memory. -/
def uploadRotated (update : EncryptionConfiguration → Except Fault EncryptionConfiguration)
    (ch : Choice H) (w : World H) (m : Memory H) : Result H :=
  match m.live.config with
  | none => (w, m, .failed)
  | some c =>
    orFault w m (fun c => pushEncryptionConfiguration hosts ch w
      ({ m with live := { m.live with config := some c } }.addFile .default (.config c)) true)
      (update c)

def uploadEncryptionConfigurationWithNewKey (ch : Choice H) (w : World H) (m : Memory H) :
    Result H :=
  if ch.before then uploadRotated hosts (updateEncryptionConfigWithNewKey ch.key) ch w m
  else (w, m, .failed)

def uploadEncryptionConfigurationWithoutOldKey (ch : Choice H) (w : World H) (m : Memory H) :
    Result H :=
  uploadRotated hosts updateEncryptionConfigRemoveOldKey ch w m

def restartAll (ch : Choice H) : List H → World H → World H × Bool
  | [], w => (w, true)
  | h :: hs, w =>
    let restarted := w.setNode h ((w.nodes h).boot (w.nodes h).apiServer.flag)
    match ch.restart h with
    | .failed => (w, false)
    | .broke => (restarted, false)
    | .quiet => restartAll ch hs w
    | .logged => restartAll ch hs restarted

def readsAt (w : World H) (name : String) : Option H → Bool
  | some h => h ∈ hosts.controlPlane && w.reads h name
  | none => false

def rewriteAll (ch : Choice H) : List String → World H → World H × Bool
  | [], w => (w, true)
  | name :: names, w =>
    match ch.updater name with
    | some h =>
      if readsAt hosts w name (ch.getter name) && readsAt hosts w name (some h) then
        rewriteAll ch names (w.write h name)
      else (w, false)
    | none => (w, false)

/-- The list request reads every Secret. -/
def rewriteClusterSecrets (ch : Choice H) (w : World H) : World H × Bool :=
  if w.secrets.all fun s => readsAt hosts w s.name ch.lister then
    rewriteAll hosts ch (w.secrets.map (·.name)) w
  else (w, false)

def removeEncryptionProviderFile (ch : Choice H) (w : World H) : World H × Bool :=
  (onControlPlane hosts (fun h n => n.after Node.deleteEncryptionProvidersConfig (ch.script h)) w,
    hosts.controlPlane.all fun h => ch.script h = .fine)

def uploadFiles (ch : Choice H) (w : World H) (m : Memory H) : World H × Bool :=
  (onControlPlane hosts (fun h n => n.uploadTo m.configuration (ch.upload h)) w,
    hosts.controlPlane.all fun h => uploaded m.configuration (ch.upload h))

/-- The configuration file that an upgrade brings to the nodes, with the key for a
generated one. -/
def generateConfigurationFiles (key : Key) (m : Memory H) : Memory H :=
  if m.shouldEnableEncryption || m.encryptionEnabled then
    match m.cluster.custom with
    | some d => m.addFile m.getEncryptionProviderConfigName d
    | none =>
      if m.shouldEnableEncryption then
        m.addFile m.getEncryptionProviderConfigName (.config (newEncryptionProvidersConfig key))
      else m
  else m

/-- kubeadm gives the API server of the node the flag of the stored configuration. -/
def upgradeNode (a : Kubeadm) (h : H) (w : World H) : World H × Bool :=
  if a.applied then
    if (w.nodes h).apiServer.flag ≠ w.kubeadmConfig || a.restarted then
      (w.setNode h ((w.nodes h).boot w.kubeadmConfig), a.ok)
    else (w, a.ok)
  else (w, false)

end ControlPlane

def withHostnameOS (t : List (Task H)) : List (Task H) :=
  [.operation .determineHostname, .operation .determineOS] ++ t

def withProbesAndSafeguard (t : List (Task H)) : List (Task H) :=
  t ++ [.runProbes, .operation .safeguard]

def withHostnameOSAndProbes (t : List (Task H)) : List (Task H) :=
  withProbesAndSafeguard (withHostnameOS t)

def kubernetesConfigFiles : List (Task H) :=
  [.generateKubeadm, .generateConfigurationFiles, .uploadConfigurationFiles]

def operations (ops : List Operation) : List (Task H) := ops.map .operation

def withResources (t : List (Task H)) : List (Task H) :=
  t ++ [.operation .ensureLoadBalancerMembers, .saveCABundle] ++
    operations [.determinePauseImage, .patchStaticPods, .renewControlPlaneCerts, .saveKubeconfig,
      .removeSuperKubeconfig, .downloadKubePKI, .activateFeatures, .patchCoreDNS,
      .ensureCredentials, .ensureCABundleConfigMap, .labelNodes, .annotateNodes,
      .cleanupStaleObjects, .ensureAddons, .ensureUserAddons, .deployHelm, .ensureExternalCCM,
      .ensureVsphereCSICABundleConfigMap, .joinStaticWorkerNodes, .labelNodes, .annotateNodes,
      .fixFilePermissions, .waitMachineController, .waitOperatingSystemManager,
      .upgradeMachineDeployments]

/-- The tasks of an upgrade once the control plane nodes are upgraded. -/
def upgradeRest (staticWorkers : ℕ) : List (Task H) :=
  [.operation .downloadKubePKI] ++ withResources [] ++ [.restartKubeAPIServer] ++
    List.replicate staticWorkers (.operation .upgradeStaticWorker) ++
    operations [.updateAllKubelets, .migratePVCAllocatedResourceStatus, .pruneImagesOnAllNodes,
      .cleanupKubernetesTmp]

def upgradeTasks (followers : List H) (staticWorkers : ℕ) : List (Task H) :=
  kubernetesConfigFiles ++
    [.operation .buildKubernetesClientset, .uploadKubeadmToConfigMaps,
      .operation .runPreflightChecks, .upgradeLeader] ++
    followers.map .upgradeFollower ++ upgradeRest staticWorkers

def withUpgrade (t : List (Task H)) (followers : List H) (staticWorkers : ℕ) : List (Task H) :=
  withHostnameOSAndProbes t ++ upgradeTasks followers staticWorkers

def withRemoveExtraEtcdMembers (t : List (Task H)) : List (Task H) :=
  t ++ [.operation .repairClusterIfNeeded]

def withDisableEncryptionProviders (t : List (Task H)) (customConfig : Bool) : List (Task H) :=
  withHostnameOSAndProbes t ++
    if customConfig then
      [.removeEncryptionProviderFile, .restartKubeAPIServer, .rewriteClusterSecrets]
    else
      [.fetchEncryptionProvidersFile, .uploadIdentityFirstEncryptionConfiguration,
        .restartKubeAPIServer, .rewriteClusterSecrets, .removeEncryptionProviderFile]

def withRewriteSecrets (t : List (Task H)) : List (Task H) := t ++ [.rewriteClusterSecrets]

def withCustomEncryptionConfigUpdated (t : List (Task H)) : List (Task H) :=
  t ++ [.restartKubeAPIServer, .rewriteClusterSecrets]

def withAuthenticationConfigUpdated (t : List (Task H)) : List (Task H) :=
  t ++ [.operation .updateAuthenticationConfig]

def withRotateKey (t : List (Task H)) : List (Task H) :=
  withHostnameOSAndProbes t ++
    [.fetchEncryptionProvidersFile, .uploadEncryptionConfigurationWithNewKey,
      .restartKubeAPIServer, .rewriteClusterSecrets, .uploadEncryptionConfigurationWithoutOldKey,
      .restartKubeAPIServer]

section Apply

variable (hosts : Hosts H) [DecidableEq H]

/-- The custom configuration of the manifest is not the live one. A text that cannot
be read is an error. -/
def customEncryptionConfigUpdated (m : Memory H) : Except String Bool :=
  match m.live.enable && m.live.custom, m.cluster.custom with
  | true, some (.config c) => .ok (some c ≠ m.live.config)
  | true, some .malformed => .error ""
  | _, _ => .ok false

def lists (m : Memory H) : Cmd.Lists (Task H) where
  withBinariesOnly t := t ++ [.install]
  withFullInstall t := t ++ [.install]
  withUpgrade t := withUpgrade t (hosts.controlPlane.filter (some · ≠ m.leader)) hosts.staticWorkers
  withResources
  withRemoveExtraEtcdMembers
  withDisableEncryptionProviders
  withRewriteSecrets
  withCustomEncryptionConfigUpdated
  withAuthenticationConfigUpdated
  withRotateKey

/-- In a cluster that is not healthy a host is missing or broken. -/
def findings (ch : Choice H) (m : Memory H) : Cmd.Findings where
  isProvisioned := ch.provisioned
  healthy := ch.clusterHealthy
  runRepair := ch.missing
  safeToRepair := ch.safeToRepair
  brokenHosts := !ch.missing
  encryptionEnabled := m.encryptionEnabled
  customEncryptionConfigured := m.cluster.custom.isSome
  upgradeNeeded := if ch.supported then .ok ch.upgradeNeeded else .error ""
  hasExtraEtcdMembers := ch.hasExtraEtcdMembers
  shouldDisableEncryption := m.shouldDisableEncryption
  customEncryptionLive := m.live.custom
  shouldEnableEncryption := m.shouldEnableEncryption
  customEncryptionModified := customEncryptionConfigUpdated m
  authenticationConfigChanged := .ok ch.authenticationOutdated

/-- The flags of a run that is approved. -/
def Options.flags (o : Options) : Cmd.Options where
  autoApprove := true
  forceUpgrade := o.forceUpgrade
  rotateEncryptionKey := o.rotateEncryptionKey

def runApplyUpgradeIfNeeded (ch : Choice H) (m : Memory H) : Except Cmd.Failure (List (Task H)) :=
  (lists hosts m).runApplyUpgradeIfNeeded m.options.flags (findings ch m)

def runApply (ch : Choice H) (m : Memory H) : Outcome (Task H) :=
  match (lists hosts m).reconcile m.options.flags (findings ch m) with
  | .ok tasks => .done tasks
  | .error _ => .aborted

def exec : Task H → Choice H → World H → Memory H → Result H
  | .runProbes, ch, w, m => runProbes hosts ch w m
  | .runApply, ch, w, m => (w, m, runApply hosts ch m)
  | .fetchEncryptionProvidersFile, ch, w, m =>
    (w, (fetchEncryptionProvidersFile ch w m).1, finish (fetchEncryptionProvidersFile ch w m).2)
  | .uploadIdentityFirstEncryptionConfiguration, ch, w, m =>
    uploadIdentityFirstEncryptionConfiguration hosts ch w m
  | .uploadEncryptionConfigurationWithNewKey, ch, w, m =>
    uploadEncryptionConfigurationWithNewKey hosts ch w m
  | .uploadEncryptionConfigurationWithoutOldKey, ch, w, m =>
    uploadEncryptionConfigurationWithoutOldKey hosts ch w m
  | .restartKubeAPIServer, ch, w, m =>
    ((restartAll ch hosts.controlPlane w).1, m, finish (restartAll ch hosts.controlPlane w).2)
  | .rewriteClusterSecrets, ch, w, m =>
    ((rewriteClusterSecrets hosts ch w).1, m, finish (rewriteClusterSecrets hosts ch w).2)
  | .removeEncryptionProviderFile, ch, w, m =>
    ((removeEncryptionProviderFile hosts ch w).1, m,
      finish (removeEncryptionProviderFile hosts ch w).2)
  | .generateKubeadm, ch, w, m =>
    if ch.before then
      ((uploadFiles hosts ch w m).1, m, finish ((uploadFiles hosts ch w m).2 && ch.after))
    else (w, m, .failed)
  | .generateConfigurationFiles, ch, w, m =>
    if ch.before then (w, generateConfigurationFiles ch.key m, .done []) else (w, m, .failed)
  | .uploadConfigurationFiles, ch, w, m => pushEncryptionConfiguration hosts ch w m ch.after
  | .uploadKubeadmToConfigMaps, ch, w, m =>
    if ch.before && m.leader.isSome then
      -- a rejected update is not reported
      (if ch.configMap then
        { w with kubeadmConfig := m.cluster.activateEncryptionProviders } else w, m, .done [])
    else (w, m, .failed)
  | .upgradeLeader, ch, w, m =>
    match m.leader with
    | some h => ((upgradeNode ch.kubeadm h w).1, m, finish (upgradeNode ch.kubeadm h w).2)
    | none => (w, m, .failed)
  | .upgradeFollower h, ch, w, m =>
    ((upgradeNode ch.kubeadm h w).1, m, finish (upgradeNode ch.kubeadm h w).2)
  | .saveCABundle, ch, w, m =>
    ((uploadFiles hosts ch w m).1, m, finish ((uploadFiles hosts ch w m).2 && ch.after))
  -- what an install or a repair does to the nodes is not followed
  | .install, _, w, m => (w, m, .aborted)
  | .operation _, ch, w, m => (w, m, finish ch.after)

def retries : Task H → ℕ
  | .operation .runPreflightChecks => 1
  | _ => 10

/-- A Secret is created or updated at an API server of the control plane. -/
structure Request (H : Type*) where
  host : H
  name : String

def engineOf (main : List (Task H)) :
    Engine (World H) (Memory H) (Task H) (Choice H) (Request H) where
  retries := retries
  predicate t _ m := match t with
    | .saveCABundle => m.cluster.caBundle
    | _ => true
  exec := exec hosts
  env r w := if r.host ∈ hosts.controlPlane then w.write r.host r.name else w
  main _ := main

def engine : Engine (World H) (Memory H) (Task H) (Choice H) (Request H) :=
  engineOf hosts (withProbesAndSafeguard (withHostnameOS []) ++ [.runApply])

end Apply

end

end KubeOne.Encryption
