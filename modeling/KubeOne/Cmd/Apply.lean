import Mathlib.Data.Nat.Notation

/-! The command that brings a cluster to the state of its manifest. A run probes the hosts,
decides whether the cluster is to be installed, repaired, upgraded or reconciled, and asks for a
confirmation; what follows is a list of tasks. -/

namespace KubeOne.Cmd

structure Failure where
  op : String
  err : String
  deriving DecidableEq

inductive Task
  | saveKubeconfig
  | downloadKubePKI
  | other (operation : String) (retries : ℕ := 10)

namespace Task

def again : Task → ℕ
  | saveKubeconfig | downloadKubePKI => 9
  | other _ retries => retries - 1

end Task

def others (operations : List String) : List Task := operations.map fun o => .other o

def withHostnameOS (t : List Task) : List Task := others ["detecting hostname", "detecting OS"] ++ t

def withProbesAndSafeguard (t : List Task) : List Task :=
  t ++ others ["running probes", "checking safeguards"]

def withHostnameOSAndProbes (t : List Task) : List Task := withProbesAndSafeguard (withHostnameOS t)

def withBinariesOnly (t : List Task) : List Task :=
  withHostnameOSAndProbes t ++ others ["installing prerequisites"]

def kubernetesConfigFiles : List Task := others ["", "", ""]

def withResources (t : List Task) : List Task :=
  t ++ others ["adding control plane nodes to the load balancer", "",
      "determining the pause image", "patching static pods", "renewing certificates"] ++
    [.saveKubeconfig, .other "removing /etc/kubernetes/super-admin.conf", .downloadKubePKI] ++
    others ["activating features", "patching CoreDNS", "ensuring credentials secret",
      "ensuring caBundle configMap", "labeling control-plane nodes",
      "annotating control-plane nodes", "cleaning up any leftovers from addons",
      "applying addons", "applying addons", "releasing core helm charts",
      "ensuring external CCM", "ensure vSphere CSI caBundle configMap",
      "joining static worker nodes to the cluster", "labeling nodes", "annotating nodes",
      "Fix permissions of system files", "waiting for machine-controller",
      "waiting for operating-system-manager", "upgrading MachineDeployments"]

def withFullInstall (t : List Task) : List Task :=
  withHostnameOSAndProbes t ++
    others ["disabling nm-cloud-setup", "installing prerequisites"] ++
    kubernetesConfigFiles ++
    others ["kubeadm preflight checks", "pre-pull images",
      "provisioning certificates on the leader"] ++
    [.downloadKubePKI] ++
    others ["uploading Kubernetes PKI", "provisioning certificates on the followers",
      "initializing kubernetes on leader", "building kubernetes clientset",
      "approving leader's kubelet CSR", "repairing cluster",
      "removing joining control plane nodes from the load balancer",
      "joining followers control plane nodes", "restarting unhealthy kube-apiserver"] ++
    withResources [] ++
    others ["removing old and approving new kubelet CSRs", "creating worker machines"]

def withUpgrade (t : List Task) (followers staticWorkers : ℕ) : List Task :=
  withHostnameOSAndProbes t ++
    kubernetesConfigFiles ++
    others ["building kubernetes clientset", "updating kubeadm configmaps"] ++
    [.other "checking preflight safetynet" 1] ++
    others ["upgrading leader control plane"] ++
    others (List.replicate followers "upgrading follower control plane") ++
    [.downloadKubePKI] ++
    withResources [] ++
    others ["restarting unhealthy kube-apiserver"] ++
    others (List.replicate staticWorkers "upgrading static worker nodes") ++
    others ["upgrading kubelets", "migrating PVCs", "deleting unused container images",
      "cleanup /etc/kubernetes/tmp"]

def withRemoveExtraEtcdMembers (t : List Task) : List Task := t ++ others ["repairing cluster"]

def withDisableEncryptionProviders (t : List Task) (customConfig : Bool) : List Task :=
  withHostnameOSAndProbes t ++
    if customConfig then
      others ["removing encryption providers configuration", "restarting KubeAPI",
        "rewriting cluster secrets"]
    else
      others ["fetching EncryptionProviders config",
        "uploading encryption providers configuration", "restarting kube-apiserver pods",
        "rewriting cluster secrets", "removing encryption providers configuration"]

def withRewriteSecrets (t : List Task) : List Task := t ++ others ["rewriting cluster secrets"]

def withCustomEncryptionConfigUpdated (t : List Task) : List Task :=
  t ++ others ["restarting KubeAPI", "rewriting cluster secrets"]

def withAuthenticationConfigUpdated (t : List Task) : List Task :=
  t ++ others ["updating authentication configuration"]

def withRotateKey (t : List Task) : List Task :=
  withHostnameOSAndProbes t ++
    others ["fetching EncryptionProviders config",
      "uploading encryption providers configuration", "restarting KubeAPI",
      "rewriting cluster secrets", "uploading encryption providers configuration",
      "restarting kube-apiserver pods"]

/-- The flags of the command that the decision and the backup read. -/
structure Options where
  autoApprove : Bool := false
  backupFile : String := ""
  manifestFile : String := ""
  noInit : Bool := false
  forceUpgrade : Bool := false
  rotateEncryptionKey : Bool := false

/-- What a run finds before its tasks: the answers of the user, of the cloud provider and of the
probes, and the parts of the manifest that decide what is to be done. -/
structure Findings where
  credentials : Except String Unit := .ok ()
  managedPlan : Except String Bool := .ok false
  managedRun : Except String Unit := .ok ()
  confirmation : Except String Bool := .ok true
  isProvisioned : Bool := true
  healthy : Bool := true
  runRepair : Bool := false
  safeToRepair : Bool := true
  brokenHosts : Bool := false
  encryptionEnabled : Bool := false
  customEncryptionConfigured : Bool := false
  upgradeNeeded : Except String Bool := .ok false
  hasExtraEtcdMembers : Bool := false
  shouldDisableEncryption : Bool := false
  customEncryptionLive : Bool := false
  shouldEnableEncryption : Bool := false
  /-- Whether a custom encryption configuration was modified, or cannot be read. -/
  customEncryptionModified : Except String Bool := .ok false
  authenticationConfigChanged : Except String Bool := .ok false
  followers : ℕ := 0
  staticWorkers : ℕ := 0

/-- The task lists that a decision is made of. -/
structure Lists (τ : Type*) where
  withBinariesOnly : List τ → List τ
  withFullInstall : List τ → List τ
  withUpgrade : List τ → List τ
  withResources : List τ → List τ
  withRemoveExtraEtcdMembers : List τ → List τ
  withDisableEncryptionProviders : List τ → Bool → List τ
  withRewriteSecrets : List τ → List τ
  withCustomEncryptionConfigUpdated : List τ → List τ
  withAuthenticationConfigUpdated : List τ → List τ
  withRotateKey : List τ → List τ

section Decision

variable (opts : Options) (f : Findings)

def approved : Except String Bool := if opts.autoApprove then .ok true else f.confirmation

variable {τ : Type*} (t : Lists τ)

def ifApproved (tasks : List τ) : Except Failure (List τ) :=
  match approved opts f with
  | .error e => .error ⟨"", e⟩
  | .ok false => .ok []
  | .ok true => .ok tasks

namespace Lists

def runApplyInstall : Except Failure (List τ) :=
  ifApproved opts f (if opts.noInit then t.withBinariesOnly [] else t.withFullInstall [])

def runApplyRotateKey : Except Failure (List τ) :=
  if ¬ opts.forceUpgrade then
    .error ⟨"validation", "rotating encryption keys requires the --force-upgrade flag"⟩
  else if ¬ f.encryptionEnabled then
    .error ⟨"validation",
      "rotating encryption keys failed: Encryption Providers support is not enabled"⟩
  else ifApproved opts f (t.withRotateKey [])

def upgradeTasks (tasksToRun : List τ) : Except Failure (List τ) :=
  let disabled :=
    if f.shouldDisableEncryption then
      t.withDisableEncryptionProviders tasksToRun f.customEncryptionLive
    else tasksToRun
  let upgraded := t.withUpgrade disabled
  let enabled := if f.shouldEnableEncryption then t.withRewriteSecrets upgraded else upgraded
  match f.customEncryptionModified with
  | .error e => .error ⟨"", e⟩
  | .ok modified => .ok (if modified then t.withCustomEncryptionConfigUpdated enabled else enabled)

/-- The tasks of a run that finds the cluster at the version of the manifest. -/
def resourceTasks (tasksToRun : List τ) : Except Failure (List τ) :=
  match f.authenticationConfigChanged with
  | .error e => .error ⟨"", e⟩
  | .ok changed =>
    .ok (t.withResources
      (if changed then t.withAuthenticationConfigUpdated tasksToRun else tasksToRun))

def runApplyUpgradeIfNeeded : Except Failure (List τ) :=
  match f.upgradeNeeded with
  | .error e => .error ⟨"", e⟩
  | .ok needed =>
    let tasksToRun := if f.hasExtraEtcdMembers then t.withRemoveExtraEtcdMembers [] else []
    match if needed || opts.forceUpgrade then t.upgradeTasks f tasksToRun
      else t.resourceTasks f tasksToRun with
    | .error e => .error e
    | .ok tasks => ifApproved opts f tasks

def reconcile : Except Failure (List τ) :=
  if ¬ f.isProvisioned then t.runApplyInstall opts f
  else if ¬ f.healthy then
    if opts.rotateEncryptionKey then
      .error ⟨"checking encryption key rotation",
        "cluster is not healthy, encryption key rotation is not supported"⟩
    else if ¬ f.safeToRepair then
      .error ⟨"validation", "repair and upgrade are not supported at the same time"⟩
    else if f.runRepair then t.runApplyInstall opts f
    else if f.brokenHosts then
      .error ⟨"broken hosts check", "broken host(s) found, remove it manually"⟩
    else .ok []
  else if opts.rotateEncryptionKey then
    if ¬ f.encryptionEnabled then
      .error ⟨"validation", "encryption Providers support is not enabled for this cluster"⟩
    else if f.customEncryptionConfigured then
      .error ⟨"validation", "key rotation of custom providers file is not supported"⟩
    else t.runApplyRotateKey opts f
  else t.runApplyUpgradeIfNeeded opts f

end Lists

def lists : Lists Task where
  withBinariesOnly
  withFullInstall
  withUpgrade t := withUpgrade t f.followers f.staticWorkers
  withResources
  withRemoveExtraEtcdMembers
  withDisableEncryptionProviders
  withRewriteSecrets
  withCustomEncryptionConfigUpdated
  withAuthenticationConfigUpdated
  withRotateKey

def runApplyInstall : Except Failure (List Task) := (lists f).runApplyInstall opts f

def reconcile : Except Failure (List Task) := (lists f).reconcile opts f

/-- What is to be done with a managed control plane comes first; `false` ends the run. -/
def managedControlPlane : Except Failure Bool :=
  match f.credentials, f.managedPlan with
  | .error e, _ => .error ⟨"", e⟩
  | .ok (), .error e => .error ⟨"", e⟩
  | .ok (), .ok false => .ok true
  | .ok (), .ok true =>
    match approved opts f, f.managedRun with
    | .ok true, .ok () => .ok true
    | .ok true, .error e => .error ⟨"", e⟩
    | _, _ => .ok false

end Decision

end KubeOne.Cmd
