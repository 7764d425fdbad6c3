import KubeOne.Apis.V1beta3.Idempotent

/-! The defaults of a `v1beta2` cluster and its conversion to the internal version, which has the
fields of `v1beta3`. Most fields and steps are those of `v1beta3`. -/

namespace KubeOne.Apis.V1beta2

open V1beta3

structure Addons where
  enable : Bool := false
  path : String := ""
  globalParams : List (String × String) := []
  addons : List Addon := []
  deriving DecidableEq

structure KubeOneCluster where
  /-- The fields that `v1beta3` has, too. Its own addons stay open. -/
  common : V1beta3.KubeOneCluster
  /-- The `KubeProxyReplacement` of Cilium, which is a text in this version. -/
  kubeProxyReplacement : String := ""
  addons : Option Addons := none
  helmReleases : List HelmRelease := []

def KubeOneCluster.step (f : V1beta3.KubeOneCluster → V1beta3.KubeOneCluster)
    (c : KubeOneCluster) : KubeOneCluster :=
  { c with common := f c.common }

/-- Without a host the port is left open, too. -/
def setDefaultsAPIEndpoints (c : KubeOneCluster) : KubeOneCluster :=
  if c.common.apiEndpointHost = "" then
    match c.common.controlPlane.hosts with
    | [] => c
    | first :: _ =>
      { c with common := { c.common with
          apiEndpointHost := first.publicAddress
          apiEndpointPort := defaults c.common.apiEndpointPort 6443 } }
  else
    { c with common := { c.common with
        apiEndpointPort := defaults c.common.apiEndpointPort 6443 } }

def setDefaultsContainerRuntime (c : KubeOneCluster) : KubeOneCluster :=
  { c with common := { c.common with
      containerd := some ((c.common.containerd.getD none).or (some false)) } }

def setDefaultsClusterNetwork (c : KubeOneCluster) : KubeOneCluster :=
  let c := c.step V1beta3.setDefaultsClusterNetwork
  if (c.common.clusterNetwork.cni.bind (·.cilium)).isSome ∧ c.kubeProxyReplacement = "" then
    { c with kubeProxyReplacement := "disabled" }
  else c

def setDefaultsHelmReleases (c : KubeOneCluster) : KubeOneCluster :=
  { c with helmReleases := c.helmReleases.map defaultHelmRelease }

def setDefaultsKubeOneCluster (suites : CipherSuites) (c : KubeOneCluster) : KubeOneCluster :=
  let c := c.step setDefaultsHosts
  let c := c.step setDefaultsNodeSet
  let c := c.step setDefaultsCloudProvider
  let c := setDefaultsAPIEndpoints c
  let c := c.step setDefaultsVersions
  let c := setDefaultsContainerRuntime c
  let c := setDefaultsClusterNetwork c
  let c := c.step setDefaultsProxy
  let c := c.step setDefaultsLoggingConfig
  let c := c.step setDefaultsJournald
  let c := c.step setDefaultsMachineController
  let c := c.step setDefaultsOperatingSystemManager
  let c := setDefaultsHelmReleases c
  let c := c.step setDefaultsSystemPackages
  let c := c.step setDefaultsFeatures
  let c := c.step (setDefaultsTLSCipherSuites suites)
  c.step setDefaultsCABundle

def convertAddons (a : Addons) : V1beta3.Addons where
  path := a.path
  addons := a.addons.map fun ad => { addon := some ad }

def withReleases (addons : Option V1beta3.Addons) (releases : List HelmRelease) :
    Option V1beta3.Addons :=
  let addons := if releases ≠ [] ∧ addons = none then some {} else addons
  addons.map fun a => { a with
    addons := a.addons ++ releases.map fun r => { helmRelease := some r } }

def convertClusterNetwork (kubeProxyReplacement : String) (n : ClusterNetworkConfig) :
    ClusterNetworkConfig :=
  { n with cni := n.cni.map fun cni => { cni with
      cilium := cni.cilium.map fun cilium =>
        { cilium with kubeProxyReplacement := kubeProxyReplacement = "strict" } } }

def convertKubeOneCluster (c : KubeOneCluster) : V1beta3.KubeOneCluster :=
  { c.common with
    addons := withReleases (c.addons.map convertAddons) c.helmReleases
    clusterNetwork := convertClusterNetwork c.kubeProxyReplacement c.common.clusterNetwork }

def address (h : HostConfig) : String :=
  if h.publicAddress = "" then h.privateAddress else h.publicAddress

def endpointHost (c : V1beta3.KubeOneCluster) : String :=
  if c.apiEndpointHost = "" then (c.controlPlane.hosts.head?.map address).getD ""
  else c.apiEndpointHost

def endpointPort (c : V1beta3.KubeOneCluster) : ℤ :=
  if c.apiEndpointHost = "" ∧ c.controlPlane.hosts = [] then c.apiEndpointPort
  else defaults c.apiEndpointPort 6443

theorem address_numberedHost (taints : List Taint) (id : ℤ) (h : HostConfig) :
    (numberedHost taints id h).publicAddress = address h ∧
      address (numberedHost taints id h) = address h := by
  by_cases hpub : h.publicAddress = "" <;> by_cases hpriv : h.privateAddress = "" <;>
    by_cases hkey : h.sshPrivateKeyFile = "" <;>
    simp [numberedHost, defaultHostConfig, address, hpub, hpriv, hkey]

theorem head?_map_defaultHosts {f : HostConfig → String}
    (hleader : ∀ h : HostConfig, f { h with isLeader := true } = f h)
    (hf : ∀ taints id h, f (numberedHost taints id h) = address h)
    (hosts : List HostConfig) :
    (defaultHosts hosts).head?.map f = hosts.head?.map address := by
  cases hosts with
  | nil => rfl
  | cons first rest =>
    unfold defaultHosts withLeader
    split <;> simp [hleader, hf]

theorem defaultHosts_eq_nil (hosts : List HostConfig) : defaultHosts hosts = [] ↔ hosts = [] := by
  rw [← List.length_eq_zero_iff, length_defaultHosts, List.length_eq_zero_iff]

variable (suites : CipherSuites) (c : KubeOneCluster)

theorem setDefaultsAPIEndpoints_eq {hosts : List HostConfig}
    (h : c.common.controlPlane.hosts = defaultHosts hosts) :
    setDefaultsAPIEndpoints c =
      { c with common := { c.common with
          apiEndpointHost := if c.common.apiEndpointHost = "" then
            (hosts.head?.map address).getD "" else c.common.apiEndpointHost
          apiEndpointPort := if c.common.apiEndpointHost = "" ∧ hosts = [] then
            c.common.apiEndpointPort else defaults c.common.apiEndpointPort 6443 } } := by
  have hhead := head?_map_defaultHosts (fun _ => rfl)
    (fun taints id h => (address_numberedHost taints id h).1) hosts
  have hnil := defaultHosts_eq_nil hosts
  unfold setDefaultsAPIEndpoints
  rw [← h] at hhead hnil
  by_cases hhost : c.common.apiEndpointHost = ""
  · cases hc : c.common.controlPlane.hosts with
    | nil =>
      have hhosts : hosts = [] := hnil.mp hc
      subst hhosts
      obtain ⟨common⟩ := c
      obtain ⟨cp, host⟩ := common
      simp at hhost
      simp [hhost]
    | cons first rest =>
      rw [hc] at hhead
      have hhosts : hosts ≠ [] := by
        intro hempty
        rw [hnil.mpr hempty] at hc
        cases hc
      simp [hhost, hhosts, ← hhead]
  · simp [hhost]

theorem setDefaultsClusterNetwork_eq :
    ∃ k, (k = "strict" ↔ c.kubeProxyReplacement = "strict") ∧
      setDefaultsClusterNetwork c =
        { c with
          common := V1beta3.setDefaultsClusterNetwork c.common
          kubeProxyReplacement := k } := by
  unfold setDefaultsClusterNetwork
  dsimp only
  split
  · next h =>
    have hk : c.kubeProxyReplacement = "" := h.2
    exact ⟨"disabled", by simp [hk], rfl⟩
  · exact ⟨c.kubeProxyReplacement, Iff.rfl, rfl⟩

theorem setDefaults_eq :
    ∃ k, (k = "strict" ↔ c.kubeProxyReplacement = "strict") ∧
      setDefaultsKubeOneCluster suites c =
        { c with
          common := { V1beta3.setDefaultsKubeOneCluster suites c.common with
            apiEndpointHost := endpointHost c.common
            apiEndpointPort := endpointPort c.common
            containerd := some ((c.common.containerd.getD none).or (some false))
            addons := c.common.addons }
          kubeProxyReplacement := k
          helmReleases := c.helmReleases.map defaultHelmRelease } := by
  have hhosts : (setDefaultsCloudProvider (setDefaultsNodeSet
      (setDefaultsHosts c.common))).controlPlane.hosts =
        defaultHosts c.common.controlPlane.hosts := by
    simp only [setDefaultsCloudProvider_eq, setDefaultsNodeSet, setDefaultsHosts_eq]
  simp only [setDefaultsKubeOneCluster]
  rw [setDefaultsAPIEndpoints_eq _ hhosts]
  generalize hc' : setDefaultsContainerRuntime _ = c'
  obtain ⟨k, hk, heq⟩ := setDefaultsClusterNetwork_eq c'
  rw [heq]
  subst hc'
  refine ⟨k, hk, ?_⟩
  simp only [V1beta3.setDefaultsKubeOneCluster_eq, KubeOneCluster.step,
    setDefaultsHelmReleases, setDefaultsContainerRuntime,
    setDefaultsHosts_eq, setDefaultsCloudProvider_eq, setDefaultsProxy_eq,
    setDefaultsCABundle_eq, setDefaultsNodeSet, setDefaultsVersions,
    V1beta3.setDefaultsClusterNetwork, setDefaultsLoggingConfig,
    setDefaultsJournald, setDefaultsMachineController,
    setDefaultsOperatingSystemManager, setDefaultsSystemPackages,
    setDefaultsFeatures, setDefaultsTLSCipherSuites, defaultCanalMTU_eq,
    defaultNetwork, serviceDomainName_defaultSubnets,
    nodePortRange_defaultSubnets, cni_defaultSubnets, Option.isSome_map,
    noProvider_ite_defaultControlPlane, endpointHost, endpointPort]
  rfl

theorem endpointHost_setDefaults :
    endpointHost (setDefaultsKubeOneCluster suites c).common = endpointHost c.common := by
  obtain ⟨k, -, heq⟩ := setDefaults_eq suites c
  have hhead := head?_map_defaultHosts (fun _ => rfl)
    (fun taints id h => (address_numberedHost taints id h).2) c.common.controlPlane.hosts
  rw [heq]
  simp only [endpointHost, V1beta3.setDefaultsKubeOneCluster_eq, hhead]
  split_ifs <;> simp_all

theorem endpointPort_setDefaults :
    endpointPort (setDefaultsKubeOneCluster suites c).common = endpointPort c.common := by
  obtain ⟨k, -, heq⟩ := setDefaults_eq suites c
  rw [heq]
  simp only [endpointPort, endpointHost, V1beta3.setDefaultsKubeOneCluster_eq, defaultHosts_eq_nil]
  by_cases hhost : c.common.apiEndpointHost = "" <;>
    by_cases hhosts : c.common.controlPlane.hosts = [] <;>
    simp [hhost, hhosts]

theorem convert_setDefaults_setDefaults_eq :
    convertKubeOneCluster
        (setDefaultsKubeOneCluster suites (setDefaultsKubeOneCluster suites c)) =
      { V1beta3.setDefaultsKubeOneCluster suites
          (V1beta3.setDefaultsKubeOneCluster suites c.common) with
        apiEndpointHost := endpointHost c.common
        apiEndpointPort := endpointPort c.common
        containerd := some ((c.common.containerd.getD none).or (some false))
        clusterNetwork := convertClusterNetwork c.kubeProxyReplacement
          (defaultNetwork c.common.clusterNetwork)
        addons := withReleases (c.addons.map convertAddons)
          (c.helmReleases.map defaultHelmRelease) } := by
  have hhost := endpointHost_setDefaults suites c
  have hport := endpointPort_setDefaults suites c
  obtain ⟨k, hk, heq⟩ := setDefaults_eq suites c
  obtain ⟨k', hk', heq'⟩ := setDefaults_eq suites (setDefaultsKubeOneCluster suites c)
  have hstrict : decide (k' = "strict") = decide (c.kubeProxyReplacement = "strict") := by
    rw [decide_eq_decide, hk', heq]
    exact hk
  have hreleases : (c.helmReleases.map defaultHelmRelease).map defaultHelmRelease =
      c.helmReleases.map defaultHelmRelease := by
    simp [Function.comp_def]
  rw [heq', hhost, hport, heq]
  simp only [convertKubeOneCluster, convertClusterNetwork, hstrict, hreleases,
    V1beta3.setDefaultsKubeOneCluster_eq, defaultNetwork_idem, Option.getD_some,
    V1beta3.or_or_self]

end KubeOne.Apis.V1beta2
