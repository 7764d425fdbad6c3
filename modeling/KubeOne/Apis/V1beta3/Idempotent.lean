import KubeOne.Apis.V1beta3.Defaults
import Mathlib.Data.String.Basic

/-! Defaulting a cluster twice. What a step reads is settled before it, so a second pass finds
nothing to fill in, with two exceptions: the hosts that bypass a proxy are listed anew around the
old list, and one letter of the version is cut off each time. -/

namespace KubeOne.Apis.V1beta3

open List

@[simp] theorem defaults_defaults {α : Type*} [Inhabited α] [DecidableEq α] (x d : α) :
    defaults (defaults x d) d = defaults x d := by
  unfold defaults
  split_ifs <;> simp_all

@[simp] theorem or_or_self {α : Type*} (x d : Option α) : (x.or d).or d = x.or d := by
  rw [Option.or_assoc, Option.or_self]

@[simp] theorem defaultHostConfig_idem (h : HostConfig) :
    defaultHostConfig (defaultHostConfig h) = defaultHostConfig h := by
  obtain ⟨id, pub, priv, port, user, key, socket, bport, buser, leader, taints⟩ := h
  by_cases hpub : pub = "" <;> by_cases hpriv : priv = "" <;> by_cases hkey : key = "" <;>
    simp [defaultHostConfig, hpub, hpriv, hkey]

theorem defaultHostConfig_update (h : HostConfig) (id : ℤ) (leader : Bool)
    (taints : Option (List Taint)) :
    defaultHostConfig { h with id := id, isLeader := leader, taints := taints } =
      { defaultHostConfig h with id := id, isLeader := leader, taints := taints } := by
  obtain ⟨id', pub, priv, port, user, key, socket, bport, buser, leader', taints'⟩ := h
  by_cases hpub : pub = "" <;> by_cases hpriv : priv = "" <;> by_cases hkey : key = "" <;>
    simp [defaultHostConfig, hpub, hpriv, hkey]

variable (n : ClusterNetworkConfig) (c : KubeOneCluster) (hosts : List HostConfig)
  (p : CloudProviderSpec) (taints : List Taint) (id : ℤ)

theorem numberedHost_eq (h : HostConfig) :
    numberedHost taints id h =
      { defaultHostConfig h with
        id := id, isLeader := h.isLeader, taints := h.taints.or (some taints) } := by
  have hid := defaultHostConfig_update h id h.isLeader h.taints
  unfold numberedHost
  rw [hid]

theorem numberedHost_leader (h : HostConfig) (leader : Bool) :
    numberedHost taints id { h with isLeader := leader } =
      { numberedHost taints id h with isLeader := leader } := by
  have hleader := defaultHostConfig_update h h.id leader h.taints
  simp only [numberedHost_eq]
  rw [hleader]

@[simp] theorem numberedHost_idem (h : HostConfig) :
    numberedHost taints id (numberedHost taints id h) = numberedHost taints id h := by
  have hinner := defaultHostConfig_update (defaultHostConfig h) id h.isLeader
    (h.taints.or (some taints))
  rw [defaultHostConfig_idem] at hinner
  simp only [numberedHost_eq, or_or_self]
  rw [hinner]

theorem withLeader_any {hosts : List HostConfig} (h : hosts ≠ []) :
    (withLeader hosts).any (·.isLeader) = true := by
  unfold withLeader
  split
  · assumption
  · cases hosts with
    | nil => exact absurd rfl h
    | cons first rest => simp

theorem map_withLeader {α : Type*} {f : HostConfig → α} {hosts : List HostConfig}
    (hf : ∀ h, f { h with isLeader := true } = f h) : (withLeader hosts).map f = hosts.map f := by
  unfold withLeader
  cases hosts with
  | nil => rfl
  | cons first rest => split <;> simp [hf]

theorem withLeader_mapIdx_idem (f : ℕ → HostConfig → HostConfig) (hosts : List HostConfig)
    (hidem : ∀ i h, f i (f i h) = f i h)
    (hleader : ∀ i h, f i { h with isLeader := true } = { f i h with isLeader := true }) :
    withLeader ((withLeader (hosts.mapIdx f)).mapIdx f) = withLeader (hosts.mapIdx f) := by
  have hmap : (withLeader (hosts.mapIdx f)).mapIdx f = withLeader (hosts.mapIdx f) := by
    unfold withLeader
    split
    · rw [mapIdx_mapIdx]
      exact congrArg hosts.mapIdx (funext fun i => funext fun h => hidem i h)
    · cases hosts with
      | nil => rfl
      | cons first rest =>
        simp only [mapIdx_cons, modifyHead_cons, hleader, hidem, mapIdx_mapIdx]
        congr 1
        exact congrArg rest.mapIdx (funext fun i => funext fun h => hidem (i + 1) h)
  rw [hmap]
  by_cases hnil : hosts = []
  · subst hnil
    rfl
  · have hany : (withLeader (hosts.mapIdx f)).any (·.isLeader) = true :=
      withLeader_any (by simpa using hnil)
    rw [withLeader, if_pos hany]

@[simp] theorem setDefaultsNodeSets_idem (ns : NodeSet) :
    setDefaultsNodeSets (setDefaultsNodeSets ns) = setDefaultsNodeSets ns := by
  unfold setDefaultsNodeSets
  by_cases h : ns.replicas = 0 <;> simp [h]

@[simp] theorem defaultHelmRelease_idem (r : HelmRelease) :
    defaultHelmRelease (defaultHelmRelease r) = defaultHelmRelease r := by
  unfold defaultHelmRelease
  by_cases hname : r.releaseName = "" <;> by_cases htime : r.waitTimeout = 0 <;>
    simp [hname, htime]

@[simp] theorem defaultStaticAuditLogConfig_idem (l : StaticAuditLogConfig) :
    defaultStaticAuditLogConfig (defaultStaticAuditLogConfig l) =
      defaultStaticAuditLogConfig l := by
  simp [defaultStaticAuditLogConfig]

@[simp] theorem defaultOpenIDConnect_idem (o : OpenIDConnectConfig) :
    defaultOpenIDConnect (defaultOpenIDConnect o) = defaultOpenIDConnect o := by
  simp [defaultOpenIDConnect]

@[simp] theorem defaultFeatures_idem (f : Features) :
    defaultFeatures (defaultFeatures f) = defaultFeatures f := by
  simp only [defaultFeatures, Option.getD_some, or_or_self, Option.map_map, Features.mk.injEq,
    true_and, and_true]
  constructor
  · refine congrArg (Option.map · f.staticAuditLog) (funext fun l => ?_)
    by_cases h : l.enable <;> simp [h]
  · refine congrArg (Option.map · f.openIDConnect) (funext fun o => ?_)
    by_cases h : o.enable <;> simp [h]

theorem serviceDomainName_defaultSubnets :
    (defaultSubnets n).serviceDomainName = n.serviceDomainName := by
  cases hf : n.ipFamily <;> simp [defaultSubnets, defaultIPv4, defaultIPv6, hf]

theorem nodePortRange_defaultSubnets : (defaultSubnets n).nodePortRange = n.nodePortRange := by
  cases hf : n.ipFamily <;> simp [defaultSubnets, defaultIPv4, defaultIPv6, hf]

theorem cni_defaultSubnets : (defaultSubnets n).cni = n.cni := by
  cases hf : n.ipFamily <;> simp [defaultSubnets, defaultIPv4, defaultIPv6, hf]

theorem defaultCanalMTU_eq : defaultCanalMTU p = 1450 := by
  unfold defaultCanalMTU
  split_ifs <;> rfl

@[simp] theorem defaultCNI_idem (mtu : ℤ) (cni : Option CNI) :
    defaultCNI mtu (some (defaultCNI mtu cni)) = defaultCNI mtu cni := by
  have hcanal (canal : CanalSpec) :
      (fun canal : CanalSpec => if canal.mtu = 0 then ({ mtu := mtu } : CanalSpec) else canal)
        (if canal.mtu = 0 then { mtu := mtu } else canal) =
      if canal.mtu = 0 then { mtu := mtu } else canal := by
    by_cases h : canal.mtu = 0 <;> by_cases hm : mtu = 0 <;> simp [h, hm]
  simp only [defaultCNI, Option.getD_some, Option.map_map]
  congr 2
  funext canal
  exact hcanal canal

@[simp] theorem withControlPlane_idem (p : ProviderSpec) :
    p.withControlPlane.withControlPlane = p.withControlPlane := by
  simp [ProviderSpec.withControlPlane]

@[simp] theorem defaultControlPlane_idem :
    defaultControlPlane (defaultControlPlane p) = defaultControlPlane p := by
  unfold defaultControlPlane
  cases p.aws <;> cases p.gce <;> cases p.hetzner <;> cases p.openstack <;>
    cases p.digitalOcean <;> simp

theorem noProvider_ite_defaultControlPlane (b : Bool) (p : CloudProviderSpec) :
    (if b then defaultControlPlane p else p).noProvider = p.noProvider := by
  unfold defaultControlPlane
  split_ifs <;> rfl

theorem trimV_idem_iff (version : String) :
    trimV (trimV version) = trimV version ↔ ¬ ['v', 'v'] <+: version.toList := by
  have hcons (rest : List Char) (h : version.toList = 'v' :: rest) :
      trimV version = .ofList rest := by
    simp [trimV, h]
  by_cases hv : ∃ rest, version.toList = 'v' :: rest
  · obtain ⟨rest, hrest⟩ := hv
    rw [hcons rest hrest, hrest]
    cases rest with
    | nil => simp [trimV]
    | cons x xs =>
      by_cases hx : x = 'v'
      · subst hx
        have hne : String.ofList xs ≠ .ofList ('v' :: xs) := by
          rw [Ne, String.ofList_inj]
          exact fun h => cons_ne_self 'v' xs h.symm
        simpa [trimV] using hne
      · simp [trimV, hx, Ne.symm hx]
  · have hsame : trimV version = version := by
      unfold trimV
      split
      · next rest h => exact absurd ⟨rest, h⟩ hv
      · rfl
    rw [hsame, hsame, eq_self_iff_true, true_iff]
    rintro ⟨tail, htail⟩
    exact hv ⟨'v' :: tail, by simpa using htail.symm⟩

theorem noProxy_ne (old : String) : noProxy n old ≠ old := by
  intro h
  have hlen := congrArg (fun s : String => s.toList.length) h
  by_cases hold : old = ""
  · simp [noProxy, hold] at hlen
  · simp [noProxy, hold] at hlen
    omega

def defaultWorkers (hosts workers : List HostConfig) : List HostConfig :=
  if hosts = [] then workers else workers.mapIdx fun idx h => numberedHost [] (idx + hosts.length) h

def defaultExternal (p : CloudProviderSpec) : CloudProviderSpec :=
  { p with external := p.external || (!p.noProvider && !p.vmwareCloudDirector) }

def defaultCloud (managed : Bool) (p : CloudProviderSpec) : CloudProviderSpec :=
  if managed then defaultControlPlane (defaultExternal p) else defaultExternal p

def defaultNetwork (n : ClusterNetworkConfig) : ClusterNetworkConfig :=
  { defaultSubnets n with
    serviceDomainName := defaults n.serviceDomainName "cluster.local"
    nodePortRange := defaults n.nodePortRange "30000-32767"
    cni := some (defaultCNI 1450 n.cni) }

def defaultProxy (n : ClusterNetworkConfig) (p : ProxyConfig) : ProxyConfig :=
  { p with noProxy := if p.http = "" ∧ p.https = "" then p.noProxy else noProxy n p.noProxy }

def defaultAddons (addons : Option Addons) : Addons :=
  { addons.getD {} with
    addons := (addons.getD {}).addons.map fun ad =>
      { ad with helmRelease := ad.helmRelease.map defaultHelmRelease } }

def defaultBundle (caBundle bundle : String) : String :=
  if caBundle ≠ "" ∧ bundle = "" then caBundle else bundle

theorem setDefaultsHosts_eq :
    setDefaultsHosts c =
      { c with
        controlPlane := { c.controlPlane with hosts := defaultHosts c.controlPlane.hosts }
        staticWorkers := defaultWorkers c.controlPlane.hosts c.staticWorkers } := by
  obtain ⟨⟨hosts, nodeSets⟩⟩ := c
  cases hosts with
  | nil => rfl
  | cons first rest => simp [setDefaultsHosts, defaultWorkers]

theorem setDefaultsCloudProvider_eq :
    setDefaultsCloudProvider c = { c with cloudProvider := defaultExternal c.cloudProvider } := by
  unfold setDefaultsCloudProvider defaultExternal
  split
  · next h => simp [h]
  · next h =>
    have hno : (!c.cloudProvider.noProvider && !c.cloudProvider.vmwareCloudDirector) = false := by
      simpa using h
    simp [hno]

theorem setDefaultsProxy_eq :
    setDefaultsProxy c = { c with proxy := defaultProxy c.clusterNetwork c.proxy } := by
  unfold setDefaultsProxy defaultProxy
  split <;> rfl

theorem setDefaultsCABundle_eq :
    setDefaultsCABundle c =
      { c with certificateAuthorityBundle :=
          defaultBundle c.caBundle c.certificateAuthorityBundle } := by
  unfold setDefaultsCABundle defaultBundle
  split <;> rfl

theorem setDefaultsKubeOneCluster_eq (suites : CipherSuites) (c : KubeOneCluster) :
    setDefaultsKubeOneCluster suites c =
      { controlPlane :=
          { hosts := defaultHosts c.controlPlane.hosts
            nodeSets := c.controlPlane.nodeSets.map (List.map setDefaultsNodeSets) }
        apiEndpointHost := c.apiEndpointHost
        apiEndpointPort := defaults c.apiEndpointPort 6443
        apiEndpointAlternativeNames := c.apiEndpointAlternativeNames
        cloudProvider := defaultCloud c.controlPlane.nodeSets.isSome c.cloudProvider
        kubernetes := trimV c.kubernetes
        containerd := some ((c.containerd.getD none).or (some true))
        clusterNetwork := defaultNetwork c.clusterNetwork
        proxy := defaultProxy (defaultNetwork c.clusterNetwork) c.proxy
        staticWorkers := defaultWorkers c.controlPlane.hosts c.staticWorkers
        machineController := c.machineController.or (some (!c.cloudProvider.noProvider))
        operatingSystemManager := c.operatingSystemManager.or
          (c.machineController.or (some (!c.cloudProvider.noProvider)))
        caBundle := c.caBundle
        certificateAuthorityBundle := defaultBundle c.caBundle c.certificateAuthorityBundle
        features := defaultFeatures c.features
        addons := some (defaultAddons c.addons)
        systemPackages := c.systemPackages.or (some true)
        loggingConfig :=
          { containerLogMaxSize := defaults c.loggingConfig.containerLogMaxSize "100Mi"
            containerLogMaxFiles := defaults c.loggingConfig.containerLogMaxFiles 5 }
        journaldSystemMaxUse := defaults c.journaldSystemMaxUse "5G"
        tlsCipherSuites :=
          { apiServer := c.tlsCipherSuites.apiServer.or (some suites.apiServer)
            etcd := c.tlsCipherSuites.etcd.or (some suites.etcd)
            kubelet := c.tlsCipherSuites.kubelet.or (some suites.kubelet) } } := by
  simp only [setDefaultsKubeOneCluster, setDefaultsHosts_eq, setDefaultsCloudProvider_eq,
    setDefaultsProxy_eq, setDefaultsCABundle_eq, setDefaultsNodeSet, setDefaultsAPIEndpoints,
    setDefaultsVersions, setDefaultsContainerRuntime, setDefaultsClusterNetwork,
    setDefaultsLoggingConfig, setDefaultsJournald, setDefaultsMachineController,
    setDefaultsOperatingSystemManager, setDefaultsAddons, setDefaultsSystemPackages,
    setDefaultsFeatures, setDefaultsTLSCipherSuites, defaultCanalMTU_eq, defaultNetwork,
    serviceDomainName_defaultSubnets, nodePortRange_defaultSubnets, cni_defaultSubnets,
    Option.isSome_map, noProvider_ite_defaultControlPlane]
  rfl

@[simp] theorem defaultHosts_idem : defaultHosts (defaultHosts hosts) = defaultHosts hosts := by
  refine withLeader_mapIdx_idem _ hosts (fun i h => numberedHost_idem _ _ h) fun i h => ?_
  exact numberedHost_leader _ _ h true

theorem length_defaultHosts : (defaultHosts hosts).length = hosts.length := by
  unfold defaultHosts withLeader
  split <;> simp

@[simp] theorem defaultWorkers_idem (workers : List HostConfig) :
    defaultWorkers (defaultHosts hosts) (defaultWorkers hosts workers) =
      defaultWorkers hosts workers := by
  have hnil : defaultHosts hosts = [] ↔ hosts = [] := by
    rw [← length_eq_zero_iff, length_defaultHosts, length_eq_zero_iff]
  simp only [defaultWorkers, hnil, length_defaultHosts]
  split
  · rfl
  · simp [mapIdx_mapIdx, Function.comp_def]

@[simp] theorem defaultExternal_idem : defaultExternal (defaultExternal p) = defaultExternal p := by
  simp [defaultExternal]

theorem defaultExternal_defaultControlPlane :
    defaultExternal (defaultControlPlane p) = defaultControlPlane (defaultExternal p) := by
  unfold defaultExternal defaultControlPlane
  split_ifs <;> rfl

@[simp] theorem defaultCloud_idem (managed : Bool) (p : CloudProviderSpec) :
    defaultCloud managed (defaultCloud managed p) = defaultCloud managed p := by
  cases managed with
  | false => simp [defaultCloud]
  | true => simp [defaultCloud, defaultExternal_defaultControlPlane]

@[simp] theorem noProvider_defaultCloud (managed : Bool) (p : CloudProviderSpec) :
    (defaultCloud managed p).noProvider = p.noProvider :=
  noProvider_ite_defaultControlPlane managed (defaultExternal p)

@[simp] theorem defaultNetwork_idem : defaultNetwork (defaultNetwork n) = defaultNetwork n := by
  cases hf : n.ipFamily <;> simp [defaultNetwork, defaultSubnets, defaultIPv4, defaultIPv6, hf]

@[simp] theorem defaultAddons_idem (addons : Option Addons) :
    defaultAddons (some (defaultAddons addons)) = defaultAddons addons := by
  simp [defaultAddons, Function.comp_def]

@[simp] theorem defaultBundle_idem (caBundle bundle : String) :
    defaultBundle caBundle (defaultBundle caBundle bundle) = defaultBundle caBundle bundle := by
  unfold defaultBundle
  split_ifs <;> simp_all

theorem defaultProxy_idem_iff (p : ProxyConfig) :
    defaultProxy n (defaultProxy n p) = defaultProxy n p ↔ p.http = "" ∧ p.https = "" := by
  by_cases h : p.http = "" ∧ p.https = ""
  · simp [defaultProxy, h]
  · simp [defaultProxy, h, noProxy_ne]

/-- Defaulting a defaulted cluster again changes nothing, exactly if no proxy is configured and
the version starts with at most one `v`. -/
theorem setDefaults_idempotent_iff (suites : CipherSuites) (c : KubeOneCluster) :
    setDefaultsKubeOneCluster suites (setDefaultsKubeOneCluster suites c) =
        setDefaultsKubeOneCluster suites c ↔
      (c.proxy.http = "" ∧ c.proxy.https = "") ∧ ¬ ['v', 'v'] <+: c.kubernetes.toList := by
  rw [← trimV_idem_iff, ← defaultProxy_idem_iff (defaultNetwork c.clusterNetwork)]
  have hsets : (c.controlPlane.nodeSets.map (map setDefaultsNodeSets)).map
      (map setDefaultsNodeSets) = c.controlPlane.nodeSets.map (map setDefaultsNodeSets) := by
    simp [Function.comp_def]
  simp only [setDefaultsKubeOneCluster_eq, KubeOneCluster.mk.injEq, Option.isSome_map, hsets,
    defaultHosts_idem, defaults_defaults, defaultCloud_idem, Option.getD_some, or_or_self,
    defaultNetwork_idem, defaultWorkers_idem, noProvider_defaultCloud, defaultBundle_idem,
    defaultFeatures_idem, defaultAddons_idem, true_and, and_true]
  exact and_comm

namespace Proxied

def suites : CipherSuites := ⟨[], [], []⟩

def cluster : KubeOneCluster :=
  { kubernetes := "1.33.4", proxy := { http := "http://10.0.0.2:3128" } }

theorem second_pass_extends_noProxy :
    (setDefaultsKubeOneCluster suites cluster).proxy.noProxy =
        "127.0.0.1/8,localhost,cluster.local,10.244.0.0/16,10.96.0.0/12" ∧
      (setDefaultsKubeOneCluster suites (setDefaultsKubeOneCluster suites cluster)).proxy.noProxy =
        "127.0.0.1/8,localhost,cluster.local,10.244.0.0/16,10.96.0.0/12," ++
          "127.0.0.1/8,localhost,cluster.local,10.244.0.0/16,10.96.0.0/12" := by
  constructor <;> decide +kernel

end Proxied

end KubeOne.Apis.V1beta3
