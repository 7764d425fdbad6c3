import KubeOne.Config.Migrate

/-! What a migration preserves. A manifest and its migration, each loaded in its version, give the
same internal cluster if the manifest uses no field that is gone and says what it means where the
versions differ in a default or the cleanup takes something away. -/

namespace KubeOne.Config

open Yamled KubeOne.Config.Types Option Apis.V1beta3
open Apis (V1beta2.KubeOneCluster V1beta3.KubeOneCluster)
open Apis.V1beta2 (withReleases convertAddons convertKubeOneCluster convertClusterNetwork address
  endpointHost endpointPort convert_setDefaults_setDefaults_eq)
open Apis.V1beta3 (Addons AddonRef Addon HelmRelease HelmValues CipherSuites defaults
  defaultHelmRelease defaultAddons defaultNetwork setDefaultsKubeOneCluster_eq)

variable {F : Formats} {n n' : Node}

/-- The manifest uses no field that the new version does not have. -/
structure Fits (n : Node) : Prop where
  docker : (field n "containerRuntime").child (.key "docker") = none
  podSecurityPolicy : (field n "features").child (.key "podSecurityPolicy") = none
  kubeProxyReplacement :
    field (field (field (field n "clusterNetwork") "cni") "cilium") "kubeProxyReplacement" = .null
  machineAnnotations : ∀ w ∈ elements (field n "dynamicWorkers"),
    (field w "providerSpec").child (.key "machineAnnotations") = none

theorem Migrated.field_eq (h : Migrated F n n') {k : String}
    (hk : k ∉ ["apiVersion", "addons", "helmReleases", "apiEndpoint"]) :
    field n' k = field n k := by
  rw [field, field, h.others k hk]

theorem accepted_migratedAddons (hn : Canonical n) :
    AcceptedField F (.pointer (addons .v1beta3)) (migratedAddons F n) := by
  unfold migratedAddons
  split
  · cases ha : (convertKubeOneCluster (readV1beta2 F n)).addons with
    | none => simp [AcceptedField, loadAddons, clean]
    | some a => exact acceptedField_pointer (prints_addons (printable_newAddons hn ha)).accepted
  · simp [AcceptedField]

/-- The fields that the migration changes, or that differ between the versions. -/
def changedFields : List String :=
  ["apiVersion", "addons", "helmReleases", "apiEndpoint", "containerRuntime", "features",
   "clusterNetwork", "dynamicWorkers"]

theorem leFields_unchanged :
    leFields ((kubeOneClusterFields .v1beta2).filter fun field => decide (field.1 ∉ changedFields))
      (kubeOneClusterFields .v1beta3) = true := by
  decide +kernel

theorem accepts_migrated_iff (hn : Canonical n) (hn' : Canonical n')
    (haccepts : accepts F (kubeOneCluster .v1beta2) n = true) (h : Migrated F n n') :
    accepts F (kubeOneCluster .v1beta3) n' = true ↔ Fits n := by
  have hruntime := accepts_containerRuntime (canonical_field hn "containerRuntime")
    (accepts_field hn haccepts rfl rfl)
  have hfeatures := accepts_features (canonical_field hn "features")
    (accepts_field hn haccepts rfl rfl)
  have hnetwork := accepts_clusterNetwork (canonical_field hn "clusterNetwork")
    (accepts_field hn haccepts rfl rfl)
  have hworkers := accepts_dynamicWorkers (canonical_field hn "dynamicWorkers")
    (accepts_field hn haccepts rfl rfl)
  constructor
  · intro haccepts'
    have hpart {k : String} {s : Schema} (hs : accepts F s (field n' k) = true)
        (hk : k ∉ ["apiVersion", "addons", "helmReleases", "apiEndpoint"]) :
        accepts F s (field n k) = true := h.field_eq hk ▸ hs
    exact
      { docker := hruntime.mp (hpart (accepts_field hn' haccepts' rfl rfl) (by decide))
        podSecurityPolicy := hfeatures.mp (hpart (accepts_field hn' haccepts' rfl rfl) (by decide))
        kubeProxyReplacement :=
          hnetwork.mp (hpart (accepts_field hn' haccepts' rfl rfl) (by decide))
        machineAnnotations :=
          hworkers.mp (hpart (accepts_field hn' haccepts' rfl rfl) (by decide)) }
  · intro hfits
    rw [kubeOneCluster, accepts_object_iff hn']
    refine ⟨h.isObject, fun k v hv => ?_⟩
    have hchanged (name : String) (s : Schema) (hname : k = name)
        (hs : (kubeOneClusterFields .v1beta3).lookup name = some s)
        (haccepts : accepts F s v = true) :
        acceptsField F (kubeOneClusterFields .v1beta3) k v = true :=
      acceptsField_iff.mpr ⟨s, hname ▸ hs, haccepts⟩
    have hfield (hk : k ∉ ["apiVersion", "addons", "helmReleases", "apiEndpoint"]) :
        field n k = v := by
      rw [field, ← h.others k hk, hv, getD_some]
    by_cases hk : k ∈ changedFields
    · simp only [changedFields, List.mem_cons, List.not_mem_nil, or_false] at hk
      rcases hk with rfl | rfl | rfl | rfl | rfl | rfl | rfl | rfl
      · obtain rfl := some.inj (h.apiVersion.symm.trans hv)
        rfl
      · exact hchanged _ _ rfl rfl (accepted_migratedAddons hn v (h.addons.symm.trans hv))
      · rw [h.helmReleases] at hv
        cases hv
      · exact hchanged _ _ rfl rfl (h.endpoint_accepted v hv)
      · exact hchanged _ _ rfl rfl (hfield (by decide) ▸ hruntime.mpr hfits.docker)
      · exact hchanged _ _ rfl rfl (hfield (by decide) ▸ hfeatures.mpr hfits.podSecurityPolicy)
      · exact hchanged _ _ rfl rfl (hfield (by decide) ▸ hnetwork.mpr hfits.kubeProxyReplacement)
      · exact hchanged _ _ rfl rfl (hfield (by decide) ▸ hworkers.mpr hfits.machineAnnotations)
    · have hkeep : k ∉ ["apiVersion", "addons", "helmReleases", "apiEndpoint"] := by
        have hsub : ∀ k ∈ ["apiVersion", "addons", "helmReleases", "apiEndpoint"],
            k ∈ changedFields := by decide
        exact fun hmem => hk (hsub k hmem)
      rw [h.others k hkeep] at hv
      obtain ⟨s, hs, hv⟩ := acceptsField_iff.mp (((accepts_object_iff hn).mp haccepts).2 k v hv)
      rw [← lookup_filter (fun k => decide (k ∉ changedFields)) _ (by simpa using hk)] at hs
      obtain ⟨-, t, ht, hle⟩ := lookup_of_leFields leFields_unchanged hs
      exact acceptsField_iff.mpr ⟨t, ht, accepts_of_le hle hv⟩

theorem readV1beta3_migrated (h : Migrated F n n') :
    readV1beta3 F n' =
      { readCommon n with
        apiEndpointHost := migratedHost F n
        addons := optional (readAddons F) ((migratedAddons F n).getD .null) } := by
  have hfield {k : String} (hk : k ∉ ["apiVersion", "addons", "helmReleases", "apiEndpoint"]) :
      field n' k = field n k := h.field_eq hk
  have haddons : field n' "addons" = (migratedAddons F n).getD .null := by rw [field, h.addons]
  have hport := h.endpoint "port" (by decide)
  have hnames := h.endpoint "alternativeNames" (by decide)
  simp (disch := decide) only [readV1beta3, readCommon, hfield, h.host, hport, hnames, haddons]

theorem written_migrated (h : Migrated F n n') :
    alikeFields.map (field n') = alikeFields.map (field n) := by
  have halike : ∀ k ∈ alikeFields, k ∉ ["apiVersion", "addons", "helmReleases", "apiEndpoint"] := by
    decide
  exact List.map_congr_left fun k hk => h.field_eq (halike k hk)

theorem withReleases_defaults (c : V1beta2.KubeOneCluster) :
    withReleases (c.addons.map convertAddons) (c.helmReleases.map defaultHelmRelease) =
      (convertKubeOneCluster c).addons.map fun a => defaultAddons (some a) := by
  cases hold : c.addons with
  | none =>
    by_cases hr : c.helmReleases = [] <;>
      simp [convertKubeOneCluster, withReleases, hold, hr, defaultAddons, Function.comp_def]
  | some old =>
    simp [convertKubeOneCluster, withReleases, hold, defaultAddons, convertAddons,
      Function.comp_def]

/-- What the cleanup takes away from addons and releases was not there. -/
structure KeepsAddons (c : V1beta2.KubeOneCluster) : Prop where
  some_addons : c.addons ≠ none ∨ c.helmReleases ≠ []
  params : ∀ old, c.addons = some old → ∀ ad ∈ old.addons, ∀ p ∈ ad.params, p.2 ≠ ""
  values : ∀ r ∈ c.helmReleases, ∀ v ∈ r.values, keepsValues v = true
  auth : ∀ r ∈ c.helmReleases, ∀ auth, r.auth = some auth → auth.username ≠ "" ∨ auth.password ≠ ""

theorem newAddons_eq_none_iff (c : V1beta2.KubeOneCluster) :
    (convertKubeOneCluster c).addons = none ↔ c.addons = none ∧ c.helmReleases = [] := by
  cases hold : c.addons <;> by_cases hr : c.helmReleases = [] <;>
    simp [convertKubeOneCluster, withReleases, hold, hr]

theorem defaultAddons_kept_iff {c : V1beta2.KubeOneCluster} {a : Addons}
    (ha : (convertKubeOneCluster c).addons = some a) :
    defaultAddons (some (keptAddons a)) = defaultAddons (some a) ↔ KeepsAddons c := by
  have hsome : c.addons ≠ none ∨ c.helmReleases ≠ [] := by
    rw [← not_and_or, ← newAddons_eq_none_iff, ha]
    simp
  have hrefs : defaultAddons (some (keptAddons a)) = defaultAddons (some a) ↔
      ∀ ref ∈ a.addons,
        { keptRef ref with helmRelease := (keptRef ref).helmRelease.map defaultHelmRelease } =
          { ref with helmRelease := ref.helmRelease.map defaultHelmRelease } := by
    simp only [defaultAddons, keptAddons, getD_some, List.map_map, Addons.mk.injEq,
      true_and, List.map_inj_left]
    rfl
  rw [hrefs]
  simp only [defaults_keptRef_iff, mem_newAddons ha]
  constructor
  · intro h
    exact
      { some_addons := hsome
        params := fun old hold ad had =>
          (h _ (.inl ⟨old, hold, ad, had, rfl⟩)).1 ad rfl
        values := fun r hr => ((h _ (.inr ⟨r, hr, rfl⟩)).2 r rfl).1
        auth := fun r hr => ((h _ (.inr ⟨r, hr, rfl⟩)).2 r rfl).2 }
  · intro h ref href
    rcases href with ⟨old, hold, ad, had, rfl⟩ | ⟨r, hr, rfl⟩
    · exact ⟨by simpa using h.params old hold ad had, by simp⟩
    · exact ⟨by simp, by simpa using ⟨h.values r hr, h.auth r hr⟩⟩

theorem readAddons_migrated (hn : Canonical n) {a : Addons}
    (ha : (convertKubeOneCluster (readV1beta2 F n)).addons = some a) :
    (optional (readAddons F) ((migratedAddons F n).getD .null)).getD {} = keptAddons a := by
  have hhas : ((n.child (.key "addons")).isSome || (n.child (.key "helmReleases")).isSome) =
      true := by
    by_contra hnone
    simp only [Bool.or_eq_true, not_or, Bool.not_eq_true, isSome_eq_false_iff,
      isNone_iff_eq_none] at hnone
    have hempty : (convertKubeOneCluster (readV1beta2 F n)).addons = none :=
      (newAddons_eq_none_iff _).mpr (by simp [readV1beta2, field, hnone, elements])
    rw [ha] at hempty
    cases hempty
  rw [migratedAddons, if_pos hhas, ha, loadAddons]
  exact readAddons_clean fun ref href => (printable_newAddons hn ha ref href).1

theorem addons_eq_iff (hn : Canonical n) :
    some (defaultAddons (optional (readAddons F) ((migratedAddons F n).getD .null))) =
        (convertKubeOneCluster (readV1beta2 F n)).addons.map (fun a => defaultAddons (some a)) ↔
      KeepsAddons (readV1beta2 F n) := by
  cases ha : (convertKubeOneCluster (readV1beta2 F n)).addons with
  | none =>
    obtain ⟨hold, hr⟩ := (newAddons_eq_none_iff _).mp ha
    have hno : ¬ KeepsAddons (readV1beta2 F n) := fun h => h.some_addons.elim (· hold) (· hr)
    simp [hno]
  | some a =>
    have hread := readAddons_migrated hn ha
    have hdefaults : defaultAddons (optional (readAddons F) ((migratedAddons F n).getD .null)) =
        defaultAddons (some (keptAddons a)) := by
      simp only [defaultAddons, hread, getD_some]
    rw [hdefaults, map_some, some.injEq, defaultAddons_kept_iff ha]

/-- The manifest says where the API is: it names the host or gives the port, or it has a first host
whose address can be written down. -/
def SaysEndpoint (F : Formats) (n : Node) : Prop :=
  let c := (readV1beta2 F n).common
  c.apiEndpointHost ≠ "" ∨ (c.controlPlane.hosts = [] ∧ c.apiEndpointPort ≠ 0) ∨
    ∃ first rest, c.controlPlane.hosts = first :: rest ∧
      (n.child (.key "apiEndpoint") ≠ some .null ∨ address first = "")

theorem defaults_eq_self_iff (port : ℤ) : defaults port 6443 = port ↔ port ≠ 0 := by
  by_cases h : port = 0 <;> simp [defaults, h]

theorem endpoint_eq_iff :
    (migratedHost F n = endpointHost (readV1beta2 F n).common ∧
      defaults (readV1beta2 F n).common.apiEndpointPort 6443 =
        endpointPort (readV1beta2 F n).common) ↔ SaysEndpoint F n := by
  unfold SaysEndpoint migratedHost endpointHost endpointPort
  by_cases hhost : (readV1beta2 F n).common.apiEndpointHost = ""
  · cases hhosts : (readV1beta2 F n).common.controlPlane.hosts with
    | nil => simp [hhost, hhosts, defaults_eq_self_iff]
    | cons first rest =>
      by_cases hnull : n.child (.key "apiEndpoint") = some .null
      · simp [hhost, hhosts, hnull, eq_comm (a := "")]
      · simp [hhost, hhosts, hnull]
  · simp [hhost]

theorem convertClusterNetwork_eq_self {k : String} (hk : k ≠ "strict")
    {network : ClusterNetworkConfig}
    (h : ∀ cni, network.cni = some cni → ∀ cilium, cni.cilium = some cilium →
      cilium.kubeProxyReplacement = false) : convertClusterNetwork k network = network := by
  obtain ⟨_, _, _, _, _, _, cni⟩ := network
  cases cni with
  | none => rfl
  | some cni =>
    obtain ⟨canal, cilium⟩ := cni
    cases cilium with
    | none => rfl
    | some cilium =>
      obtain ⟨replacement⟩ := cilium
      obtain rfl : replacement = false := h _ rfl _ rfl
      simp [convertClusterNetwork, hk]

theorem convertClusterNetwork_of_fits (h : Fits n) :
    convertClusterNetwork (readV1beta2 F n).kubeProxyReplacement
        (defaultNetwork (readCommon n).clusterNetwork) =
      defaultNetwork (readCommon n).clusterNetwork := by
  have hnull := h.kubeProxyReplacement
  refine convertClusterNetwork_eq_self ?_ fun cni hcni cilium hcilium => ?_
  · simp [readV1beta2, hnull, text]
  · obtain rfl := some.inj hcni
    simp only [defaultCNI, readCommon, readClusterNetwork, optional] at hcilium
    split at hcilium
    · cases hcilium
    · simp only [getD_some, readCNI] at hcilium
      obtain ⟨-, rfl⟩ := optional_eq_some_iff.mp hcilium
      simp [hnull, flag]

theorem cluster_eq_iff (suites : CipherSuites) (hn : Canonical n) (h : Migrated F n n')
    (hfits : Fits n) :
    setDefaultsKubeOneCluster suites
          (setDefaultsKubeOneCluster suites (readV1beta3 F n')) =
        convertKubeOneCluster (Apis.V1beta2.setDefaultsKubeOneCluster suites
          (Apis.V1beta2.setDefaultsKubeOneCluster suites (readV1beta2 F n))) ↔
      SaysEndpoint F n ∧ (readV1beta2 F n).common.containerd.getD none ≠ none ∧
        KeepsAddons (readV1beta2 F n) := by
  have hcontainerd (x : Option (Option Bool)) :
      some ((x.getD none).or (some true)) = some ((x.getD none).or (some false)) ↔
        x.getD none ≠ none := by
    cases x.getD none <;> simp
  rw [← endpoint_eq_iff, ← addons_eq_iff hn, ← hcontainerd, readV1beta3_migrated h,
    convert_setDefaults_setDefaults_eq, withReleases_defaults]
  have hnetwork := convertClusterNetwork_of_fits (F := F) hfits
  have hcommon : (readV1beta2 F n).common = readCommon n := rfl
  simp only [setDefaultsKubeOneCluster_eq, hcommon, hnetwork, true_and, and_true,
    defaults_defaults, defaultAddons_idem, getD_some,
    or_or_self, defaultNetwork_idem,
    KubeOneCluster.mk.injEq, and_assoc]

structure Survives (F : Formats) (n : Node) : Prop where
  fits : Fits n
  endpoint : SaysEndpoint F n
  deviceOwnership : (readV1beta2 F n).common.containerd.getD none ≠ none
  addons : KeepsAddons (readV1beta2 F n)

theorem decodeInto_eq_some_iff {v : Version} {d : Document} :
    decodeInto F v d = some n ↔ unmarshalStrict F v d = some n ∧
      text (field n "apiVersion") = groupVersion v ∧ text (field n "kind") = "KubeOneCluster" := by
  rw [decodeInto, filter_eq_some_iff, decide_eq_true_eq]

theorem decodeInto_migrated_iff {d d' : Document} (h : decodeInto F .v1beta2 d = some n)
    (hjson : Json F d' n') (hmigrated : Migrated F n n') :
    decodeInto F .v1beta3 d' = some n' ↔ Fits n := by
  obtain ⟨hold, -, hkind⟩ := decodeInto_eq_some_iff.mp h
  obtain ⟨hn, haccepts⟩ := unmarshalStrict_eq_some_iff.mp hold
  have hversion : text (field n' "apiVersion") = groupVersion .v1beta3 := by
    rw [field, hmigrated.apiVersion]
    rfl
  rw [← hmigrated.field_eq (by decide)] at hkind
  rw [decodeInto_eq_some_iff, unmarshalStrict_eq_some_iff, and_iff_left ⟨hversion, hkind⟩,
    and_iff_right hjson,
    accepts_migrated_iff (canonical_normal hn) (canonical_normal hjson) haccepts hmigrated]

/-- The migrated manifest is decoded and gives the internal cluster of the original exactly if the
original uses no field that is gone, sets the device ownership of containerd, has addons or Helm
releases without anything unset in them, and says where the API is. -/
theorem migration_preserves_meaning_iff (F : Formats) (suites : CipherSuites) {d : Document}
    {n : Node} (h : decodeInto F .v1beta2 d = some n) :
    (∃ m d' m', decodeV1beta2 F suites d = some m ∧ migrateV1beta2V1beta3 F d = some d' ∧
        decodeV1beta3 F suites d' = some m' ∧
        defaultedV1Beta3KubeOneCluster suites m' = defaultedV1Beta2KubeOneCluster suites m) ↔
      Survives F n := by
  have hold := (decodeInto_eq_some_iff.mp h).1
  have hn : Canonical n := canonical_normal (unmarshalStrict_eq_some_iff.mp hold).1
  obtain ⟨d', n', hmigrate, hjson, hmigrated⟩ := migrate_spec hold
  have hdecode := decodeInto_migrated_iff h hjson hmigrated
  have hcluster := cluster_eq_iff suites hn hmigrated
  have hwritten := written_migrated hmigrated
  constructor
  · rintro ⟨m, d'', m', hm, hd'', hm', heq⟩
    obtain rfl := some.inj (hmigrate.symm.trans hd'')
    rw [decodeV1beta2, h, map_some, some.injEq] at hm
    obtain ⟨n'', hn'', hread⟩ := map_eq_some_iff.mp hm'
    have hsame : n'' = n' := by
      have := (unmarshalStrict_eq_some_iff.mp (decodeInto_eq_some_iff.mp hn'').1).1
      exact some.inj (this.symm.trans hjson)
    subst hm hread hsame
    have hfits := hdecode.mp hn''
    obtain ⟨hendpoint, hdevice, haddons⟩ := (hcluster hfits).mp (congrArg Manifest.cluster heq)
    exact ⟨hfits, hendpoint, hdevice, haddons⟩
  · intro hsurvives
    have hn' := hdecode.mpr hsurvives.fits
    refine ⟨_, d', _, by rw [decodeV1beta2, h]; rfl, hmigrate, by rw [decodeV1beta3, hn']; rfl, ?_⟩
    have heq := (hcluster hsurvives.fits).mpr
      ⟨hsurvives.endpoint, hsurvives.deviceOwnership, hsurvives.addons⟩
    simp only [defaultedV1Beta3KubeOneCluster, defaultedV1Beta2KubeOneCluster, heq, hwritten]

namespace Demo

def formats : Formats where
  numberText _ := "0"
  numberText_head n c h := by
    obtain rfl : '0' = c := by simpa using h
    rfl
  parseDuration s := if s = "0s" then some 0 else none
  durationText _ := "0s"
  durationText_zero := by simp
  durationText_parsed s d h := by
    by_cases hs : s = "0s"
    · simpa [hs] using h
    · simp [hs] at h
  isBytes _ := false
  isTime _ := false

def suites : CipherSuites := ⟨[], [], []⟩

def manifest (containerRuntime : Node) : Document :=
  ⟨[(.str "apiVersion", .str "kubeone.k8c.io/v1beta2"), (.str "kind", .str "KubeOneCluster"),
    (.str "name", .str "demo"),
    (.str "controlPlane", .mapSlice [(.str "hosts", .seq
      [.mapSlice [(.str "publicAddress", .str "192.0.2.10")]])]),
    (.str "cloudProvider", .mapSlice [(.str "none", .mapSlice [])]),
    (.str "versions", .mapSlice [(.str "kubernetes", .str "1.33.4")]),
    (.str "containerRuntime", containerRuntime),
    (.str "addons", .mapSlice [(.str "path", .str "./addons")])]⟩

/-- What the manifest leaves open is false in the old version and true in the new one. -/
theorem migration_flips_device_ownership :
    (decodeV1beta2 formats suites (manifest .null)).map (fun m =>
        (defaultedV1Beta2KubeOneCluster suites m).cluster.containerd) = some (some (some false)) ∧
      ((migrateV1beta2V1beta3 formats (manifest .null)).bind (decodeV1beta3 formats suites)).map
        (fun m => (defaultedV1Beta3KubeOneCluster suites m).cluster.containerd) =
          some (some (some true)) := by
  constructor <;> decide +kernel

def containerd : Node :=
  .mapSlice [(.str "containerd", .mapSlice
    [(.str "deviceOwnershipFromSecurityContext", .bool true)])]

def json : Node :=
  .mapSlice
    [(.str "addons", .mapSlice [(.str "path", .str "./addons")]),
     (.str "apiVersion", .str "kubeone.k8c.io/v1beta2"),
     (.str "cloudProvider", .mapSlice [(.str "none", .mapSlice [])]),
     (.str "containerRuntime", containerd),
     (.str "controlPlane", .mapSlice [(.str "hosts", .seq
       [.mapSlice [(.str "publicAddress", .str "192.0.2.10")]])]),
     (.str "kind", .str "KubeOneCluster"), (.str "name", .str "demo"),
     (.str "versions", .mapSlice [(.str "kubernetes", .str "1.33.4")])]

theorem survives_json : Survives formats json := by
  have haddons : (readV1beta2 formats json).addons = some { path := "./addons" } := by
    decide +kernel
  have hreleases : (readV1beta2 formats json).helmReleases = [] := by decide +kernel
  exact
    { fits := ⟨by decide +kernel, by decide +kernel, by decide +kernel, by decide +kernel⟩
      endpoint := .inr (.inr ⟨_, _, rfl, .inl (by decide +kernel)⟩)
      deviceOwnership := by decide +kernel
      addons := ⟨.inl (by simp [haddons]), by simp [haddons], by simp [hreleases],
        by simp [hreleases]⟩ }

theorem migration_keeps_explicit_device_ownership :
    ∃ m d' m', decodeV1beta2 formats suites (manifest containerd) = some m ∧
      migrateV1beta2V1beta3 formats (manifest containerd) = some d' ∧
      decodeV1beta3 formats suites d' = some m' ∧
      defaultedV1Beta3KubeOneCluster suites m' = defaultedV1Beta2KubeOneCluster suites m :=
  (migration_preserves_meaning_iff formats suites (n := json) rfl).mpr survives_json

end Demo

end KubeOne.Config
