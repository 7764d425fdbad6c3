import KubeOne.Config.Marshal
import KubeOne.Initcmd.Printed

/-! The cluster that comes out of a printed one. The decoder finds everything as it was, but for the
texts that the template pastes: of each of them it gives what YAML makes of a plain scalar. -/

namespace KubeOne.Initcmd

open Config hiding members
open Config.Types List
open Yaml (Tree members lookup_members_cons isWord)
open Apis.V1beta2 (Addons)
open Apis.V1beta3 (Addon)

variable (Y : YamlDecoder)

def reread (v : String) : String := if v = "" then "" else Y.reads v

def rereadAddon (a : Addon) : Addon :=
  { a with params := a.params.map fun p => (p.1, reread Y p.2) }

def rereadCluster (c : KubeOneCluster) : KubeOneCluster :=
  { c with
    name := reread Y c.name
    kubernetes := reread Y c.kubernetes
    addons := c.addons.map fun a => { a with addons := a.addons.map (rereadAddon Y) } }

variable {Y}

variable (b : Bool) (v : String)

theorem text_pastedTree : Y.text (pastedTree v) = reread Y v := by
  unfold pastedTree reread
  split <;> rfl

theorem text_plain {v : String} (h : isWord v.toList = true) : Y.text (.plain v) = v :=
  Y.reads_of_isWord v h

theorem text_name :
    Y.text ((if v = "" then none else some (.plain v)).getD .null) = reread Y v := by
  rw [reread]
  split <;> rfl

theorem resolve_boolText : Y.resolve (boolText b) = .bool b := by
  cases b
  · exact Y.resolve_false
  · exact Y.resolve_true

theorem flag_boolTree : Y.flag (boolTree b) = b := by
  rw [boolTree, YamlDecoder.flag, resolve_boolText]
  simp

theorem text_configTree (config : String) : Y.text ((configTree config).getD .null) = config := by
  by_cases h : config = "" <;> simp [configTree, h, YamlDecoder.text]

theorem isSet_map (members : List (String × Tree)) : isSet (.map members) = true := rfl

theorem isSet_spec : isSet ((if b then some (Yaml.Tree.map []) else none).getD .null) = b := by
  cases b <;> rfl

theorem optional_map_getD {α : Type} {read : Tree → α} {tree : α → Tree} {x : Option α}
    (h : ∀ a, x = some a → optional read (tree a) = some a) :
    optional read ((x.map tree).getD .null) = x := by
  cases x with
  | none => rfl
  | some a => exact h a rfl

theorem Spec.mem_all (s : Spec) : s ∈ Spec.all := by cases s <;> decide

theorem Spec.filter_all (spec : Spec) : Spec.all.filter (· = spec) = [spec] := by
  cases spec <;> rfl

theorem Spec.name_injective {s t : Spec} (h : s.name = t.name) : s = t := by
  have hall : ∀ s ∈ Spec.all, ∀ t ∈ Spec.all, s.name = t.name → s = t := by decide
  exact hall s s.mem_all t t.mem_all h

theorem Spec.name_ne (s : Spec) :
    s.name ≠ "external" ∧ s.name ≠ "cloudConfig" ∧ s.name ≠ "csiConfig" := by
  cases s <;> decide

theorem readCloudProvider_tree {cp : CloudProviderSpec} {spec : Spec} (h : cp.specs = [spec]) :
    readCloudProvider Y (.map (members (cloudProviderFields cp))) = cp := by
  have hset (s : Spec) :
      isSet (Yaml.Tree.field (.map (members (cloudProviderFields cp))) s.name) =
        decide (s = spec) := by
    obtain ⟨hexternal, hcloud, hcsi⟩ := s.name_ne
    have hname : s.name = spec.name ↔ s = spec := ⟨Spec.name_injective, congrArg _⟩
    by_cases hs : s = spec <;>
      simp [cloudProviderFields, lookup_members_cons, name_of_specs h, hexternal, hcloud,
        hcsi, hname, hs, isSet, optional]
  have hspecs : Spec.all.filter (fun s =>
      isSet (Yaml.Tree.field (.map (members (cloudProviderFields cp))) s.name)) = cp.specs := by
    simp only [hset, h]
    exact spec.filter_all
  have hexternal : Y.flag ((if cp.external then some (boolTree true) else none).getD .null) =
      cp.external := by
    cases cp.external
    · rfl
    · exact flag_boolTree true
  obtain ⟨hne, hcloud, hcsi⟩ := spec.name_ne
  rw [readCloudProvider, hspecs]
  simp [cloudProviderFields, lookup_members_cons, name_of_specs h, hne.symm,
    hcloud.symm, hcsi.symm, hexternal, text_configTree]

theorem readCNI_tree {cni : CNI} (h : PrintableCNI cni) :
    readCNI Y (.map (members (cniFields cni))) = cni := by
  have hcilium : optional (readCilium Y) ((cni.cilium.map ciliumTree).getD .null) = cni.cilium := by
    refine optional_map_getD fun cilium hsome => ?_
    simp [ciliumTree, optional, readCilium, lookup, flag_boolTree,
      text_plain (h.replacement cilium hsome)]
  have hcanal := isSet_spec cni.canal
  have hexternal := isSet_spec cni.external
  simp_all [readCNI, cniFields, lookup_members_cons]

variable {network : ClusterNetworkConfig}

theorem readClusterNetwork_tree {cni : CNI} (hcni : network.cni = some cni) (h : PrintableCNI cni) :
    readClusterNetwork Y (.map (members (clusterNetworkFields network.kubeProxy cni))) =
      network := by
  have hproxy : optional (fun t => (⟨Y.flag (t.field "skipInstallation")⟩ : KubeProxyConfig))
      ((network.kubeProxy.map kubeProxyTree).getD .null) = network.kubeProxy :=
    optional_map_getD fun kubeProxy _ => by
      simp [kubeProxyTree, optional, flag_boolTree]
  have hread : optional (readCNI Y) (.map (members (cniFields cni))) = network.cni := by
    rw [hcni]
    exact congrArg some (readCNI_tree h)
  simp [readClusterNetwork, clusterNetworkFields, lookup_members_cons, hproxy, hread]

variable {f : Features}

theorem readFeatures_tree
    (h : ∀ dns, f.coreDNS = some dns → dns.deployPodDisruptionBudget.isSome = true) :
    readFeatures Y (.map (members (featuresFields f))) = f := by
  have hencryption : optional (fun t => (⟨Y.flag (t.field "enable")⟩ : EncryptionProviders))
      ((f.encryptionProviders.map encryptionTree).getD .null) = f.encryptionProviders :=
    optional_map_getD fun encryption _ => by
      simp [encryptionTree, optional, flag_boolTree]
  have hcoreDNS : optional
      (fun t => (⟨optional Y.flag (t.field "deployPodDisruptionBudget")⟩ : CoreDNS))
      ((f.coreDNS.map coreDNSTree).getD .null) = f.coreDNS := by
    refine optional_map_getD fun dns hsome => ?_
    obtain ⟨b, hb⟩ := Option.isSome_iff_exists.mp (h dns hsome)
    obtain ⟨budget⟩ := dns
    obtain rfl : budget = some b := hb
    have hb : Y.flag (.plain (boolText b)) = b := flag_boolTree b
    simp [coreDNSTree, optional, hb]
  simp [readFeatures, featuresFields, lookup_members_cons, hencryption, hcoreDNS]

theorem readAddon_tree {a : Addon} (h : PrintableAddon a) :
    readAddon Y (.map (members (addonFields a))) = rereadAddon Y a := by
  have hparams : Y.textMap ((if a.params = [] then none else some (paramsTree a.params)).getD
      .null) = a.params.map fun p => (p.1, reread Y p.2) := by
    by_cases hne : a.params = []
    · simp [hne, YamlDecoder.textMap]
    · simp [hne, paramsTree, YamlDecoder.textMap, text_pastedTree]
  have hsorted : (a.params.map fun p => (p.1, reread Y p.2)).Pairwise fun p q => p.1 ≤ q.1 :=
    pairwise_map.mpr ((pairwise_map.mp h.sorted).imp le_of_lt)
  simp [readAddon, rereadAddon, addonFields, lookup_members_cons, hparams,
    hsorted.insertionSort_eq, YamlDecoder.text, YamlDecoder.flag, h.flags,
    Y.reads_of_isWord _ h.name]

theorem readAddons_tree {a : Addons} (h : PrintableAddons a) :
    readAddons Y (addonsTree a) = { a with addons := a.addons.map (rereadAddon Y) } := by
  have haddons : (a.addons.map fun a => .map (members (addonFields a))).map (readAddon Y) =
      a.addons.map (rereadAddon Y) := by
    rw [map_map]
    exact map_congr_left fun addon haddon => readAddon_tree (h.addons addon haddon)
  simp [readAddons, addonsTree, lookup, elements, flag_boolTree, haddons,
    YamlDecoder.text, YamlDecoder.textMap, h.enable, h.global]

variable {s' : Schema} {c : KubeOneCluster}

section Accepts

variable {F : Formats} {s : Schema}

theorem accepts_members {fs : List (String × Schema)} {fields : List (String × Option Tree)}
    (h : ∀ f ∈ fields, ∃ s', fs.lookup f.1 = some s' ∧
      AcceptedField F s' (f.2.map (toNode Y (memberType s f.1)))) :
    accepts F (.object fs) (toNode Y s (.map (members fields))) = true := by
  have hentries : toEntries Y s (members fields) =
      present (fields.map fun f => (f.1, f.2.map (toNode Y (memberType s f.1)))) := by
    induction fields with
    | nil => rfl
    | cons f rest ih =>
      obtain ⟨key, value⟩ := f
      have ih := ih fun f hf => h f (mem_cons_of_mem _ hf)
      cases value with
      | none => exact ih
      | some t => exact congrArg (cons _) ih
  rw [toNode, hentries]
  exact accepts_ofFields (forall_mem_map.mpr h)

theorem accepts_pointer {n : Yamled.Node} (h : accepts F s' n = true) :
    accepts F (.pointer s') n = true := by
  rw [accepts, h, Bool.or_true]

theorem accepts_plain (hs : isString s = true) (v : String) :
    accepts F .string (toNode Y s (.plain v)) = true := by
  rw [toNode, if_pos hs, accepts]
  rfl

theorem accepts_pastedTree (hs : isString s = true) (v : String) :
    accepts F .string (toNode Y s (pastedTree v)) = true := by
  unfold pastedTree
  split
  · rw [toNode, accepts]
    rfl
  · exact accepts_plain hs v

theorem accepts_boolTree (hs : isString s = false) (b : Bool) :
    accepts F .bool (toNode Y s (boolTree b)) = true := by
  rw [boolTree, toNode, if_neg (by simp [hs]), resolve_boolText, accepts]
  rfl

theorem accepts_emptySpec : accepts F emptySpec (toNode Y s (.map [])) = true :=
  accepts_pointer (accepts_ofFields (show ∀ f ∈ [], _ by simp))

theorem acceptedField_ite {p : Prop} [Decidable p] {t : Tree}
    (h : accepts F s' (toNode Y s t) = true) :
    AcceptedField F s' ((if p then some t else none).map (toNode Y s)) := by
  split
  · exact acceptedField_some h
  · simp [AcceptedField]

theorem acceptedField_map {α : Type} {x : Option α} {tree : α → Tree}
    (h : ∀ a, accepts F s' (toNode Y s (tree a)) = true) :
    AcceptedField F s' ((x.map tree).map (toNode Y s)) := by
  cases x with
  | none => simp [AcceptedField]
  | some a => exact acceptedField_some (h a)

theorem acceptedField_configTree (config : String) :
    AcceptedField F .string ((configTree config).map (toNode Y s)) :=
  acceptedField_ite (by rw [toNode, accepts]; rfl)

theorem accepts_singleton {key : String} {t : Tree}
    (h : accepts F s' (toNode Y (memberType s key) t) = true) :
    accepts F (.object [(key, s')]) (toNode Y s (.map [(key, t)])) = true := by
  show accepts F _ (toNode Y s (.map (members [(key, some t)]))) = true
  exact accepts_members (by simpa using acceptedField_some h)

theorem accepts_cloudProvider {cp : CloudProviderSpec} {spec : Spec} (h : cp.specs = [spec]) :
    accepts F (.object writtenCloudProvider)
      (toNode Y cloudProviderSpec (.map (members (cloudProviderFields cp)))) = true := by
  refine accepts_members ?_
  simp only [cloudProviderFields, forall_mem_cons, name_of_specs h]
  exact ⟨⟨emptySpec, by cases spec <;> rfl, acceptedField_some accepts_emptySpec⟩,
    ⟨_, rfl, acceptedField_ite (accepts_boolTree rfl true)⟩,
    ⟨_, rfl, acceptedField_configTree _⟩, ⟨_, rfl, acceptedField_configTree _⟩, by simp⟩

theorem accepts_cni (cni : CNI) :
    accepts F (.object writtenCNI)
      (toNode Y (.pointer (Types.cni .v1beta2)) (.map (members (cniFields cni)))) = true := by
  have hcilium (cilium : CiliumSpec) : accepts F (.object writtenCilium)
      (toNode Y (.pointer (ciliumSpec .v1beta2)) (ciliumTree cilium)) = true := by
    show accepts F _ (toNode Y _ (.map (members [("enableHubble", some _),
      ("kubeProxyReplacement", some _)]))) = true
    refine accepts_members ?_
    simp only [forall_mem_cons]
    exact ⟨⟨_, rfl, acceptedField_some (accepts_boolTree rfl _)⟩,
      ⟨_, rfl, acceptedField_some (accepts_plain rfl _)⟩, by simp⟩
  refine accepts_members ?_
  simp only [cniFields, forall_mem_cons]
  exact ⟨⟨_, rfl, acceptedField_ite accepts_emptySpec⟩,
    ⟨_, rfl, acceptedField_map fun cilium => accepts_pointer (hcilium cilium)⟩,
    ⟨_, rfl, acceptedField_ite accepts_emptySpec⟩, by simp⟩

theorem accepts_clusterNetwork (kubeProxy : Option KubeProxyConfig) (cni : CNI) :
    accepts F (.object writtenNetwork) (toNode Y (clusterNetworkConfig .v1beta2)
      (.map (members (clusterNetworkFields kubeProxy cni)))) = true := by
  refine accepts_members ?_
  simp only [clusterNetworkFields, forall_mem_cons]
  exact ⟨⟨_, rfl, acceptedField_some (accepts_pointer (accepts_cni cni))⟩,
    ⟨_, rfl, acceptedField_map fun _ =>
      accepts_pointer (accepts_singleton (accepts_boolTree rfl _))⟩, by simp⟩

theorem accepts_features
    (h : ∀ dns, f.coreDNS = some dns → dns.deployPodDisruptionBudget.isSome = true) :
    accepts F (.object writtenFeatures)
      (toNode Y (features .v1beta2) (.map (members (featuresFields f)))) = true := by
  refine accepts_members ?_
  simp only [featuresFields, forall_mem_cons]
  refine ⟨⟨_, rfl, acceptedField_map fun _ =>
    accepts_pointer (accepts_singleton (accepts_boolTree rfl _))⟩, ⟨_, rfl, ?_⟩, by simp⟩
  cases hdns : f.coreDNS with
  | none => simp [AcceptedField]
  | some dns =>
    obtain ⟨b, hb⟩ := Option.isSome_iff_exists.mp (h dns hdns)
    refine acceptedField_some (accepts_pointer (accepts_singleton (accepts_pointer ?_)))
    rw [hb]
    exact accepts_boolTree rfl b

theorem accepts_addon (a : Addon) :
    accepts F (.object writtenAddon) (toNode Y addon (.map (members (addonFields a)))) = true := by
  have hparams : accepts F (.map .string) (toNode Y (.map .string) (paramsTree a.params)) =
      true := by
    have hentries : toEntries Y (.map .string) (a.params.map fun p => (p.1, pastedTree p.2)) =
        a.params.map fun p => (p.1, toNode Y .string (pastedTree p.2)) := by
      induction a.params with
      | nil => rfl
      | cons p rest ih => exact congrArg (cons _) ih
    rw [paramsTree, toNode, hentries, accepts, ofEntries, eachMember, all_eq_true]
    simp only [forall_mem_map]
    exact fun p _ => accepts_pastedTree rfl p.2
  refine accepts_members ?_
  simp only [addonFields, forall_mem_cons]
  exact ⟨⟨_, rfl, acceptedField_some (accepts_plain rfl _)⟩,
    ⟨_, rfl, acceptedField_ite hparams⟩, by simp⟩

theorem accepts_addons (a : Addons) :
    accepts F (.object writtenAddons) (toNode Y (.pointer (addons .v1beta2)) (addonsTree a)) =
      true := by
  have haddons : toNodes Y addon (a.addons.map fun a => .map (members (addonFields a))) =
      a.addons.map fun a => toNode Y addon (.map (members (addonFields a))) := by
    induction a.addons with
    | nil => rfl
    | cons a rest ih => exact congrArg (cons _) ih
  show accepts F _ (toNode Y _ (.map (members [("enable", some _), ("addons", some _)]))) = true
  refine accepts_members ?_
  simp only [forall_mem_cons]
  refine ⟨⟨_, rfl, acceptedField_some (accepts_boolTree rfl _)⟩,
    ⟨_, rfl, acceptedField_some ?_⟩, by simp⟩
  show accepts F _ (.seq (toNodes Y addon _)) = true
  rw [haddons, accepts, eachElement, all_eq_true, forall_mem_map]
  exact fun a _ => accepts_addon a

theorem accepts_deploy (hs : isString (memberType s "deploy") = false) (config : DeployConfig) :
    accepts F (.pointer (.object [("deploy", .bool)])) (toNode Y s (deployTree config)) = true :=
  accepts_pointer (accepts_singleton (accepts_boolTree hs false))

theorem accepts_cluster (h : Printable c) :
    accepts F (.object writtenFields)
      (toNode Y (kubeOneCluster .v1beta2) (.map (members (clusterFields c)))) = true := by
  obtain ⟨spec, hspec⟩ := h.spec
  refine accepts_members ?_
  simp only [clusterFields, typeMetaFields, cons_append, nil_append, forall_mem_cons]
  refine ⟨⟨_, rfl, acceptedField_some (accepts_plain rfl _)⟩,
    ⟨_, rfl, acceptedField_some (accepts_plain rfl _)⟩,
    ⟨_, rfl, acceptedField_ite (accepts_plain rfl _)⟩,
    ⟨_, rfl, acceptedField_some (accepts_singleton (accepts_pastedTree rfl _))⟩,
    ⟨_, rfl, acceptedField_some (accepts_cloudProvider hspec)⟩,
    ⟨_, rfl, acceptedField_some (accepts_singleton accepts_emptySpec)⟩,
    ⟨_, rfl, acceptedField_map fun cni => accepts_clusterNetwork _ cni⟩, ⟨_, rfl, ?_⟩,
    ⟨_, rfl, acceptedField_map (accepts_deploy rfl)⟩,
    ⟨_, rfl, acceptedField_map (accepts_deploy rfl)⟩,
    ⟨_, rfl, acceptedField_map fun a => accepts_pointer (accepts_addons a)⟩, by simp⟩
  rw [← ite_not]
  exact acceptedField_ite (accepts_features h.coreDNS)

end Accepts

variable {F : Formats}

theorem readClusterNetwork_field (h : ∀ cni, network.cni = some cni → PrintableCNI cni)
    (hproxy : network.cni = none → network.kubeProxy = none) :
    readClusterNetwork Y ((network.cni.map fun cni =>
      .map (members (clusterNetworkFields network.kubeProxy cni))).getD .null) = network := by
  cases hcni : network.cni with
  | none =>
    have hnetwork : network = ⟨none, none⟩ := by rw [← hcni, ← hproxy hcni]
    rw [hnetwork]
    rfl
  | some cni => exact readClusterNetwork_tree hcni (h cni hcni)

theorem readFeatures_field
    (h : ∀ dns, f.coreDNS = some dns → dns.deployPodDisruptionBudget.isSome = true) :
    readFeatures Y ((if f.encryptionProviders = none ∧ f.coreDNS = none then none
      else some (.map (members (featuresFields f)))).getD .null) = f := by
  split
  case isTrue hnone =>
    have hf : f = ⟨none, none⟩ := by rw [← hnone.1, ← hnone.2]
    rw [hf]
    rfl
  case isFalse => exact readFeatures_tree h

theorem readDeploy_field {config : Option DeployConfig}
    (h : ∀ d, config = some d → d.deploy = false) :
    optional (readDeploy Y) ((config.map deployTree).getD .null) = config := by
  refine optional_map_getD fun d hd => ?_
  obtain ⟨deploy⟩ := d
  obtain rfl : deploy = false := h _ hd
  simp [deployTree, optional, readDeploy, flag_boolTree]

theorem readAddons_field {addons : Option Addons} (h : ∀ a, addons = some a → PrintableAddons a) :
    optional (readAddons Y) ((addons.map addonsTree).getD .null) =
      addons.map fun a => { a with addons := a.addons.map (rereadAddon Y) } := by
  cases addons with
  | none => rfl
  | some a => exact congrArg some (readAddons_tree (h a rfl))

theorem readCluster_tree (h : Printable c) :
    readCluster Y F (.map (members (clusterFields c))) = rereadCluster Y c := by
  obtain ⟨spec, hspec⟩ := h.spec
  rw [readCluster, accepts_cluster h, Bool.not_true, ← h.others]
  simp only [clusterFields, typeMetaFields, cons_append, nil_append, Yaml.Tree.field_map,
    lookup_members_cons]
  simp [rereadCluster, text_plain h.apiVersion, text_plain h.kind, text_name, text_pastedTree,
    readCloudProvider_tree hspec, readClusterNetwork_field h.cni h.kubeProxy,
    readFeatures_field h.coreDNS, readDeploy_field h.machineController,
    readDeploy_field h.operatingSystemManager, readAddons_field h.addons, h.containerd, isSet_map]

theorem unmarshalStrict_manifest (h : Printable c) :
    unmarshalStrict Y F (manifest c) = some (.map (members (clusterFields c))) := by
  rw [unmarshalStrict, Y.compose_of_readText _ _ (readText_manifest h), Option.filter_some, if_pos]
  exact accepts_of_le (by decide) (accepts_cluster h)

theorem decode_manifest (h : Printable c) : decode Y F (manifest c) = some (rereadCluster Y c) := by
  rw [decode, unmarshalStrict_manifest h, Option.map_some, readCluster_tree h]

end KubeOne.Initcmd
