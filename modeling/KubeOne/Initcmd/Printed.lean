import KubeOne.Initcmd.Generate

/-! The document of a printed cluster. Each part of the template is read as the members that its
lines stand for, as long as the texts that are pasted are plain scalars or empty. -/

namespace KubeOne.Initcmd

open Yaml
open Apis.V1beta2 (Addons)
open Apis.V1beta3 (Addon)

def Pasted (v : String) : Prop := v = "" ∨ isPlain v.toList = true

instance (v : String) : Decidable (Pasted v) := inferInstanceAs (Decidable (_ ∨ _))

/-- The lines of texts that are printed as literal scalars. -/
structure ConfigLines (first : String) (rest : List String) : Prop where
  start : Yaml.indent first.toList = 0
  nonempty : isEmpty first.toList = false
  content : ∀ l ∈ first :: rest, isContent l.toList = true
  last : (first :: rest).getLast? ≠ some ""

def IsConfig (config : String) : Prop :=
  config = "" ∨ ∃ first rest, config = heredoc (first :: rest) ∧ ConfigLines first rest

structure PrintableParam (p : String × String) : Prop where
  key : p.1.toList.all (·.isAlphanum) = true ∧ isWord p.1.toList = true
  value : Pasted p.2

structure PrintableAddon (a : Addon) : Prop where
  name : isWord a.name.toList = true
  params : ∀ p ∈ a.params, PrintableParam p
  sorted : (a.params.map Prod.fst).Pairwise (· < ·)
  flags : a.disableTemplating = false ∧ a.delete = false

structure PrintableAddons (a : Addons) : Prop where
  enable : a.enable = true
  global : a.path = "" ∧ a.globalParams = []
  nonempty : a.addons ≠ []
  addons : ∀ addon ∈ a.addons, PrintableAddon addon

structure PrintableCNI (cni : CNI) : Prop where
  nonempty : cni ≠ {}
  replacement : ∀ cilium, cni.cilium = some cilium →
    isWord cilium.kubeProxyReplacement.toList = true

/-- Clusters whose lines are read as what they stand for. -/
structure Printable (c : KubeOneCluster) : Prop where
  apiVersion : isWord c.apiVersion.toList = true
  kind : isWord c.kind.toList = true
  name : Pasted c.name
  kubernetes : Pasted c.kubernetes
  spec : ∃ spec, c.cloudProvider.specs = [spec]
  cloudConfig : IsConfig c.cloudProvider.cloudConfig
  csiConfig : IsConfig c.cloudProvider.csiConfig
  containerd : c.containerd = true
  cni : ∀ cni, c.clusterNetwork.cni = some cni → PrintableCNI cni
  kubeProxy : c.clusterNetwork.cni = none → c.clusterNetwork.kubeProxy = none
  coreDNS : ∀ coreDNS, c.features.coreDNS = some coreDNS →
    coreDNS.deployPodDisruptionBudget.isSome = true
  machineController : ∀ config, c.machineController = some config → config.deploy = false
  operatingSystemManager : ∀ config, c.operatingSystemManager = some config → config.deploy = false
  addons : ∀ a, c.addons = some a → PrintableAddons a
  others : c.others = false

def pastedTree (v : String) : Tree := if v = "" then .null else .plain v

def configTree (config : String) : Option Tree :=
  if config ≠ "" then some (.text config) else none

def boolTree (b : Bool) : Tree := .plain (boolText b)

def typeMetaFields (c : KubeOneCluster) : List (String × Option Tree) :=
  [("apiVersion", some (.plain c.apiVersion)), ("kind", some (.plain c.kind)),
   ("name", if c.name ≠ "" then some (.plain c.name) else none)]

def cloudProviderFields (cp : CloudProviderSpec) : List (String × Option Tree) :=
  [(cp.name, some (.map [])), ("external", if cp.external then some (boolTree true) else none),
   ("cloudConfig", configTree cp.cloudConfig), ("csiConfig", configTree cp.csiConfig)]

def ciliumTree (cilium : CiliumSpec) : Tree :=
  .map [("enableHubble", boolTree cilium.enableHubble),
    ("kubeProxyReplacement", .plain cilium.kubeProxyReplacement)]

def cniFields (cni : CNI) : List (String × Option Tree) :=
  [("canal", if cni.canal then some (.map []) else none), ("cilium", cni.cilium.map ciliumTree),
   ("external", if cni.external then some (.map []) else none)]

def kubeProxyTree (kubeProxy : KubeProxyConfig) : Tree :=
  .map [("skipInstallation", boolTree kubeProxy.skipInstallation)]

def clusterNetworkFields (kubeProxy : Option KubeProxyConfig) (cni : CNI) :
    List (String × Option Tree) :=
  [("cni", some (.map (members (cniFields cni)))), ("kubeProxy", kubeProxy.map kubeProxyTree)]

def encryptionTree (encryption : EncryptionProviders) : Tree :=
  .map [("enable", boolTree encryption.enable)]

def coreDNSTree (coreDNS : CoreDNS) : Tree :=
  .map [("deployPodDisruptionBudget",
    .plain (coreDNS.deployPodDisruptionBudget.elim "<nil>" boolText))]

def featuresFields (features : Features) : List (String × Option Tree) :=
  [("encryptionProviders", features.encryptionProviders.map encryptionTree),
   ("coreDNS", features.coreDNS.map coreDNSTree)]

def deployTree (_ : DeployConfig) : Tree := .map [("deploy", boolTree false)]

def paramsTree (params : List (String × String)) : Tree :=
  .map (params.map fun p => (p.1, pastedTree p.2))

def addonFields (a : Addon) : List (String × Option Tree) :=
  [("name", some (.plain a.name)),
   ("params", if a.params ≠ [] then some (paramsTree a.params) else none)]

def addonsTree (a : Addons) : Tree :=
  .map [("enable", boolTree true),
    ("addons", .seq (a.addons.map fun a => .map (members (addonFields a))))]

def clusterFields (c : KubeOneCluster) : List (String × Option Tree) :=
  typeMetaFields c ++
    [("versions", some (.map [("kubernetes", pastedTree c.kubernetes)])),
     ("cloudProvider", some (.map (members (cloudProviderFields c.cloudProvider)))),
     ("containerRuntime", some (.map [("containerd", .map [])])),
     ("clusterNetwork", c.clusterNetwork.cni.map fun cni =>
       .map (members (clusterNetworkFields c.clusterNetwork.kubeProxy cni))),
     ("features",
       if c.features.encryptionProviders = none ∧ c.features.coreDNS = none then none
       else some (.map (members (featuresFields c.features)))),
     ("machineController", c.machineController.map deployTree),
     ("operatingSystemManager", c.operatingSystemManager.map deployTree),
     ("addons", c.addons.map addonsTree)]

variable {depth n : ℕ}

theorem isPlain_of_isWord {v : Line} (h : isWord v = true) : isPlain v = true := by
  unfold isWord at h
  split at h
  · cases h
  · simp only [Bool.and_eq_true] at h
    exact h.1.2

theorem isPlain_boolText (b : Bool) : isPlain (boolText b).toList = true := by
  cases b <;> decide

variable {key start : String} {blanks : List String}

theorem mapping_text {v : String} (h : IsEntry n key " " start) (hv : isPlain v.toList = true)
    (hblanks : allBlank blanks = true) :
    Mapping depth n ((start ++ v) :: blanks) [(key, .plain v)] :=
  mapping_plain (h.append v) hv hblanks

theorem mapping_pasted {v : String} (h : IsEntry n key " " start) (hv : Pasted v)
    (hblanks : allBlank blanks = true) :
    Mapping depth n ((start ++ v) :: blanks) [(key, pastedTree v)] := by
  rcases hv with rfl | hv
  · rw [pastedTree, if_pos rfl, String.append_empty]
    exact mapping_null h (by decide) hblanks
  · have hne : v ≠ "" := by
      rintro rfl
      exact absurd hv (by decide)
    rw [pastedTree, if_neg hne]
    exact mapping_text h hv hblanks

theorem mapping_bool (h : IsEntry n key " " start) (b : Bool) (hblanks : allBlank blanks = true) :
    Mapping depth n ((start ++ boolText b) :: blanks) [(key, boolTree b)] :=
  mapping_text h (isPlain_boolText b) hblanks

variable {c : KubeOneCluster}

theorem mapping_typeMeta (hversion : isWord c.apiVersion.toList = true)
    (hkind : isWord c.kind.toList = true) (hname : Pasted c.name) :
    Mapping depth 0 (typeMetaLines c) (members (typeMetaFields c)) := by
  have hversion : Mapping depth 0 ["apiVersion: " ++ c.apiVersion] [("apiVersion", .plain _)] :=
    mapping_text (by decide) (isPlain_of_isWord hversion) rfl
  have hkind (blanks : List String) (hblanks : allBlank blanks = true) :
      Mapping depth 0 (("kind: " ++ c.kind) :: blanks) [("kind", .plain _)] :=
    mapping_text (by decide) (isPlain_of_isWord hkind) hblanks
  rcases hname with hempty | hname
  · have h := hversion.append (hkind [""] rfl)
    simpa [typeMetaLines, typeMetaFields, members, hempty] using h
  · have hne : c.name ≠ "" := by
      intro heq
      rw [heq] at hname
      exact absurd hname (by decide)
    have hname : Mapping depth 0 ["name: " ++ c.name, ""] [("name", .plain _)] :=
      mapping_text (by decide) hname rfl
    have h := hversion.append ((hkind [] rfl).append hname)
    simpa [typeMetaLines, typeMetaFields, members, hne] using h

theorem mapping_versions (h : Pasted c.kubernetes) :
    Mapping (depth + 1) 0 (versionsLines c)
      [("versions", .map [("kubernetes", pastedTree c.kubernetes)])] :=
  mapping_map (by decide) (show 0 < 2 by decide) (mapping_pasted (by decide) h rfl) (by simp)
    (by simp)

theorem oneLine_of_isContent {l : Line} (h : isContent l = true) : '\n' ∉ l := by
  rw [isContent, Bool.and_eq_true] at h
  exact newline_notMem (by decide) h.2

theorem split_heredoc {ls : List String} (h : ∀ l ∈ ls, '\n' ∉ l.toList) :
    Text.split '\n' (heredoc ls).toList = ls.map String.toList ++ [[]] := by
  rw [heredoc, String.toList_ofList, ← List.flatMap_map String.toList (· ++ ['\n']),
    split_flatMap (List.forall_mem_map.mpr h)]

theorem map_toList_indent {ls : List String} (h : ∀ l ∈ ls, '\n' ∉ l.toList) :
    (indent n (heredoc ls)).map String.toList =
      (ls.map String.toList ++ [[]]).map (List.replicate n ' ' ++ ·) := by
  rw [indent, split_heredoc h, List.map_map]
  refine List.map_congr_left fun l _ => ?_
  simp

theorem ConfigLines.readLiteral_eq {first : String} {rest : List String}
    (h : ConfigLines first rest) :
    readLiteral ((indent n (heredoc (first :: rest))).map String.toList) =
      some (heredoc (first :: rest)) := by
  have hlast : ((first :: rest).map String.toList).getLast? ≠ some [] := by
    rw [List.getLast?_map]
    intro heq
    obtain ⟨l, hl, hempty⟩ := Option.map_eq_some_iff.mp heq
    exact h.last (by rw [hl, String.toList_eq_nil_iff.mp hempty])
  have hcontent : ∀ l ∈ (first :: rest).map String.toList, isContent l = true :=
    List.forall_mem_map.mpr h.content
  rw [List.map_cons] at hlast hcontent
  rw [map_toList_indent fun l hl => oneLine_of_isContent (h.content l hl), List.map_cons,
    readLiteral_indented h.start h.nonempty hlast hcontent, heredoc, ← List.map_cons,
    List.flatMap_map]

theorem mapping_config {line config : String} (hentry : IsEntry 2 key " |" line)
    (h : IsConfig config) :
    Mapping depth 2 (configLines line config) (members [(key, configTree config)]) := by
  rcases h with rfl | ⟨first, rest, rfl, h⟩
  · exact .nil
  · have hne : heredoc (first :: rest) ≠ "" := by
      rw [Ne, ← String.toList_eq_nil_iff, heredoc, String.toList_ofList]
      simp
    rw [configLines, if_neg hne, configTree, if_pos hne]
    have honeLine : ∀ l ∈ first :: rest, '\n' ∉ l.toList := fun l hl =>
      oneLine_of_isContent (h.content l hl)
    have hlines := map_toList_indent (n := 4) honeLine
    refine mapping_literal hentry ?_ ?_ h.readLiteral_eq
    · rw [hlines, List.forall_mem_map]
      intro l _
      simp only [isInside, indent_replicate_append, Bool.or_eq_true, decide_eq_true_eq]
      omega
    · intro l hl
      have hl := List.mem_map_of_mem (f := String.toList) hl
      rw [hlines, List.mem_map] at hl
      obtain ⟨l', hl', heq⟩ := hl
      have hl' : '\n' ∉ l' := by
        rw [List.mem_append, List.mem_singleton] at hl'
        rcases hl' with hl' | rfl
        · obtain ⟨l, hl, rfl⟩ := List.mem_map.mp hl'
          exact honeLine l hl
        · simp
      rw [← heq]
      simp [hl']

theorem name_of_specs {cp : CloudProviderSpec} {spec : Spec} (h : cp.specs = [spec]) :
    cp.name = spec.name := by
  cases spec <;> simp [CloudProviderSpec.name, h, Spec.all]

theorem mapping_cloudProvider {cp : CloudProviderSpec} {spec : Spec} (hspec : cp.specs = [spec])
    (hcloud : IsConfig cp.cloudConfig) (hcsi : IsConfig cp.csiConfig) :
    Mapping (depth + 1) 0 (cloudProviderLines cp)
      [("cloudProvider", .map (members (cloudProviderFields cp)))] := by
  have hname : Mapping depth 2 ["  " ++ cp.name ++ ": \x7b\x7d"]
      (members [(cp.name, some (.map []))]) := by
    rw [name_of_specs hspec]
    exact mapping_flow (by cases spec <;> decide) rfl
  have hexternal : Mapping depth 2 (if cp.external then ["  external: true", ""] else [])
      (members [("external", if cp.external then some (boolTree true) else none)]) :=
    mapping_ite fun _ => mapping_plain (by decide) (by decide) rfl
  have hcloud : Mapping depth 2 _ (members [("cloudConfig", _)]) :=
    mapping_config (show IsEntry 2 _ " |" "  cloudConfig: |" by decide) hcloud
  have hcsi : Mapping depth 2 _ (members [("csiConfig", _)]) :=
    mapping_config (show IsEntry 2 _ " |" "  csiConfig: |" by decide) hcsi
  have hinner := ((hname.members_append hexternal).members_append hcloud).members_append hcsi
  refine mapping_map (by decide) (show 0 < 2 by decide) hinner ?_ (nodup_members ?_)
  · simp [members, cloudProviderFields]
  · simp only [cloudProviderFields, name_of_specs hspec, List.map_cons, List.map_nil]
    cases spec <;> decide

theorem mapping_containerRuntime (h : allBlank blanks = true) :
    Mapping (depth + 1) 0 (containerRuntimeLines ++ blanks)
      [("containerRuntime", .map [("containerd", .map [])])] :=
  mapping_map (by decide) (show 0 < 2 by decide)
    (mapping_flow (show IsEntry 2 "containerd" " \x7b\x7d" "  containerd: \x7b\x7d" by decide)
      (show allBlank ("" :: blanks) = true from h)) (by simp) (by simp)

theorem mapping_cilium {cilium : CiliumSpec}
    (h : isWord cilium.kubeProxyReplacement.toList = true) :
    Mapping (depth + 1) 4
      ["    cilium:", "      enableHubble: " ++ boolText cilium.enableHubble,
       "      kubeProxyReplacement: " ++ cilium.kubeProxyReplacement]
      [("cilium", ciliumTree cilium)] := by
  have hhubble : Mapping depth 6 _ [("enableHubble", _)] :=
    mapping_bool (show IsEntry 6 _ " " "      enableHubble: " by decide) cilium.enableHubble
      (show allBlank [] = true from rfl)
  have hreplacement : Mapping depth 6 _ [("kubeProxyReplacement", _)] :=
    mapping_text (show IsEntry 6 _ " " "      kubeProxyReplacement: " by decide)
      (isPlain_of_isWord h) (show allBlank [] = true from rfl)
  exact mapping_map (by decide) (show 4 < 6 by decide) (hhubble.append hreplacement) (by simp)
    (by simp)

theorem mapping_cni {cni : CNI} (h : PrintableCNI cni) :
    Mapping (depth + 2) 2 (cniLines cni)
      (members [("cni", some (.map (members (cniFields cni))))]) := by
  have hcanal : Mapping (depth + 1) 4 (if cni.canal then ["    canal: \x7b\x7d", "  "] else [])
      (members [("canal", _)]) := mapping_ite fun _ => mapping_flow (by decide) rfl
  have hcilium : Mapping (depth + 1) 4 (cni.cilium.elim [] _) (members [("cilium", _)]) :=
    mapping_elim fun cilium hcilium => mapping_cilium (h.replacement cilium hcilium)
  have hexternal : Mapping (depth + 1) 4 (if cni.external then ["    external: \x7b\x7d"] else [])
      (members [("external", _)]) := mapping_ite fun _ => mapping_flow (by decide) rfl
  refine mapping_some (mapping_map (by decide) (show 2 < 4 by decide)
    ((hcanal.members_append hcilium).members_append hexternal) ?_
    (nodup_members (show List.Nodup ["canal", "cilium", "external"] by decide)))
  intro heq
  obtain ⟨canal, cilium, external⟩ := cni
  refine h.nonempty ?_
  cases canal <;> cases cilium <;> cases external <;> first | rfl | cases heq

theorem mapping_clusterNetwork {network : ClusterNetworkConfig}
    (h : ∀ cni, network.cni = some cni → PrintableCNI cni) :
    Mapping (depth + 3) 0 (containerRuntimeLines ++ clusterNetworkLines network)
      (members [("containerRuntime", some (.map [("containerd", .map [])])),
        ("clusterNetwork", network.cni.map fun cni =>
          .map (members (clusterNetworkFields network.kubeProxy cni)))]) := by
  rw [clusterNetworkLines]
  cases hcni : network.cni with
  | none => exact mapping_containerRuntime rfl
  | some cni =>
    have hproxy : Mapping (depth + 2) 2 (network.kubeProxy.elim [] fun kubeProxy =>
        ["  kubeProxy:", "    skipInstallation: " ++ boolText kubeProxy.skipInstallation])
        (members [("kubeProxy", network.kubeProxy.map kubeProxyTree)]) :=
      mapping_elim fun kubeProxy _ => mapping_map (by decide) (show 2 < 4 by decide)
        (mapping_bool (by decide) _ rfl) (by simp) (by simp)
    have hnetwork : Mapping (depth + 3) 0 _ [("clusterNetwork", .map _)] :=
      mapping_map (show IsEntry 0 _ "" "clusterNetwork:" by decide) (show 0 < 2 by decide)
        ((mapping_cni (h cni hcni)).members_append hproxy) (by simp [members])
        (nodup_members (show List.Nodup ["cni", "kubeProxy"] by decide))
    exact (mapping_containerRuntime (show allBlank [] = true from rfl)).append hnetwork

theorem mapping_features (features : Features)
    (h : ∀ coreDNS, features.coreDNS = some coreDNS →
      coreDNS.deployPodDisruptionBudget.isSome = true) :
    Mapping (depth + 2) 0 (featuresLines features)
      (members [("features", if features.encryptionProviders = none ∧ features.coreDNS = none
        then none else some (.map (members (featuresFields features))))]) := by
  have hencryption : Mapping (depth + 1) 2 (features.encryptionProviders.elim [] fun encryption =>
      ["  encryptionProviders:", "    enable: " ++ boolText encryption.enable])
      (members [("encryptionProviders", features.encryptionProviders.map encryptionTree)]) :=
    mapping_elim fun encryption _ => mapping_map (by decide) (show 2 < 4 by decide)
      (mapping_bool (by decide) _ rfl) (by simp) (by simp)
  have hcoreDNS : Mapping (depth + 1) 2 (features.coreDNS.elim [] fun coreDNS =>
      ["  coreDNS:", "    deployPodDisruptionBudget: " ++
        coreDNS.deployPodDisruptionBudget.elim "<nil>" boolText, ""])
      (members [("coreDNS", features.coreDNS.map coreDNSTree)]) := by
    refine mapping_elim fun coreDNS hsome => mapping_map (by decide) (show 2 < 4 by decide)
      (mapping_text (by decide) ?_ rfl) (by simp) (by simp)
    obtain ⟨b, hb⟩ := Option.isSome_iff_exists.mp (h coreDNS hsome)
    rw [hb]
    exact isPlain_boolText b
  by_cases hnone : features.encryptionProviders = none ∧ features.coreDNS = none
  · rw [featuresLines, if_pos hnone, if_pos hnone]
    exact .nil
  · rw [featuresLines, if_neg hnone, if_neg hnone]
    refine mapping_some (mapping_map (by decide) (show 0 < 2 by decide)
      (hencryption.members_append hcoreDNS) ?_
      (nodup_members (show List.Nodup ["encryptionProviders", "coreDNS"] by decide)))
    intro heq
    obtain ⟨encryption, coreDNS⟩ := features
    cases encryption <;> cases coreDNS <;> first | exact hnone ⟨rfl, rfl⟩ | cases heq

theorem mapping_deploy {line : String} (h : IsEntry 0 key "" line)
    (config : Option DeployConfig) :
    Mapping (depth + 1) 0 (deployLines line config) (members [(key, config.map deployTree)]) :=
  mapping_elim fun _ _ => mapping_map h (show 0 < 2 by decide)
    (mapping_plain (by decide) (by decide) rfl) (by simp) (by simp)

theorem mapping_params {params : List (String × String)} (h : ∀ p ∈ params, PrintableParam p) :
    Mapping depth 8 (params.map paramLine) (params.map fun p => (p.1, pastedTree p.2)) := by
  induction params with
  | nil => exact .nil
  | cons p rest ih =>
    rw [List.forall_mem_cons] at h
    have hentry : IsEntry 8 p.1 " " ("        " ++ p.1 ++ ": ") := ⟨by simp, h.1.key⟩
    have hp : Mapping depth 8 [paramLine p] [(p.1, pastedTree p.2)] :=
      mapping_pasted hentry h.1.value rfl
    exact hp.append (ih h.2)

theorem sequence_addon {a : Addon} (h : PrintableAddon a) :
    Sequence (depth + 2) 4 (addonLines a) [.map (members (addonFields a))] := by
  have hname : Mapping (depth + 1) 6 ["      name: " ++ a.name]
      (members [("name", some (.plain a.name))]) :=
    mapping_some (mapping_text (by decide) (isPlain_of_isWord h.name) rfl)
  have hparams : Mapping (depth + 1) 6
      (if a.params ≠ [] then "      params:" :: a.params.map paramLine else [])
      (members [("params", if a.params ≠ [] then some (paramsTree a.params) else none)]) := by
    refine mapping_ite fun hne => mapping_map (by decide) (show 6 < 8 by decide)
      (mapping_params h.params) (by simpa using hne) ?_
    rw [List.map_map]
    exact h.sorted.imp ne_of_lt
  have hitem : IsItem 4 _ ("    - name: " ++ a.name) ("      name: " ++ a.name) :=
    IsItem.append (show IsItem 4 "name: " _ _ by decide) a.name
  rw [addonLines, ← ite_not]
  exact sequence_map hitem (hname.members_append hparams) (by simp [members, addonFields])
    (nodup_members (show List.Nodup ["name", "params"] by decide))

theorem sequence_addons {addons : List Addon} (h : ∀ a ∈ addons, PrintableAddon a) :
    Sequence (depth + 2) 4 (addons.flatMap addonLines)
      (addons.map fun a => .map (members (addonFields a))) := by
  induction addons with
  | nil => exact .nil
  | cons a rest ih =>
    rw [List.forall_mem_cons] at h
    exact (sequence_addon h.1).append (ih h.2)

theorem mapping_addons {addons : Option Addons}
    (h : ∀ a, addons = some a → PrintableAddons a) :
    Mapping (depth + 4) 0 (addonsLines addons) (members [("addons", addons.map addonsTree)]) := by
  refine mapping_elim fun a ha => ?_
  have henable : Mapping (depth + 3) 2 ["  enable: true"] [("enable", boolTree true)] :=
    mapping_plain (by decide) (by decide) rfl
  have haddons : Mapping (depth + 3) 2 ("  addons:" :: a.addons.flatMap addonLines)
      [("addons", _)] :=
    mapping_seq (by decide) (show 2 < 4 by decide) (sequence_addons (h a ha).addons)
      (by simpa using (h a ha).nonempty)
  exact mapping_map (by decide) (show 0 < 2 by decide) (henable.append haddons) (by simp) (by simp)

theorem mapping_manifest (h : Printable c) :
    Mapping (depth + 4) 0 (manifestLines c) (members (clusterFields c)) := by
  obtain ⟨spec, hspec⟩ := h.spec
  have htypeMeta : Mapping (depth + 4) 0 (typeMetaLines c) (members (typeMetaFields c)) :=
    mapping_typeMeta h.apiVersion h.kind h.name
  have hprovider := htypeMeta.members_append (mapping_some (mapping_versions h.kubernetes))
    |>.members_append (mapping_some (mapping_cloudProvider hspec h.cloudConfig h.csiConfig))
  have hfeatures := hprovider.members_append (mapping_clusterNetwork h.cni)
    |>.members_append (mapping_features c.features h.coreDNS)
  have hcontroller : IsEntry 0 "machineController" "" "machineController:" := by decide
  have hmanager : IsEntry 0 "operatingSystemManager" "" "operatingSystemManager:" := by decide
  have haddons := hfeatures.members_append (mapping_deploy hcontroller c.machineController)
    |>.members_append (mapping_deploy hmanager c.operatingSystemManager)
    |>.members_append (mapping_addons h.addons)
  simpa [clusterFields, manifestLines] using haddons

theorem length_le_length_heredoc (ls : List String) : ls.length ≤ (heredoc ls).length := by
  rw [heredoc, String.length_ofList]
  induction ls with
  | nil => simp
  | cons l rest ih =>
    rw [List.flatMap_cons, List.length_append, List.length_append, List.length_cons]
    simp only [List.length_singleton]
    omega

theorem readText_manifest (h : Printable c) :
    readText (manifest c) = some (.map (members (clusterFields c))) := by
  have hlength : 5 ≤ (manifest c).length := by
    refine le_trans ?_ (length_le_length_heredoc (manifestLines c))
    simp [manifestLines, typeMetaLines, versionsLines]
    omega
  obtain ⟨depth, hdepth⟩ := Nat.exists_eq_add_of_le hlength
  have hmapping : Mapping (depth + 4) 0 (manifestLines c) _ := mapping_manifest h
  refine hmapping.readText_eq ?_ (nodup_members ?_) ?_ ?_
  · simp [members, clusterFields, typeMetaFields]
  · simp only [clusterFields, typeMetaFields, List.cons_append, List.nil_append, List.map_cons,
      List.map_nil]
    decide
  · rw [manifest, heredoc, String.toList_ofList]
  · omega

end KubeOne.Initcmd
