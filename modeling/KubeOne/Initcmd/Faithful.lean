import KubeOne.Config.Preserved
import KubeOne.Initcmd.Decoded

/-! `kubeone init` writes what was entered, as long as YAML reads each of the pasted texts as the
text that it is. Names and versions that the validators let pass are plain scalars, but some of
them are numbers or truth values. -/

namespace KubeOne.Initcmd

open List

open Config (Formats)
open Yaml (isPlain isPlainChar isPlain_of_forall isWord isContent)
open Apis.V1beta2 (Addons)
open Apis.V1beta3 (Addon)

theorem isAlphanum_of_isLowerAlnum {c : Char} (h : Text.isLowerAlnum c = true) :
    c.isAlphanum = true := by
  simp only [Text.isLowerAlnum, Bool.or_eq_true, Bool.and_eq_true, decide_eq_true_eq] at h
  simp only [Char.isAlphanum, Char.isAlpha, Char.isLower, Char.isDigit, Bool.or_eq_true,
    Bool.and_eq_true, decide_eq_true_eq]
  rcases h with h | h
  · exact .inl (.inr h)
  · exact .inr h

variable {name : String}

theorem isPlain_of_clusterNameValidator (h : clusterNameValidator name = true) :
    isPlain name.toList = true := by
  have hdns := CloudProvider.isDNS1123Subdomain_of_validateName (of_decide_eq_true h)
  rw [Text.isDNS1123Subdomain, Bool.and_eq_true, Text.all_label_split_iff] at hdns
  obtain ⟨-, ⟨⟨hhead, -⟩, hchars⟩, -⟩ := hdns
  cases hcs : name.toList with
  | nil => simp [hcs] at hhead
  | cons c cs =>
    rw [hcs] at hhead hchars
    refine isPlain_of_forall (isAlphanum_of_isLowerAlnum hhead) fun d hd => ?_
    rcases hchars d (mem_cons_of_mem c hd) with hd | rfl | rfl
    · simp [isPlainChar, isAlphanum_of_isLowerAlnum hd]
    · rfl
    · rfl

theorem isPlain_of_kubernetesVersionValidator {S : SemverLibrary} {version : String}
    (h : kubernetesVersionValidator S version = true) : isPlain version.toList = true := by
  rw [kubernetesVersionValidator, validateVersionConfig] at h
  split at h
  case h_1 => cases h
  case h_2 v hv =>
    obtain ⟨c, cs, hcs, hc, hchars⟩ := S.newVersion_chars _ v hv
    rw [String.toList_ofList] at hcs
    have hc : c.isAlphanum = true := by
      rcases hc with rfl | hc
      · rfl
      · simp [Char.isAlphanum, hc]
    have hsplit := takeWhile_append_dropWhile (p := fun c => decide (c = 'v'))
      (l := version.toList)
    rw [hcs] at hsplit
    rw [← hsplit]
    cases htake : version.toList.takeWhile (fun c => decide (c = 'v')) with
    | nil => exact isPlain_of_forall hc hchars
    | cons d ds =>
      have hv : ∀ e ∈ d :: ds, e = 'v' := fun e he => by
        rw [← htake] at he
        simpa using mem_takeWhile_imp he
      rw [forall_mem_cons] at hv
      refine isPlain_of_forall (by rw [hv.1]; rfl) (forall_mem_append.mpr ⟨?_, ?_⟩)
      · intro e he
        rw [hv.2 e he]
        rfl
      · rw [forall_mem_cons]
        exact ⟨by simp [isPlainChar, hc], hchars⟩

theorem isContent_toList {s : String} {cs : List Char} (h : s = .ofList cs)
    (hcs : isContent cs = true) : isContent s.toList = true := by
  rw [h, String.toList_ofList]
  exact hcs

theorem isContent_configs : ∀ l ∈ azureCloudConfig ++ openstackCloudConfig ++ vsphereCloudConfig ++
    vsphereCSIConfig, isContent l.toList = true := by
  simp only [azureCloudConfig, openstackCloudConfig, vsphereCloudConfig, vsphereCSIConfig,
    cons_append, nil_append, forall_mem_cons]
  repeat refine ⟨isContent_toList rfl (by decide), ?_⟩
  simp

theorem isConfig_initProvider (name : String) :
    IsConfig (initProvider name).cloudConfig ∧ IsConfig (initProvider name).csiConfig := by
  have hcontent := isContent_configs
  simp only [forall_mem_append] at hcontent
  obtain ⟨⟨⟨hazure, hopenstack⟩, hvsphere⟩, hcsi⟩ := hcontent
  have hempty : IsConfig "" := .inl rfl
  have hazure : IsConfig (heredoc azureCloudConfig) :=
    .inr ⟨_, _, rfl, ⟨by decide, by decide, hazure, by decide⟩⟩
  have hopenstack : IsConfig (heredoc openstackCloudConfig) :=
    .inr ⟨_, _, rfl, ⟨by decide, by decide, hopenstack, by decide⟩⟩
  have hvsphere : IsConfig (heredoc vsphereCloudConfig) :=
    .inr ⟨_, _, rfl, ⟨by decide, by decide, hvsphere, by decide⟩⟩
  have hcsi : IsConfig (heredoc vsphereCSIConfig) :=
    .inr ⟨_, _, rfl, ⟨by decide, by decide, hcsi, by decide⟩⟩
  have hall : ∀ e ∈ validProviders, IsConfig e.2.cloudConfig ∧ IsConfig e.2.csiConfig := by
    simp only [validProviders, forall_mem_cons]
    simp [hempty, hazure, hopenstack, hvsphere, hcsi]
  unfold initProvider
  cases hlookup : validProviders.lookup name with
  | none => exact ⟨hempty, hempty⟩
  | some prov => exact hall _ (Collections.mem_of_lookup_eq_some hlookup)

theorem setCloudProvider_ok {cp cp' : CloudProviderSpec} (hcp : cp.specs = [])
    (h : setCloudProvider cp name = .ok cp') : ∃ spec, cp' = { cp with specs := [spec] } := by
  unfold setCloudProvider at h
  split at h
  case h_1 spec _ =>
    cases h
    refine ⟨spec, ?_⟩
    simp only [hcp, not_mem_nil, or_false]
    rw [← spec.filter_all]
  case h_2 => cases h

variable {c : KubeOneCluster} {opts : GenerateOpts}

theorem clusterOf_ok (h : clusterOf opts = .ok c) : ∃ spec, c = newCluster opts
      { external := (initProvider opts.providerName).external
        cloudConfig := (initProvider opts.providerName).cloudConfig
        csiConfig := (initProvider opts.providerName).csiConfig
        specs := [spec] } := by
  unfold clusterOf at h
  simp only [bind, Except.bind] at h
  split at h
  case h_1 => cases h
  case h_2 cp hcp =>
    cases h
    obtain ⟨spec, rfl⟩ := setCloudProvider_ok rfl hcp
    exact ⟨spec, rfl⟩

def backupAnswers (opts : GenerateOpts) : List String :=
  if opts.enableAddonBackups then
    [opts.addonBackupsDefaultAWSRegion, opts.addonBackupsPassword, opts.addonBackupsS3Bucket]
  else []

def pastedAnswers (opts : GenerateOpts) : List String :=
  manifestName opts :: opts.kubernetesVersion :: backupAnswers opts

theorem printableAddon_of_name (h : isWord name.toList = true) : PrintableAddon { name } :=
  ⟨h, by simp, by simp, rfl, rfl⟩

theorem printableParam_mk {key v : String}
    (hkey : key.toList.all (·.isAlphanum) = true ∧ isWord key.toList = true) (hv : Pasted v) :
    PrintableParam (key, v) :=
  ⟨hkey, hv⟩

theorem printable_backupsAddon
    (h : Pasted opts.addonBackupsDefaultAWSRegion ∧ Pasted opts.addonBackupsPassword ∧
      Pasted opts.addonBackupsS3Bucket) : PrintableAddon (backupsAddon opts) where
  name := show isWord "backups-restic".toList = true by decide
  params := by
    simp only [backupsAddon, forall_mem_cons]
    exact ⟨printableParam_mk (by decide) h.1, printableParam_mk (by decide) h.2.1,
      printableParam_mk (by decide) h.2.2, by simp⟩
  sorted := show List.Pairwise (· < ·) ["awsDefaultRegion", "resticPassword", "s3Bucket"] by decide
  flags := ⟨rfl, rfl⟩

theorem printable_additionalAddons (h : ∀ v ∈ backupAnswers opts, Pasted v) :
    ∀ a ∈ additionalAddons opts, PrintableAddon a := by
  rw [additionalAddons, forall_mem_append]
  constructor
  · split
    · simpa using printableAddon_of_name (show isWord "cluster-autoscaler".toList by decide)
    · simp
  · split
    case isTrue hbackups =>
      simp only [backupAnswers, if_pos hbackups, forall_mem_cons] at h
      simpa using printable_backupsAddon ⟨h.1, h.2.1, h.2.2.1⟩
    case isFalse => simp

theorem additionalAddons_eq_nil_iff : additionalAddons opts = [] ↔
      ¬(opts.enableAddonAutoscaler = true ∨ opts.enableAddonBackups = true) := by
  rw [additionalAddons]
  cases opts.enableAddonAutoscaler <;> cases opts.enableAddonBackups <;> simp

def defaultAddons : Addons := { enable := true, addons := [{ name := "default-storage-class" }] }

variable {base : Option Addons}

theorem addAddons_eq {a : Addons}
    (hbase : base = none ∨ base = some defaultAddons) (h : addAddons base opts = some a) :
    ∃ first, a = { enable := true, addons := first ++ additionalAddons opts } ∧
      first ++ additionalAddons opts ≠ [] ∧
      (first = [] ∨ first = [{ name := "default-storage-class" }]) := by
  obtain ⟨a', ha', rfl⟩ := Option.map_eq_some_iff.mp h
  rcases hbase with rfl | rfl
  · split at ha'
    case isTrue hadd =>
      cases ha'
      exact ⟨[], rfl, fun hnil => additionalAddons_eq_nil_iff.mp hnil hadd, .inl rfl⟩
    case isFalse => cases ha'
  · have ha' : a' = defaultAddons := by
      split at ha' <;> exact (Option.some.inj ha').symm
    subst ha'
    exact ⟨[{ name := "default-storage-class" }], rfl, by simp, .inr rfl⟩

theorem printable_addAddons {a : Addons}
    (hbase : base = none ∨ base = some defaultAddons) (h : addAddons base opts = some a)
    (hanswers : ∀ v ∈ backupAnswers opts, Pasted v) : PrintableAddons a := by
  obtain ⟨first, rfl, hne, hfirst⟩ := addAddons_eq hbase h
  refine ⟨rfl, ⟨rfl, rfl⟩, hne, ?_⟩
  refine forall_mem_append.mpr ⟨?_, printable_additionalAddons hanswers⟩
  rcases hfirst with rfl | rfl
  · simp
  · simpa using printableAddon_of_name (show isWord "default-storage-class".toList by decide)

theorem printable_setCNI {value : CNIValue} {cni : CNI} (h : (setCNI {} value).cni = some cni) :
    PrintableCNI cni := by
  cases value <;> cases h
  all_goals exact ⟨by decide, by decide⟩

theorem printable_newCluster {cp : CloudProviderSpec} {spec : Spec}
    (hspec : cp.specs = [spec]) (hcloud : IsConfig cp.cloudConfig) (hcsi : IsConfig cp.csiConfig)
    (h : ∀ v ∈ pastedAnswers opts, Pasted v) : Printable (newCluster opts cp) := by
  simp only [pastedAnswers, forall_mem_cons] at h
  obtain ⟨hname, hversion, hbackups⟩ := h
  have hgroup : isWord "kubeone.k8c.io/v1beta2".toList = true := by decide
  have hkind : isWord "KubeOneCluster".toList = true := by decide
  have hcni : ∀ cni, (setCNI {} opts.cni).cni = some cni → PrintableCNI cni :=
    fun _ => printable_setCNI
  have hproxy : (setCNI {} opts.cni).cni = none → (setCNI {} opts.cni).kubeProxy = none := by
    cases opts.cni <;> simp [setCNI]
  have hcoreDNS : ∀ dns, (setFeatures {} opts).coreDNS = some dns →
      dns.deployPodDisruptionBudget.isSome = true := by
    intro dns hdns
    cases hpdb : opts.enableFeatureCoreDNSPDB <;> simp [setFeatures, hpdb] at hdns
    simp [← hdns]
  unfold newCluster
  split
  all_goals
    refine ⟨hgroup, hkind, hname, hversion, ⟨spec, hspec⟩, hcloud, hcsi, rfl, hcni, hproxy,
      hcoreDNS, ?_, ?_, ?_, rfl⟩
  case isTrue.refine_3 => exact fun a ha => printable_addAddons (.inl rfl) ha hbackups
  case isFalse.refine_3 => exact fun a ha => printable_addAddons (.inr rfl) ha hbackups
  all_goals
    rintro d ⟨⟩
    try rfl

section Reread

variable {Y : YamlDecoder} {opts : GenerateOpts}

theorem rereadCluster_eq_self_iff :
    rereadCluster Y c = c ↔ reread Y c.name = c.name ∧ reread Y c.kubernetes = c.kubernetes ∧
      c.addons.map (fun a => { a with addons := a.addons.map (rereadAddon Y) }) = c.addons := by
  obtain ⟨apiVersion, kind, name⟩ := c
  simp [rereadCluster]

theorem map_rereadAddon_additionalAddons :
    (additionalAddons opts).map (rereadAddon Y) = additionalAddons opts ↔
      ∀ v ∈ backupAnswers opts, reread Y v = v := by
  rw [additionalAddons, backupAnswers]
  cases opts.enableAddonAutoscaler <;> cases opts.enableAddonBackups <;>
    simp [rereadAddon, backupsAddon]

theorem map_reread_addAddons (hbase : base = none ∨ base = some defaultAddons) :
    (addAddons base opts).map (fun a => { a with addons := a.addons.map (rereadAddon Y) }) =
        addAddons base opts ↔ ∀ v ∈ backupAnswers opts, reread Y v = v := by
  rw [← map_rereadAddon_additionalAddons]
  cases h : addAddons base opts with
  | none =>
    have hnil : additionalAddons opts = [] := by
      rw [additionalAddons_eq_nil_iff]
      intro hadd
      simp [addAddons, hadd] at h
    simp [hnil]
  | some a =>
    obtain ⟨first, rfl, -, hfirst⟩ := addAddons_eq hbase h
    rcases hfirst with rfl | rfl <;> simp [rereadAddon]

theorem rereadCluster_newCluster_iff (cp : CloudProviderSpec) :
    rereadCluster Y (newCluster opts cp) = newCluster opts cp ↔
      ∀ v ∈ pastedAnswers opts, reread Y v = v := by
  rw [rereadCluster_eq_self_iff]
  simp only [pastedAnswers, forall_mem_cons]
  unfold newCluster
  split
  · exact and_congr_right fun _ => and_congr_right fun _ => map_reread_addAddons (.inl rfl)
  · exact and_congr_right fun _ => and_congr_right fun _ => map_reread_addAddons (.inr rfl)

end Reread

theorem pasted_of_accepted {S : SemverLibrary} (h : Accepted S opts)
    (hbackups : ∀ v ∈ backupAnswers opts, Pasted v) : ∀ v ∈ pastedAnswers opts, Pasted v := by
  rw [pastedAnswers, forall_mem_cons, forall_mem_cons]
  refine ⟨?_, .inr (isPlain_of_kubernetesVersionValidator h.version), hbackups⟩
  unfold manifestName
  split
  · exact .inl rfl
  · exact .inr (isPlain_of_clusterNameValidator h.name)

theorem printable_clusterOf (hc : clusterOf opts = .ok c)
    (h : ∀ v ∈ pastedAnswers opts, Pasted v) : Printable c := by
  obtain ⟨spec, rfl⟩ := clusterOf_ok hc
  obtain ⟨hcloud, hcsi⟩ := isConfig_initProvider opts.providerName
  exact printable_newCluster rfl hcloud hcsi h

theorem genKubeOneClusterYAML_eq {Y : YamlDecoder} {F : Formats}
    (hc : clusterOf opts = .ok c) (h : Printable c) :
    genKubeOneClusterYAML Y F opts = .ok (manifest c) := by
  simp only [genKubeOneClusterYAML, hc, bind, Except.bind, unmarshalStrict_manifest h]
  rfl

/-- If the answers are accepted and the texts for the backups are empty or plain, a manifest is
generated. It is the cluster that it was generated from exactly if YAML reads every text that was
pasted as the text that it is. -/
theorem generated_manifest_is_entered_iff (Y : YamlDecoder) (F : Formats) (S : SemverLibrary)
    (opts : GenerateOpts) (c : KubeOneCluster) (hc : clusterOf opts = .ok c)
    (haccepted : Accepted S opts) (hbackups : ∀ v ∈ backupAnswers opts, Pasted v) :
    ∃ text, genKubeOneClusterYAML Y F opts = .ok text ∧
      (decode Y F text = some c ↔ ∀ v ∈ pastedAnswers opts, reread Y v = v) := by
  have hprintable := printable_clusterOf hc (pasted_of_accepted haccepted hbackups)
  refine ⟨manifest c, genKubeOneClusterYAML_eq hc hprintable, ?_⟩
  obtain ⟨spec, rfl⟩ := clusterOf_ok hc
  rw [decode_manifest hprintable, Option.some.injEq, rereadCluster_newCluster_iff]

namespace Demo

/-- Decodes what the reader of block mappings reads. The only other scalar is a number. -/
def yaml : YamlDecoder where
  compose := Yaml.readText
  reads v := if v = "0x10" then "16" else v
  resolve t :=
    if t = "true" then .bool true else if t = "false" then .bool false else .str t
  compose_of_readText _ _ h := h
  reads_of_isWord v h := by
    rw [if_neg]
    rintro rfl
    exact absurd h (by decide)
  resolve_true := rfl
  resolve_false := by decide

def semver : SemverLibrary where
  newVersion text := if text = "1.35.0" then some (.release 1 35 0) else none
  validate _ _ := true
  newVersion_chars text v h := by
    obtain ⟨rfl, -⟩ := Option.ite_none_right_eq_some.mp h
    have hplain : ".35.0".toList.all Yaml.isPlainChar = true := by decide
    exact ⟨'1', ".35.0".toList, by decide, .inr (by decide), List.all_eq_true.1 hplain⟩

def answers : GenerateOpts where
  providerName := "aws"
  clusterName := "demo"
  kubernetesVersion := "1.35.0"
  enableAddonBackups := true
  addonBackupsPassword := "secret"
  addonBackupsS3Bucket := "s3://backups"
  addonBackupsDefaultAWSRegion := "eu-west-3"

def hexadecimal : GenerateOpts where
  providerName := "none"
  clusterName := "0x10"
  kubernetesVersion := "1.35.0"

theorem accepted_hexadecimal : Accepted semver hexadecimal := ⟨by decide, by decide, by decide⟩

end Demo

theorem entered_answers_come_back :
    ∃ c text, clusterOf Demo.answers = .ok c ∧
      genKubeOneClusterYAML Demo.yaml Config.Demo.formats Demo.answers = .ok text ∧
      decode Demo.yaml Config.Demo.formats text = some c := by
  have hc : clusterOf Demo.answers =
      .ok (newCluster Demo.answers { external := true, specs := [.aws] }) := rfl
  obtain ⟨text, hgen, hiff⟩ := generated_manifest_is_entered_iff Demo.yaml Config.Demo.formats
    Demo.semver Demo.answers _ hc ⟨by decide, by decide, by decide⟩ (by decide)
  exact ⟨_, text, hc, hgen, hiff.mpr (by decide)⟩

/-- The validator takes the name, and the manifest has another one. -/
theorem hexadecimal_name_is_changed :
    Accepted Demo.semver Demo.hexadecimal ∧
      ∃ c text, clusterOf Demo.hexadecimal = .ok c ∧ c.name = "0x10" ∧
        genKubeOneClusterYAML Demo.yaml Config.Demo.formats Demo.hexadecimal = .ok text ∧
        (decode Demo.yaml Config.Demo.formats text).map (·.name) = some "16" := by
  have hc : clusterOf Demo.hexadecimal =
      .ok (newCluster Demo.hexadecimal { specs := [.noProvider] }) := rfl
  have hprintable := printable_clusterOf hc
    (pasted_of_accepted Demo.accepted_hexadecimal (by decide))
  refine ⟨Demo.accepted_hexadecimal, _, _, hc, rfl, genKubeOneClusterYAML_eq hc hprintable, ?_⟩
  rw [decode_manifest hprintable]
  rfl

end KubeOne.Initcmd
