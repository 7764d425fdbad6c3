import KubeOne.Apis.Validation
import KubeOne.CloudProvider.DigitalOcean.LoadBalancer
import KubeOne.CloudProvider.MachineNames

/-! The tags of clusters on DigitalOcean: a fixed beginning and the name of the cluster, with the
characters that are not allowed replaced and the rest cut off. Accepted names have no underscore,
which replaces the dot, and are too short to be cut. -/

namespace KubeOne.CloudProvider.DigitalOcean

open List

open Apis.Validation (FieldError check child index check_eq_nil)

def ownedTag (clusterName : String) : String := sanitizeTag ("kubeone-owned:" ++ clusterName)

/-- The fields of a cloud provider spec that are looked at. A token is given by its value or by
the name of a secret or a config map. -/
structure RawConfig where
  tokenValue : String := ""
  tokenSecretName : String := ""
  tokenConfigMapName : String := ""
  region : String := ""
  size : String := ""
  privateNetworking : Option Bool := none

structure DropletSet extends NodeSet where
  cloudProviderSpec : String

def digitalOceanResourceNameMaxLength : ℕ := 255

def digitalOceanSupportedOperatingSystems : List Apis.V1beta3.OperatingSystemName :=
  [.ubuntu, .rockylinux]

def validateRawConfig (rawConfig : RawConfig) (specFld : String) : List FieldError :=
  check (rawConfig.tokenValue ≠ "" || rawConfig.tokenSecretName ≠ "" ||
      rawConfig.tokenConfigMapName ≠ "") .forbidden (child specFld "token")
      "token must not be set in the config, use DIGITALOCEAN_TOKEN credentials instead" ++
    check (rawConfig.region = "") .required (child specFld "region") "region is required" ++
    check (rawConfig.size = "") .required (child specFld "size") "size is required" ++
    check (rawConfig.privateNetworking = some false) .invalid
      (child specFld "private_networking")
      "private_networking must be enabled for control plane droplets"

section Validation

variable (strictUnmarshal : String → Except String RawConfig)

def validateDropletSet (clusterName nsFld : String) (ns : DropletSet) : List FieldError :=
  check (digitalOceanDropletNameMaxLength <
      (NodeSet.lastMachineName ns.toNodeSet clusterName).utf8ByteSize)
      .invalid nsFld
      ("control plane droplet name \"<cluster name>-<nodeSet name>-<replica index>\" must not " ++
        "exceed 63 characters, it's used as hostname; shorten the cluster or nodeSet name") ++
    check (ns.operatingSystem ∉ digitalOceanSupportedOperatingSystems) .notSupported
      (child nsFld "operatingSystem") "supported values: \"ubuntu\", \"rockylinux\"" ++
    match strictUnmarshal ns.cloudProviderSpec with
    | .error err => [⟨.invalid, child nsFld "cloudProviderSpec",
        "invalid digitalocean cloudProviderSpec: " ++ err⟩]
    | .ok rawConfig => validateRawConfig rawConfig (child nsFld "cloudProviderSpec")

def regions (nodeSets : List DropletSet) : List String :=
  ((nodeSets.filterMap fun ns => (strictUnmarshal ns.cloudProviderSpec).toOption).map
    (·.region)).filter (· ≠ "") |>.dedup

def validateDigitalOceanSpec (lb : DigitalOceanLoadBalancer) (clusterName : String)
    (nodeSets : List DropletSet) (fldPath : String) : List FieldError :=
  let lbFld := child (child fldPath "controlPlane") "loadBalancer"
  let nodeSetsFld := "controlPlane.nodeSets"
  if nodeSets = [] then []
  else
    check (digitalOceanResourceNameMaxLength < lb.name.utf8ByteSize) .invalid (child lbFld "name")
        "loadBalancer name must not exceed 255 characters" ++
      check (100 < lb.sizeUnit) .invalid (child lbFld "sizeUnit")
        "sizeUnit must be between 1 and 100" ++
      (nodeSets.mapIdx fun i ns =>
        validateDropletSet strictUnmarshal clusterName (index nodeSetsFld i) ns).flatten ++
      check (1 < (regions strictUnmarshal nodeSets).length) .invalid nodeSetsFld
        "all control plane nodeSets must use the same region" ++
      check (lb.region ≠ "" && (regions strictUnmarshal nodeSets).length = 1 &&
          lb.region ∉ regions strictUnmarshal nodeSets) .invalid (child lbFld "region")
        "loadBalancer region must match the control plane nodeSets region"

structure DropletCluster where
  name : String
  lbSpec : DigitalOceanLoadBalancer
  nodeSets : List DropletSet
  nonempty : nodeSets ≠ []
  validName : validateName name = []
  validSpec : validateDigitalOceanSpec strictUnmarshal lbSpec name nodeSets
    "cloudProvider.digitalocean" = []

end Validation

theorem length_le_utf8ByteSize (s : String) : s.length ≤ s.utf8ByteSize := by
  induction s using String.push_induction with
  | empty => simp
  | push b c ih =>
    have hpos := c.utf8Size_pos
    rw [String.length_push, String.utf8ByteSize_push]
    omega

theorem length_le_lastMachineName (ns : NodeSet) (clusterName : String) :
    clusterName.length ≤ (ns.lastMachineName clusterName).utf8ByteSize := by
  have hlen := length_le_utf8ByteSize clusterName
  unfold NodeSet.lastMachineName NodeSet.machineName
  simp only [String.utf8ByteSize_append]
  omega

namespace DropletCluster

variable {strictUnmarshal : String → Except String RawConfig}

theorem length_name_le (c : DropletCluster strictUnmarshal) :
    c.name.length ≤ digitalOceanDropletNameMaxLength := by
  obtain ⟨ns, rest, hns⟩ := exists_cons_of_ne_nil c.nonempty
  have hvalid := c.validSpec
  simp only [validateDigitalOceanSpec, if_neg c.nonempty, append_eq_nil_iff,
    flatten_eq_nil_iff] at hvalid
  have hset := hvalid.1.1.2
  rw [hns, mapIdx_cons, forall_mem_cons, validateDropletSet] at hset
  simp only [append_eq_nil_iff, check_eq_nil, decide_eq_false_iff_not] at hset
  have hlast := length_le_lastMachineName ns.toNodeSet c.name
  omega

theorem mem_name (c : DropletCluster strictUnmarshal) {x : Char} (hx : x ∈ c.name.toList) :
    Text.isLowerAlnum x = true ∨ x = '-' ∨ x = '.' := by
  have hname := isDNS1123Subdomain_of_validateName c.validName
  rw [Text.isDNS1123Subdomain, Bool.and_eq_true, Text.all_label_split_iff] at hname
  exact hname.2.1.2 x hx

end DropletCluster

theorem validTagChar_of_isLowerAlnum {c : Char} (h : Text.isLowerAlnum c = true) :
    validTagChar c = true := by
  simp only [Text.isLowerAlnum, Bool.or_eq_true] at h
  simp only [validTagChar, Bool.or_eq_true]
  tauto

theorem sanitized_eq_iff {a b : Char} (ha : Text.isLowerAlnum a = true ∨ a = '-' ∨ a = '.')
    (hb : Text.isLowerAlnum b = true ∨ b = '-' ∨ b = '.')
    (h : (if validTagChar a then a else '_') = if validTagChar b then b else '_') : a = b := by
  have hkept : ∀ c, Text.isLowerAlnum c = true ∨ c = '-' →
      (if validTagChar c then c else '_') = c ∧ c ≠ '_' := by
    rintro c (hc | rfl)
    · rw [if_pos (validTagChar_of_isLowerAlnum hc)]
      refine ⟨rfl, ?_⟩
      rintro rfl
      revert hc
      decide
    · decide
  have hdot : (if validTagChar '.' then '.' else '_') = '_' := by decide
  rw [← or_assoc] at ha hb
  rcases ha with ha | rfl <;> rcases hb with hb | rfl
  · rwa [(hkept a ha).1, (hkept b hb).1] at h
  · rw [(hkept a ha).1, hdot] at h
    exact absurd h (hkept a ha).2
  · rw [(hkept b hb).1, hdot] at h
    exact absurd h.symm (hkept b hb).2
  · rfl

theorem map_injective_on {f : Char → Char} {p : Char → Prop}
    (hf : ∀ a b, p a → p b → f a = f b → a = b) {xs ys : List Char} (hx : ∀ a ∈ xs, p a)
    (hy : ∀ b ∈ ys, p b) (h : xs.map f = ys.map f) : xs = ys := by
  induction xs generalizing ys with
  | nil => simpa using h.symm
  | cons x xs ih =>
    cases ys with
    | nil => cases h
    | cons y ys =>
      rw [map_cons, map_cons, cons.injEq] at h
      rw [forall_mem_cons] at hx hy
      rw [hf x y hx.1 hy.1 h.1, ih hx.2 hy.2 h.2]

theorem toList_sanitizeTag {tag : String} (h : tag.length ≤ maxTagLength) :
    (sanitizeTag tag).toList = tag.toList.map fun c => if validTagChar c then c else '_' := by
  unfold sanitizeTag
  rw [String.toList_ofList, take_of_length_le]
  rw [length_map, String.length_toList]
  exact h

theorem sanitizeTag_injective {strictUnmarshal : String → Except String RawConfig}
    (c c' : DropletCluster strictUnmarshal) {start : String} (hstart : start.length ≤ 16)
    (h : sanitizeTag (start ++ c.name) = sanitizeTag (start ++ c'.name)) : c.name = c'.name := by
  have hfits : ∀ d : DropletCluster strictUnmarshal, (start ++ d.name).length ≤ maxTagLength := by
    intro d
    have hlen := d.length_name_le
    unfold digitalOceanDropletNameMaxLength at hlen
    unfold maxTagLength
    rw [String.length_append]
    omega
  have hlist := congrArg String.toList h
  rw [toList_sanitizeTag (hfits c), toList_sanitizeTag (hfits c'), String.toList_append,
    String.toList_append, map_append, map_append] at hlist
  have hname := append_cancel_left hlist
  exact String.toList_injective (map_injective_on (fun a b => sanitized_eq_iff)
    (fun _ => c.mem_name) (fun _ => c'.mem_name) hname)

theorem clusterTag_ne_ownedTag (name name' : String) : clusterTag name ≠ ownedTag name' := by
  intro h
  have hchar := congrArg (fun tag : String => tag.toList[8]?) h
  simp [clusterTag, ownedTag, sanitizeTag, maxTagLength, validTagChar] at hchar

/-- Different accepted clusters have different cluster tags and different owned tags, and no
cluster tag is an owned tag. -/
theorem tags_never_shared (strictUnmarshal : String → Except String RawConfig)
    (c c' : DropletCluster strictUnmarshal) (hne : c.name ≠ c'.name) :
    clusterTag c.name ≠ clusterTag c'.name ∧ ownedTag c.name ≠ ownedTag c'.name ∧
      ∀ a ∈ [c.name, c'.name], ∀ b ∈ [c.name, c'.name], clusterTag a ≠ ownedTag b := by
  refine ⟨fun h => hne ?_, fun h => hne ?_, fun a _ b _ => clusterTag_ne_ownedTag a b⟩
  · exact sanitizeTag_injective c c' (by decide) h
  · exact sanitizeTag_injective c c' (by decide) h

namespace Dotted

def spec : String := "\x7b\"region\":\"fra1\",\"size\":\"s-2vcpu-4gb\"\x7d"

def smallDroplet (text : String) : Except String RawConfig :=
  if text = spec then .ok { region := "fra1", size := "s-2vcpu-4gb" }
  else .error "unexpected end of JSON input"

def nodeSets : List DropletSet :=
  [{ name := "cp", replicas := 3, operatingSystem := .ubuntu, cloudProviderSpec := spec }]

def named (name : String) (hname : validateName name = [])
    (hspec : validateDigitalOceanSpec smallDroplet {} name nodeSets
      "cloudProvider.digitalocean" = []) : DropletCluster smallDroplet where
  name := name
  lbSpec := {}
  nodeSets := nodeSets
  nonempty := by simp [nodeSets]
  validName := hname
  validSpec := hspec

/-- A dot and a dash at the same place give different tags. -/
theorem dotted_names_apart :
    clusterTag "a.b" ≠ clusterTag "a-b" ∧ ownedTag "a.b" ≠ ownedTag "a-b" ∧
      ∀ a ∈ ["a.b", "a-b"], ∀ b ∈ ["a.b", "a-b"], clusterTag a ≠ ownedTag b :=
  tags_never_shared smallDroplet (named "a.b" (by decide) (by decide))
    (named "a-b" (by decide) (by decide)) (by decide)

end Dotted

end KubeOne.CloudProvider.DigitalOcean
