import KubeOne.Apis.Validation
import KubeOne.Net.Address

/-! The subnets of a cluster: how they are validated, and the address in the service subnet that
the DNS of the cluster gets. Validation reads a subnet with the lenient parser of Kubernetes,
the address is computed with the parser of the standard library. -/

namespace KubeOne.Apis.Validation

open V1beta3 (ClusterNetworkConfig IPFamily)
open Net (IP IPNet parseCIDR)

def isIPv6Primary (c : IPFamily) : Bool := c == .ipv6 || c == .ipv6ipv4

def primaryServiceSubnet (c : ClusterNetworkConfig) : String :=
  if isIPv6Primary c.ipFamily then c.serviceSubnetIPv6 else c.serviceSubnet

def nthServiceSubnetIP (c : ClusterNetworkConfig) (n : ℤ) : String :=
  match parseCIDR (primaryServiceSubnet c) with
  | none => ""
  | some (_, ipNet) => (ipNet.base.add n).string

/-- The lenient parser: it takes what the standard library takes, and numbers with zeros before
them. -/
structure NetUtils where
  parseCIDRSloppy : String → Option (IP × IPNet)
  isIPv4CIDRString : String → Bool
  isIPv6CIDRString : String → Bool
  sloppy_of_parseCIDR : ∀ s subnet, parseCIDR s = some subnet → parseCIDRSloppy s = some subnet
  isIPv4_iff : ∀ s, isIPv4CIDRString s = true ↔
    ∃ subnet, parseCIDRSloppy s = some subnet ∧ subnet.1.to4.isSome
  isIPv6_iff : ∀ s, isIPv6CIDRString s = true ↔
    ∃ subnet, parseCIDRSloppy s = some subnet ∧ subnet.1.to4.isNone

def dualstackProviders : List String := ["aws", "openstack", "vsphere", "none"]

def validateIPFamily (ipFamily : IPFamily) (cloudProviderName fldPath : String) : List FieldError :=
  match ipFamily with
  | .ipv6 | .ipv6ipv4 =>
    [⟨.forbidden, fldPath, "ipv6 and ipv6+ipv4 ip families are currently not supported"⟩]
  | .ipv4ipv6 =>
    check (!dualstackProviders.contains cloudProviderName) .forbidden fldPath
      ("dualstack is currently supported only on: [" ++ " ".intercalate dualstackProviders ++ "]")
  | _ => []

def validateNodeCIDRMaskSizeOf (nodeCIDRMaskSize : Option ℤ) (podCIDR fldPath : String) :
    List FieldError :=
  match nodeCIDRMaskSize with
  | none => [⟨.invalid, fldPath, "node CIDR mask size must be set"⟩]
  | some size =>
    match parseCIDR podCIDR with
    | none =>
      [⟨.invalid, fldPath, "couldn't parse CIDR \"" ++ podCIDR ++ "\": invalid CIDR address: " ++
        podCIDR⟩]
    | some (_, podCIDRNet) =>
      check ((podCIDRNet.ones : ℤ) ≥ size) .invalid fldPath
        ("node CIDR mask size (" ++ toString size ++
          ") must be longer than the mask size of the pod CIDR (\"" ++ podCIDR ++ "\")")

def validateNodeCIDRMaskSize (c : ClusterNetworkConfig) (fldPath : String) : List FieldError :=
  let v4 := validateNodeCIDRMaskSizeOf c.nodeCIDRMaskSizeIPv4 c.podSubnet
    (child fldPath "nodeCIDRMaskSizeIPv4")
  let v6 := validateNodeCIDRMaskSizeOf c.nodeCIDRMaskSizeIPv6 c.podSubnetIPv6
    (child fldPath "nodeCIDRMaskSizeIPv6")
  match c.ipFamily with
  | .ipv4 => v4
  | .ipv6 => v6
  | .ipv4ipv6 | .ipv6ipv4 => v4 ++ v6
  | _ => []

def validateCIDR (valid : String → Bool) (family fldPath node subnet : String) : List FieldError :=
  check (!valid subnet) .invalid (child fldPath node)
    (".clusterNetwork." ++ node ++ " must be valid \"" ++ family ++ "\" subnet.")

def validateCIDRs (utils : NetUtils) (c : ClusterNetworkConfig) (fldPath : String) :
    List FieldError :=
  let v4 := validateCIDR utils.isIPv4CIDRString "IPv4" fldPath
  let v6 := validateCIDR utils.isIPv6CIDRString "IPv6" fldPath
  match c.ipFamily with
  | .ipv4 => v4 "podSubnet" c.podSubnet ++ v4 "serviceSubnet" c.serviceSubnet
  | .ipv6 => v6 "podSubnetIPv6" c.podSubnetIPv6 ++ v6 "serviceSubnetIPv6" c.serviceSubnetIPv6
  | .ipv4ipv6 | .ipv6ipv4 =>
    v4 "podSubnet" c.podSubnet ++ v4 "serviceSubnet" c.serviceSubnet ++
      v6 "podSubnetIPv6" c.podSubnetIPv6 ++ v6 "serviceSubnetIPv6" c.serviceSubnetIPv6
  | _ => [⟨.invalid, child fldPath "ipFamily", "unknown ipFamily"⟩]

/-- The checks of the addresses. Those of the CNI and of kube-proxy look at other fields. -/
def validateClusterNetworkConfig (utils : NetUtils) (netConf : ClusterNetworkConfig)
    (cloudProviderName fldPath : String) : List FieldError :=
  validateIPFamily netConf.ipFamily cloudProviderName (child fldPath "ipFamily") ++
    validateCIDRs utils netConf fldPath ++ validateNodeCIDRMaskSize netConf fldPath

@[simp] theorem validateCIDR_eq_nil {valid : String → Bool} {family fldPath node subnet : String} :
    validateCIDR valid family fldPath node subnet = [] ↔ valid subnet = true := by
  simp [validateCIDR]

theorem parseCIDRSloppy_of_validateCIDRs {utils : NetUtils} {c : ClusterNetworkConfig}
    {fldPath : String} (h : validateCIDRs utils c fldPath = []) :
    ∃ subnet, utils.parseCIDRSloppy (primaryServiceSubnet c) = some subnet := by
  have hread4 : ∀ {s}, utils.isIPv4CIDRString s = true →
      ∃ subnet, utils.parseCIDRSloppy s = some subnet := fun hs =>
    let ⟨subnet, hsubnet, _⟩ := (utils.isIPv4_iff _).1 hs
    ⟨subnet, hsubnet⟩
  have hread6 : ∀ {s}, utils.isIPv6CIDRString s = true →
      ∃ subnet, utils.parseCIDRSloppy s = some subnet := fun hs =>
    let ⟨subnet, hsubnet, _⟩ := (utils.isIPv6_iff _).1 hs
    ⟨subnet, hsubnet⟩
  unfold validateCIDRs at h
  unfold primaryServiceSubnet
  cases hfamily : c.ipFamily with
  | unset => simp [hfamily] at h
  | other name => simp [hfamily] at h
  | ipv4 =>
    simp only [hfamily, List.append_eq_nil_iff, validateCIDR_eq_nil] at h
    exact hread4 h.2
  | ipv6 =>
    simp only [hfamily, List.append_eq_nil_iff, validateCIDR_eq_nil] at h
    exact hread6 h.2
  | ipv4ipv6 =>
    simp only [hfamily, List.append_eq_nil_iff, validateCIDR_eq_nil] at h
    exact hread4 h.1.1.2
  | ipv6ipv4 =>
    simp only [hfamily, List.append_eq_nil_iff, validateCIDR_eq_nil] at h
    exact hread6 h.2

/-- The text is that of the address with the number in the subnet. -/
def IsNthAddress (subnet : IPNet) (n : ℕ) (text : String) : Prop :=
  ∃ a : IP, text = a.string ∧ a.number = subnet.ip.number + n ∧ subnet.Contains a

theorem nthServiceSubnetIP_iff {utils : NetUtils} {c : ClusterNetworkConfig} {subnet : IP × IPNet}
    (hread : utils.parseCIDRSloppy (primaryServiceSubnet c) = some subnet) (n : ℕ) :
    IsNthAddress subnet.2 n (nthServiceSubnetIP c n) ↔
      (parseCIDR (primaryServiceSubnet c)).isSome ∧ n < 2 ^ subnet.2.hostBits := by
  unfold nthServiceSubnetIP
  cases hparse : parseCIDR (primaryServiceSubnet c) with
  | none =>
    simp only [Option.isSome_none, Bool.false_eq_true, false_and, iff_false]
    rintro ⟨a, htext, -⟩
    exact a.string_ne_empty htext.symm
  | some strict =>
    have hsame : subnet = strict :=
      Option.some.inj (hread.symm.trans (utils.sloppy_of_parseCIDR _ _ hparse))
    subst hsame
    obtain ⟨ip, ipNet⟩ := subnet
    simp only [Option.isSome_some, true_and]
    constructor
    · rintro ⟨a, -, hnumber, -, hlt⟩
      omega
    · intro hn
      have hnumber := IPNet.number_base_add (Net.two_pow_dvd_of_parseCIDR hparse) hn
      exact ⟨_, rfl, hnumber, by omega, by omega⟩

/-- The DNS of an accepted cluster gets the tenth address after the first one of its service
subnet exactly if the standard library reads the subnet, without zeros before its numbers, and
the subnet has at least sixteen addresses. -/
theorem cluster_dns_address_iff (utils : NetUtils) (c : ClusterNetworkConfig)
    (cloudProviderName fldPath : String)
    (hvalid : validateClusterNetworkConfig utils c cloudProviderName fldPath = []) :
    ∃ subnet, utils.parseCIDRSloppy (primaryServiceSubnet c) = some subnet ∧
      (IsNthAddress subnet.2 10 (nthServiceSubnetIP c 10) ↔
        (parseCIDR (primaryServiceSubnet c)).isSome ∧ 4 ≤ subnet.2.hostBits) := by
  simp only [validateClusterNetworkConfig, List.append_eq_nil_iff] at hvalid
  obtain ⟨subnet, hread⟩ := parseCIDRSloppy_of_validateCIDRs hvalid.1.2
  refine ⟨subnet, hread, (nthServiceSubnetIP_iff hread 10).trans (and_congr_right fun _ => ?_)⟩
  constructor
  · intro hlt
    by_contra hsmall
    have hle : 2 ^ subnet.2.hostBits ≤ 2 ^ 3 := Nat.pow_le_pow_right (by omega) (by omega)
    omega
  · intro hbits
    have hle : 2 ^ 4 ≤ 2 ^ subnet.2.hostBits := Nat.pow_le_pow_right (by omega) hbits
    omega

def plainUtils : NetUtils where
  parseCIDRSloppy := parseCIDR
  isIPv4CIDRString s := (parseCIDR s).any fun subnet => subnet.1.to4.isSome
  isIPv6CIDRString s := (parseCIDR s).any fun subnet => subnet.1.to4.isNone
  sloppy_of_parseCIDR _ _ h := h
  isIPv4_iff _ := Option.any_eq_true ..
  isIPv6_iff _ := Option.any_eq_true ..

def ipv4Network (serviceSubnet : String) : ClusterNetworkConfig where
  podSubnet := "10.244.0.0/16"
  serviceSubnet := serviceSubnet
  ipFamily := .ipv4
  nodeCIDRMaskSizeIPv4 := some 24

/-- The default subnet has room for the address. -/
theorem default_subnet_has_dns :
    nthServiceSubnetIP (ipv4Network "10.96.0.0/12") 10 = "10.96.0.10" ∧
      ∃ subnet, parseCIDR "10.96.0.0/12" = some subnet ∧
        (IsNthAddress subnet.2 10 (nthServiceSubnetIP (ipv4Network "10.96.0.0/12") 10) ↔
          (parseCIDR "10.96.0.0/12").isSome ∧ 4 ≤ subnet.2.hostBits) :=
  ⟨by decide +kernel, cluster_dns_address_iff plainUtils (ipv4Network "10.96.0.0/12") "aws"
    "clusterNetwork" (by decide +kernel)⟩

def eightAddresses : IP × IPNet :=
  let ip : IP := ⟨[10, 96, 0, 0], .inl rfl⟩
  (ip, ⟨ip, 29⟩)

/-- A subnet of eight addresses passes validation, and the address of the DNS lies behind it. -/
theorem small_subnet_left :
    validateClusterNetworkConfig plainUtils (ipv4Network "10.96.0.0/29") "aws" "clusterNetwork" =
        [] ∧
      parseCIDR "10.96.0.0/29" = some eightAddresses ∧
      nthServiceSubnetIP (ipv4Network "10.96.0.0/29") 10 = "10.96.0.10" ∧
      ¬IsNthAddress eightAddresses.2 10 (nthServiceSubnetIP (ipv4Network "10.96.0.0/29") 10) := by
  have hread : parseCIDR "10.96.0.0/29" = some eightAddresses := by decide +kernel
  refine ⟨by decide +kernel, hread, by decide +kernel, fun h => ?_⟩
  have hroom := ((@nthServiceSubnetIP_iff plainUtils (ipv4Network "10.96.0.0/29") _ hread 10).1 h).2
  exact absurd hroom (by decide)

end KubeOne.Apis.Validation
