import KubeOne.CloudProvider.Provision
import KubeOne.Text.Dns
import KubeOne.Text.Pairs

/-! The names of the machines of managed control planes: cluster, node set and number, joined by
dashes, which the first two may contain. Only the number can be read back. -/

namespace KubeOne.CloudProvider

/-- A manifest with a managed control plane, as far as the names of its machines go. -/
structure ManagedCluster where
  name : String
  provider : Provider
  nodeSets : List NodeSet

inductive NameError
  | emptyName
  | invalidName (name : String)
  | evenMachines
  | invalidResourceName (name : String)
  | dropletNameTooLong (name : String)

def validateName (name : String) : List NameError :=
  (if name = "" then [.emptyName] else []) ++
    if Text.isDNS1123Subdomain name then [] else [.invalidName name]

theorem isDNS1123Subdomain_of_validateName {name : String} (h : validateName name = []) :
    Text.isDNS1123Subdomain name = true := by
  unfold validateName at h
  rw [List.append_eq_nil_iff] at h
  by_contra hname
  rw [if_neg hname] at h
  cases h.2

def validateControlPlaneMachines (nodeSets : List NodeSet) : List NameError :=
  if nodeSets.length % 2 = 0 then [.evenMachines] else []

/-- `^[a-z]([-a-z0-9]*[a-z0-9])?$`, of at most 63 bytes -/
def isGCEResourceName (name : String) : Bool :=
  name.utf8ByteSize ≤ 63 && name.toList.head?.any (fun c => 'a' ≤ c && c ≤ 'z') &&
    name.toList.getLast?.any Text.isLowerAlnum &&
    name.toList.all fun c => Text.isLowerAlnum c || c == '-'

def NodeSet.lastMachineName (ns : NodeSet) (clusterName : String) : String :=
  ns.machineName clusterName (ns.replicas - 1).toNat

def validateGCENames (clusterName : String) (nodeSets : List NodeSet) : List NameError :=
  ([clusterName, clusterName ++ "-control-plane"] ++
    nodeSets.map (·.lastMachineName clusterName)).filterMap fun name =>
      if isGCEResourceName name then none else some (.invalidResourceName name)

def digitalOceanDropletNameMaxLength : ℕ := 63

def validateDropletNames (clusterName : String) (nodeSets : List NodeSet) : List NameError :=
  (nodeSets.map (·.lastMachineName clusterName)).filterMap fun name =>
    if digitalOceanDropletNameMaxLength < name.utf8ByteSize then some (.dropletNameTooLong name)
    else none

def validateProviderNames (c : ManagedCluster) : List NameError :=
  match c.provider with
  | .gce => validateGCENames c.name c.nodeSets
  | .digitalOcean => validateDropletNames c.name c.nodeSets
  | _ => []

def ManagedCluster.validate (c : ManagedCluster) : List NameError :=
  validateName c.name ++ validateControlPlaneMachines c.nodeSets ++ validateProviderNames c

theorem append_dash_cancel {a b d e : List Char} (hd : '-' ∉ d) (he : '-' ∉ e)
    (h : a ++ '-' :: d = b ++ '-' :: e) : a = b ∧ d = e := by
  rcases List.append_eq_append_iff.mp h with ⟨c, hb, hc⟩ | ⟨c, ha, hc⟩
  · cases c with
    | nil => simp_all
    | cons x xs =>
      rw [List.cons_append, List.cons.injEq] at hc
      have hmem : '-' ∈ d := by simp [hc.2]
      exact absurd hmem hd
  · cases c with
    | nil => simp_all
    | cons x xs =>
      rw [List.cons_append, List.cons.injEq] at hc
      have hmem : '-' ∈ e := by simp [hc.2]
      exact absurd hmem he

theorem toString_toList_injective {m n : ℕ}
    (h : (toString m).toList = (toString n).toList) : m = n := by
  rw [Nat.toString_eq_repr, Nat.toString_eq_repr, Nat.toList_repr, Nat.toList_repr] at h
  have hparsed := congrArg (fun digits => Nat.ofDigitChars 10 digits 0) h
  simpa using hparsed

theorem machineName_eq_iff {ns ns' : NodeSet} {name name' : String} {idx idx' : ℕ} :
    ns.machineName name idx = ns'.machineName name' idx' ↔
      name ++ "-" ++ ns.name = name' ++ "-" ++ ns'.name ∧ idx = idx' := by
  constructor
  · intro h
    have htext : (name ++ "-" ++ ns.name).toList ++ '-' :: (toString idx).toList =
        (name' ++ "-" ++ ns'.name).toList ++ '-' :: (toString idx').toList := by
      simpa [NodeSet.machineName] using congrArg String.toList h
    obtain ⟨hjoined, hnumber⟩ :=
      append_dash_cancel (Text.notMem_toString rfl) (Text.notMem_toString rfl) htext
    exact ⟨String.toList_injective hjoined, toString_toList_injective hnumber⟩
  · rintro ⟨hjoined, rfl⟩
    rw [NodeSet.machineName, NodeSet.machineName, hjoined]

/-- Different machines of the two clusters have different names. A machine is given by the name of
its cluster, the position of its node set and its number. -/
def NamesApart (c c' : ManagedCluster) : Prop :=
  ∀ (i j : ℕ) (ns ns' : NodeSet) (idx idx' : ℕ),
    c.nodeSets[i]? = some ns → c'.nodeSets[j]? = some ns' →
    idx < ns.replicas.toNat → idx' < ns'.replicas.toNat →
    (c.name, i, idx) ≠ (c'.name, j, idx') →
    ns.machineName c.name idx ≠ ns'.machineName c'.name idx'

/-- Node sets that have machines do not give the same text when they are joined with the names of
their clusters. -/
def JoinedApart (c c' : ManagedCluster) : Prop :=
  ∀ (i j : ℕ) (ns ns' : NodeSet), c.nodeSets[i]? = some ns → c'.nodeSets[j]? = some ns' →
    0 < ns.replicas → 0 < ns'.replicas → (c.name, i) ≠ (c'.name, j) →
    c.name ++ "-" ++ ns.name ≠ c'.name ++ "-" ++ ns'.name

/-- The names never collide exactly if the joined texts do not. -/
theorem namesApart_iff (c c' : ManagedCluster) : NamesApart c c' ↔ JoinedApart c c' := by
  constructor
  · intro h i j ns ns' hns hns' hpos hpos' hne hjoined
    have hfirst : ns.machineName c.name 0 ≠ ns'.machineName c'.name 0 := by
      refine h i j ns ns' 0 0 hns hns' (by omega) (by omega) ?_
      intro heq
      simp_all
    exact hfirst (machineName_eq_iff.mpr ⟨hjoined, rfl⟩)
  · intro h i j ns ns' idx idx' hns hns' hidx hidx' hne heq
    obtain ⟨hjoined, rfl⟩ := machineName_eq_iff.mp heq
    refine h i j ns ns' hns hns' (by omega) (by omega) ?_ hjoined
    intro hpos
    simp_all

namespace Collision

def prod : ManagedCluster where
  name := "prod"
  provider := .digitalOcean
  nodeSets := [{ name := "eu-a", replicas := 1 }]

def prodEu : ManagedCluster where
  name := "prod-eu"
  provider := .digitalOcean
  nodeSets := [{ name := "a", replicas := 1 }]

/-- Two accepted clusters share the name of a machine. -/
theorem accepted_names_collide :
    ¬ ∀ c c' : ManagedCluster, c.validate = [] → c'.validate = [] → NamesApart c c' := by
  intro h
  have hapart := h prod prodEu (by decide) (by decide)
  exact hapart 0 0 _ _ 0 0 rfl rfl (by decide) (by decide) (by decide) (by decide)

end Collision

end KubeOne.CloudProvider
