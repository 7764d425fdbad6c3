import KubeOne.Apis.V1beta3.Idempotent
import KubeOne.Collections.Assoc
import Mathlib.Data.List.Forall2
import Mathlib.Data.List.Flatten

/-! The machines of a managed control plane, generated node set by node set. A machine that was
found or created becomes a host with the SSH and node settings of its node set. Five of the
providers write labels of their own into the labels of the node set. -/

namespace KubeOne.CloudProvider

open List Collections
open Apis.V1beta3 hiding NodeSet HostConfig

abbrev NodeSet := Apis.V1beta3.NodeSet

abbrev HostConfig := Apis.V1beta3.HostConfig

inductive Provider
  | aws
  | azure
  | digitalOcean
  | gce
  | hetzner
  | kubevirt
  | openstack
  deriving DecidableEq

structure Machine where
  publicAddress : String := ""
  privateAddress : String := ""
  hostname : String := ""

def NodeSet.machineName (ns : NodeSet) (clusterName : String) (idx : ℕ) : String :=
  clusterName ++ "-" ++ ns.name ++ "-" ++ toString idx

def generateMachines (clusterName : String) (nodeSets : List NodeSet) : List String :=
  nodeSets.flatMap fun ns => (List.range ns.replicas.toNat).map (ns.machineName clusterName)

/-- The labels that a provider writes into those of a node set. Digital Ocean and GCE write into
a copy. -/
def Provider.ownLabels (p : Provider) (clusterName timestamp : String) : List (String × String) :=
  let labels (role : String) := [("kubeone_own_since_timestamp", timestamp),
    ("kubeone_cluster_name", clusterName), ("kubeone_role", role)]
  match p with
  | .aws => labels "control-plane" ++ [("kubernetes.io/cluster/" ++ clusterName, "shared")]
  | .azure | .openstack => labels "control-plane"
  | .hetzner | .kubevirt => labels "api"
  | .digitalOcean | .gce => []

/-- The node set after its machines were generated. A map that is nil is replaced in the copy of
the loop, and one that is not is the map of the cluster. -/
def Provider.generated (p : Provider) (clusterName timestamp : String) (ns : NodeSet) : NodeSet :=
  { ns with nodeSettings := { ns.nodeSettings with
    labels := ns.nodeSettings.labels.map
      ((p.ownLabels clusterName timestamp).foldl fun m kv => put m kv.1 kv.2) } }

def machineNodeSets (machines : List String) (nodeSets : List NodeSet) :
    Except String (List NodeSet) :=
  let out := nodeSets.flatMap fun ns => List.replicate ns.replicas.toNat ns
  if out.length ≠ machines.length then
    .error ("generated " ++ toString machines.length ++ " machines for " ++
      toString out.length ++ " control plane replicas")
  else .ok out

def hostConfigFromMachine (m : Machine) (ns : NodeSet) : HostConfig :=
  { publicAddress := m.publicAddress
    privateAddress := m.privateAddress
    hostname := m.hostname
    sshUsername := if ns.ssh.username = "" then "root" else ns.ssh.username
    sshPort := ns.ssh.port
    sshPrivateKeyFile := ns.ssh.privateKeyFile
    sshCertFile := ns.ssh.certFile
    sshHostPublicKey := ns.ssh.hostPublicKey
    sshAgentSocket := ns.ssh.agentSocket
    bastion := ns.ssh.bastion
    bastionPort := ns.ssh.bastionPort
    bastionUser := ns.ssh.bastionUser
    bastionHostPublicKey := ns.ssh.bastionHostPublicKey
    operatingSystem := ns.operatingSystem
    labels := ns.nodeSettings.labels.getD []
    annotations := ns.nodeSettings.annotations
    taints := ns.nodeSettings.taints }

/-- The loop over the replicas stops at the end of the machines. -/
def hostConfigsFromMachines (machines : List Machine) (nodeSets : List NodeSet) : List HostConfig :=
  List.zipWith hostConfigFromMachine machines
    (nodeSets.flatMap fun ns => List.replicate ns.replicas.toNat ns)

section Lemmas

variable {clusterName : String} {nodeSets : List NodeSet} {hosts : List HostConfig}

theorem length_generateMachines : (generateMachines clusterName nodeSets).length =
    (nodeSets.flatMap fun ns => List.replicate ns.replicas.toNat ns).length := by
  simp [generateMachines, length_flatMap]

theorem hostname_defaultHosts : (defaultHosts hosts).map (·.hostname) = hosts.map (·.hostname) := by
  have hnumbered : ∀ taints id h, (numberedHost taints id h).hostname = h.hostname := by
    intro taints id h
    rw [numberedHost_eq]
    obtain ⟨id', pub, priv, port, user, key⟩ := h
    by_cases hpub : pub = "" <;> by_cases hpriv : priv = "" <;> by_cases hkey : key = "" <;>
      simp [defaultHostConfig, hpub, hpriv, hkey]
  rw [defaultHosts, map_withLeader fun _ => rfl]
  apply ext_getElem <;> simp [hnumbered]

theorem hostConfigsFromMachines_one {m : Machine} {ns : NodeSet} (h : 0 < ns.replicas) :
    hostConfigsFromMachines [m] [ns] = [hostConfigFromMachine m ns] := by
  obtain ⟨n, hn⟩ : ∃ n, ns.replicas.toNat = n + 1 := ⟨ns.replicas.toNat - 1, by omega⟩
  simp [hostConfigsFromMachines, hn, replicate_succ]

theorem replicas_pos {ns : NodeSet}
    (h : ns ∈ nodeSets.flatMap fun ns => List.replicate ns.replicas.toNat ns) :
    0 < ns.replicas := by
  obtain ⟨x, -, hx⟩ := mem_flatMap.mp h
  obtain ⟨hne, rfl⟩ := mem_replicate.mp hx
  omega

end Lemmas

/-- The node sets in the order of the loop, each with the time at which the loop comes to it. -/
abbrev Loop := List (NodeSet × String)

def Loop.nodeSets (loop : Loop) : List NodeSet := loop.map (·.1)

def Provider.generatedSets (p : Provider) (clusterName : String) (loop : Loop) : List NodeSet :=
  loop.map fun l => p.generated clusterName l.2 l.1

/-- The slots of the machines: a pass of the loop and the number of a replica. -/
def Loop.slots (loop : Loop) : List ((NodeSet × String) × ℕ) :=
  loop.flatMap fun l => (List.range l.1.replicas.toNat).map (l, ·)

/-- The settings of a node set, as a host has them. -/
structure Settings (ns : NodeSet) (h : HostConfig) : Prop where
  ssh :
    { port := h.sshPort, username := h.sshUsername, privateKeyFile := h.sshPrivateKeyFile
      certFile := h.sshCertFile, hostPublicKey := h.sshHostPublicKey
      agentSocket := h.sshAgentSocket, bastion := h.bastion, bastionPort := h.bastionPort
      bastionUser := h.bastionUser, bastionHostPublicKey := h.bastionHostPublicKey } =
    { ns.ssh with username := if ns.ssh.username = "" then "root" else ns.ssh.username }
  labels : h.labels = ns.nodeSettings.labels.getD []
  annotations : h.annotations = ns.nodeSettings.annotations
  taints : h.taints = ns.nodeSettings.taints

/-- The host of a found machine with the settings of a node set. -/
structure HostFor (ns : NodeSet) (m : Machine) (h : HostConfig) : Prop extends Settings ns h where
  found : (h.publicAddress, h.privateAddress, h.hostname) =
    (m.publicAddress, m.privateAddress, m.hostname)

section Slots

variable {p : Provider} {clusterName timestamp : String} {loop : Loop} {ns : NodeSet}

theorem generateMachines_slots : generateMachines clusterName loop.nodeSets =
    loop.slots.map fun s => NodeSet.machineName s.1.1 clusterName s.2 := by
  simp [generateMachines, Loop.slots, Loop.nodeSets, map_flatMap, flatMap_map, Function.comp_def]

theorem generatedSets_slots :
    ((p.generatedSets clusterName loop).flatMap fun ns => List.replicate ns.replicas.toNat ns) =
      loop.slots.map fun s => p.generated clusterName s.1.2 s.1.1 := by
  simp [Provider.generatedSets, Loop.slots, map_flatMap, flatMap_map, Function.comp_def,
    Provider.generated]

theorem put_of_lookup {m : List (String × String)} {k v : String} (h : m.lookup k = some v) :
    put m k v = m := by
  induction m with
  | nil => simp at h
  | cons kv m ih =>
    obtain ⟨k', v'⟩ := kv
    rw [lookup_cons_pair] at h
    by_cases hk : k = k'
    · rw [if_pos hk, Option.some.injEq] at h
      simp [put, hk, ← h]
    · rw [if_neg hk] at h
      simp [put, Ne.symm hk, ih h]

theorem foldl_put_eq_self {m writes : List (String × String)}
    (h : ∀ kv ∈ writes, m.lookup kv.1 = some kv.2) :
    writes.foldl (fun m kv => put m kv.1 kv.2) m = m := by
  induction writes with
  | nil => rfl
  | cons kv writes ih =>
    rw [foldl_cons, put_of_lookup (h kv mem_cons_self)]
    exact ih fun kv hkv => h kv (mem_cons_of_mem _ hkv)

theorem nodup_ownLabels : ((p.ownLabels clusterName timestamp).map Prod.fst).Nodup := by
  cases p <;> simp [Provider.ownLabels, String.ext_iff]

/-- The labels of a node set stay as they were, if there is no map or the map has the labels. -/
theorem generated_labels_iff :
    (p.generated clusterName timestamp ns).nodeSettings.labels = ns.nodeSettings.labels ↔
      ∀ m, ns.nodeSettings.labels = some m →
        ∀ kv ∈ p.ownLabels clusterName timestamp, m.lookup kv.1 = some kv.2 := by
  cases hlabels : ns.nodeSettings.labels with
  | none => simp [Provider.generated, hlabels]
  | some m =>
    simp only [Provider.generated, hlabels, Option.map_some, Option.some.injEq, forall_eq']
    constructor
    · intro h kv hkv
      have hwritten := (lookup_of_perm (reverse_perm _) nodup_ownLabels kv.1).trans
        ((lookup_eq_some_iff_mem nodup_ownLabels).2 hkv)
      rw [← h, lookup_foldl_put, hwritten, Option.some_or]
    · exact foldl_put_eq_self

theorem generated_eq_iff : p.generated clusterName timestamp ns = ns ↔
    ∀ m, ns.nodeSettings.labels = some m →
      ∀ kv ∈ p.ownLabels clusterName timestamp, m.lookup kv.1 = some kv.2 := by
  rw [← generated_labels_iff]
  constructor
  · exact fun h => congrArg (·.nodeSettings.labels) h
  · intro h
    obtain ⟨name, replicas, ⟨labels, annotations, taints⟩, os, ssh⟩ := ns
    simpa [Provider.generated] using h

theorem mem_slots {l : NodeSet × String} :
    (∃ idx, (l, idx) ∈ loop.slots) ↔ l ∈ loop ∧ 0 < l.1.replicas := by
  simp only [Loop.slots, mem_flatMap, mem_map, mem_range, Prod.mk.injEq]
  constructor
  · rintro ⟨idx, l', hl, n, hn, rfl, -⟩
    exact ⟨hl, by omega⟩
  · rintro ⟨hl, hpos⟩
    exact ⟨0, l, hl, 0, by omega, rfl, rfl⟩

/-- Every slot keeps its node set. -/
theorem slots_kept_iff :
    (loop.slots.map fun s => p.generated clusterName s.1.2 s.1.1) = loop.slots.map (·.1.1) ↔
      ∀ l ∈ loop, 0 < l.1.replicas → p.generated clusterName l.2 l.1 = l.1 := by
  rw [map_inj_left]
  constructor
  · intro h l hl hpos
    obtain ⟨idx, hmem⟩ := mem_slots.2 ⟨hl, hpos⟩
    exact h (l, idx) hmem
  · rintro h ⟨l, idx⟩ hmem
    obtain ⟨hl, hpos⟩ := mem_slots.1 ⟨idx, hmem⟩
    exact h l hl hpos

end Slots

/-- Position by position the machines, their node sets and their hosts belong together, and only
as many machines as were generated are accepted, exactly if no label of a node set with machines
is overwritten: its labels are nil, the provider copies them, or they are there already. -/
theorem machines_keep_node_set_iff (p : Provider) (clusterName : String) (loop : Loop) :
    ((∀ machines, machineNodeSets machines (p.generatedSets clusterName loop) =
      if machines.length = (generateMachines clusterName loop.nodeSets).length then
        .ok (loop.slots.map (·.1.1))
      else .error ("generated " ++ toString machines.length ++ " machines for " ++
        toString (generateMachines clusterName loop.nodeSets).length ++
          " control plane replicas")) ∧
    ∀ (k : ℕ) ns timestamp idx, loop.slots[k]? = some ((ns, timestamp), idx) →
      (generateMachines clusterName loop.nodeSets)[k]? =
        some (NodeSet.machineName ns clusterName idx) ∧
      ∀ machines m, machines[k]? = some m →
        ∃ h, (hostConfigsFromMachines machines (p.generatedSets clusterName loop))[k]? = some h ∧
          HostFor ns m h) ↔
    ∀ l ∈ loop, 0 < l.1.replicas → ∀ labels, l.1.nodeSettings.labels = some labels →
      ∀ kv ∈ p.ownLabels clusterName l.2, labels.lookup kv.1 = some kv.2 := by
  have hlen : (generateMachines clusterName loop.nodeSets).length = loop.slots.length := by
    rw [generateMachines_slots, length_map]
  simp only [← generated_eq_iff, ← slots_kept_iff]
  constructor
  · rintro ⟨hsets, -⟩
    have hall := hsets (generateMachines clusterName loop.nodeSets)
    rw [if_pos rfl, machineNodeSets, generatedSets_slots, length_map, ← hlen] at hall
    simpa using hall
  · intro h
    refine ⟨fun machines => ?_, fun k ns timestamp idx hk => ⟨?_, fun machines m hm => ?_⟩⟩
    · rw [machineNodeSets, generatedSets_slots, h, length_map, hlen]
      simp only [ne_eq, ite_not, eq_comm]
    · rw [generateMachines_slots, getElem?_map, hk, Option.map_some]
    · refine ⟨hostConfigFromMachine m ns, ?_, ⟨rfl, rfl, rfl, rfl⟩, rfl⟩
      rw [hostConfigsFromMachines, generatedSets_slots, h, getElem?_zipWith, hm, getElem?_map, hk]
      rfl

namespace Labelled

/-- A node set with a label of its own, and an AWS cluster. -/
def loop : Loop :=
  [({ name := "pool", replicas := 1, nodeSettings := { labels := some [("zone", "a")] } },
    "1763424000")]

/-- The host gets four labels that its node set does not have. -/
theorem labels_overwritten :
    (hostConfigsFromMachines [{ hostname := "k1-pool-0" }]
        (Provider.generatedSets .aws "k1" loop)).map (·.labels) =
      [[("zone", "a"), ("kubeone_own_since_timestamp", "1763424000"),
        ("kubeone_cluster_name", "k1"), ("kubeone_role", "control-plane"),
        ("kubernetes.io/cluster/k1", "shared")]] ∧
      loop.nodeSets.map (·.nodeSettings.labels) = [some [("zone", "a")]] := by
  decide +kernel

end Labelled

end KubeOne.CloudProvider
