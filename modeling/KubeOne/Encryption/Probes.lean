import KubeOne.Encryption.Tasks
import KubeOne.Tasks.Leader

/-! The probes over a whole cluster find the leader and the flags that the tasks of an apply run
read off the world. -/

namespace KubeOne.Encryption

open Tasks State Probes

/-- The part of the command of an API server that is about encryption. -/
def APIServer.command (a : APIServer) : List String :=
  (a.flag.map fun f =>
    "--encryption-provider-config=/etc/kubernetes/encryption-providers/" ++ f.name).toList

variable {H : Type*}

/-- The answers are those of the world. -/
structure Answering (hosts : Hosts H) (ch : Choice H) (w : World H) (a : Answers) : Prop where
  health : ∀ i h, hosts.controlPlane[i]? = some h →
    a.apiServerHealth i = (ch.healthy h && (w.backend h).isSome)
  pods : a.encryptionPods = .ok (hosts.controlPlane.map fun h => (w.nodes h).apiServer.command)

variable {hosts : Hosts H} {ch : Choice H} {w : World H} {a : Answers} {s : ProbeState}

theorem detect_commands (hosts : Hosts H) (w : World H) :
    let pods := hosts.controlPlane.map fun h => (w.nodes h).apiServer.command
    detectEncryptionProvidersEnabled hosts w =
      (Probes.detectEncryptionProvidersEnabled pods, detectCustomEncryptionProviders pods) := by
  simp only [Probes.detectEncryptionProvidersEnabled, detectCustomEncryptionProviders,
    hasArgument, List.any_map, detectEncryptionProvidersEnabled, Prod.mk.injEq]
  constructor <;> congr 1 <;> funext h <;> simp only [Function.comp_apply, APIServer.command] <;>
    rcases (w.nodes h).apiServer.flag with _ | _ | _ <;> decide +kernel

theorem find?_elect {p : H → Bool} {health : ℕ → Bool} {l : List H} {live : List Host} {i : ℕ}
    (hnone : ∀ h ∈ live, h.config.isLeader = false) (hlength : live.length = l.length)
    (hhealth : ∀ j h, l[j]? = some h → health (i + j) = p h) :
    (((elect health i false live).1.zip l).find? (·.1.config.isLeader)).map (·.2) = l.find? p := by
  induction l generalizing live i with
  | nil => simp
  | cons h l ih =>
    obtain ⟨host, live, rfl⟩ := List.exists_cons_of_length_eq_add_one hlength
    rw [List.forall_mem_cons] at hnone
    have hi : health i = p h := hhealth 0 h rfl
    by_cases hp : p h = true
    · simp [elect_cons_of_healthy (hi.trans hp), hp]
    · have hrest := ih (i := i + 1) hnone.2 (Nat.succ.inj hlength) fun j h' hj => by
        rw [Nat.add_assoc, Nat.add_comm 1]
        exact hhealth (j + 1) h' hj
      simpa [elect_cons_of_not_healthy (hi ▸ hp), hnone.1, hp] using hrest

/-- The host that the probes mark as the leader is the one that is elected here, and the flags that
they find in the commands of the API servers are those of the world. -/
theorem investigateCluster_agrees (ha : Answering hosts ch w a)
    (hlength : s.liveCluster.controlPlane.length = hosts.controlPlane.length)
    (hs : s.liveCluster.isProvisioned = true) :
    (((Probes.investigateCluster a s).1.controlPlane.zip hosts.controlPlane).find?
        (·.1.isLeader)).map (·.2) = electLeader hosts ch w ∧
      ∃ pods, a.encryptionPods = .ok pods ∧ detectEncryptionProvidersEnabled hosts w =
        (Probes.detectEncryptionProvidersEnabled pods, detectCustomEncryptionProviders pods) := by
  refine ⟨?_, _, ha.pods, detect_commands hosts w⟩
  rw [controlPlane_investigateCluster hs, elected, List.zip_map_left, List.find?_map,
    Option.map_map]
  exact find?_elect (clearLeader_isLeader _) (by simpa using hlength) fun j h hj => by
    rw [Nat.zero_add, ha.health j h hj]

end KubeOne.Encryption
