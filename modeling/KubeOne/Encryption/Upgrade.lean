import KubeOne.Encryption.Effects

/-! Forced upgrades of a cluster whose manifest enables encryption: the task list that apply
decides on, and the tasks in it that leave the saved files and the API servers alone. -/

namespace KubeOne.Encryption

open Process

variable {H : Type*}

/-- The worlds agree on the saved files, the API servers and the kubeadm configuration. -/
structure SameNodes (w w' : World H) : Prop where
  etc : ∀ h, (w'.nodes h).etc = (w.nodes h).etc
  apiServer : ∀ h, (w'.nodes h).apiServer = (w.nodes h).apiServer
  kubeadmConfig : w'.kubeadmConfig = w.kubeadmConfig

theorem SameNodes.of_nodes {w w' : World H} (hnodes : w'.nodes = w.nodes)
    (hconfig : w'.kubeadmConfig = w.kubeadmConfig) : SameNodes w w' :=
  ⟨fun h => by rw [hnodes], fun h => by rw [hnodes], hconfig⟩

variable {hosts : Hosts H} {w w' : World H} {m : Memory H} {ch : Choice H}

theorem SameNodes.backend (hs : SameNodes w w') (h : H) : w'.backend h = w.backend h := by
  rw [World.backend, World.backend, hs.apiServer]

theorem mem_upgradeRest {n : ℕ} {t : Task H} (ht : t ∈ upgradeRest n) :
    (∃ op, t = .operation op) ∨ t = .saveCABundle ∨ t = .restartKubeAPIServer := by
  have hops : ∀ ops, t ∈ (operations ops : List (Task H)) → ∃ op, t = .operation op := by
    intro ops hmem
    obtain ⟨op, -, rfl⟩ := List.mem_map.mp hmem
    exact ⟨op, rfl⟩
  simp only [upgradeRest, withResources, List.mem_append, List.mem_cons, List.not_mem_nil,
    or_false, List.mem_replicate] at ht
  rcases ht with (((rfl | (hmem | rfl | rfl) | hmem) | rfl) | ⟨-, rfl⟩) | hmem
  · exact .inl ⟨_, rfl⟩
  · exact absurd hmem id
  · exact .inl ⟨_, rfl⟩
  · exact .inr (.inl rfl)
  · exact .inl (hops _ hmem)
  · exact .inr (.inr rfl)
  · exact .inl ⟨_, rfl⟩
  · exact .inl (hops _ hmem)

variable [DecidableEq H]

theorem sameNodes_uploadFiles (hosts : Hosts H) (ch : Choice H) (w : World H) (m : Memory H) :
    SameNodes w (uploadFiles hosts ch w m).1 := by
  refine ⟨fun h => ?_, fun h => ?_, rfl⟩
  · simp only [uploadFiles, onControlPlane]
    split_ifs <;> rfl
  · simp only [uploadFiles, onControlPlane]
    split_ifs <;> rfl

theorem sameNodes_rewrite (hosts : Hosts H) (ch : Choice H) (w : World H) :
    SameNodes w (rewriteClusterSecrets hosts ch w).1 :=
  .of_nodes (rewriteClusterSecrets_nodes hosts ch w).1 (rewriteClusterSecrets_nodes hosts ch w).2

theorem sameNodes_env {main : List (Task H)} (r : Request H) (w : World H) :
    SameNodes w ((engineOf hosts main).env r w) :=
  .of_nodes (env_nodes r w) (env_kubeadmConfig r w)

theorem runApply_enabled {more : List (Task H)} (henabled : m.cluster.enabled = true)
    (hforce : m.options.forceUpgrade = true)
    (hok : runApplyUpgradeIfNeeded hosts ch m = .ok more) :
    ∃ ops updated, (m.live.enable = false → updated = false) ∧
      more = operations ops ++ (.runProbes :: .operation .safeguard ::
        (upgradeTasks (hosts.controlPlane.filter (some · ≠ m.leader)) hosts.staticWorkers ++
          ((if m.live.enable then [] else [.rewriteClusterSecrets]) ++
            if updated then [.restartKubeAPIServer, .rewriteClusterSecrets] else []))) := by
  obtain ⟨updated, hupdated, rfl⟩ := runApplyUpgradeIfNeeded_ok (.inr hforce) hok
  refine ⟨[.determineHostname, .determineOS] ++
    if ch.hasExtraEtcdMembers then [.repairClusterIfNeeded] else [], updated, ?_, ?_⟩
  · intro hlive
    simpa [customEncryptionConfigUpdated, hlive] using hupdated.symm
  · cases ch.hasExtraEtcdMembers <;> cases hlive : m.live.enable <;> cases updated <;>
      simp [Memory.shouldDisableEncryption, Memory.shouldEnableEncryption, henabled, hlive,
        withRemoveExtraEtcdMembers, withUpgrade, withHostnameOSAndProbes, withProbesAndSafeguard,
        withHostnameOS, withRewriteSecrets, withCustomEncryptionConfigUpdated, operations]

variable {F : Frame (World H) (Memory H) (Task H) (Choice H) (Request H)} {main : List (Task H)}
  {P : Assertion (World H) (Memory H)}

section

variable (hE : F.engine = engineOf hosts main) (hsteady : F.Steady P)

include hE hsteady

theorem spec_restart (hrestart : ∀ ch w m, P w m → P (restartAll ch hosts.controlPlane w).1 m) :
    F.Spec P .restartKubeAPIServer P :=
  spec_of_exec hE nofun hsteady fun ch w m hw _ =>
    ends_finish (hrestart ch w m hw) fun _ => hrestart ch w m hw

variable (hupload : ∀ ch w m, P w m → P (uploadFiles hosts ch w m).1 m)

include hupload

theorem spec_generateKubeadm : F.Spec P .generateKubeadm P := by
  refine spec_of_exec hE nofun hsteady fun ch w m hw _ => ?_
  simp only [exec]
  split_ifs
  · exact ends_finish (hupload ch w m hw) fun _ => hupload ch w m hw
  · exact hw

theorem spec_saveCABundle : F.Spec P .saveCABundle P := by
  refine ⟨hsteady, fun _ _ hw _ => hw, fun ch w m hw _ => ?_⟩
  rw [hE]
  exact ends_finish (hupload ch w m hw) fun _ => hupload ch w m hw

theorem spec_upgradeRest
    (hrestart : ∀ ch w m, P w m → P (restartAll ch hosts.controlPlane w).1 m) {n : ℕ} :
    ∀ t ∈ upgradeRest n, F.Spec P t P := by
  intro t ht
  rcases mem_upgradeRest ht with ⟨op, rfl⟩ | rfl | rfl
  · exact spec_operation hE hsteady op
  · exact spec_saveCABundle hE hsteady hupload
  · exact spec_restart hE hsteady hrestart

end

theorem valid_apply {P' Q : Assertion (World H) (Memory H)} (hE : F.engine = engine hosts)
    (hP' : F.Steady P') (hprobes : F.Spec P .runProbes P') (hback : ∀ w m, P' w m → P w m)
    (hforced : ∀ w m, P w m → m.cluster.enabled = true ∧ m.options = ⟨true, false⟩)
    (htasks : ∀ w m updated, P' w m → (m.live.enable = false → updated = false) →
      F.Valid P' (upgradeTasks (hosts.controlPlane.filter (some · ≠ m.leader))
        hosts.staticWorkers ++ ((if m.live.enable then [] else [.rewriteClusterSecrets]) ++
          if updated then [.restartKubeAPIServer, .rewriteClusterSecrets] else [])) Q)
    (m : Memory H) : F.Valid P (F.engine.main m) Q := by
  have hop := fun op => spec_operation hE hprobes.steady op
  have hop' := fun op => spec_operation hE hP' op
  rw [hE]
  refine .cons (hop .determineHostname) (.cons (hop .determineOS) (.cons hprobes
    (.cons (hop' .safeguard) (valid_runApply hE hP' ?_))))
  intro ch w m more hw _ hx
  obtain ⟨henabled, hoptions⟩ := hforced w m (hback w m hw)
  rw [Decided, if_neg (by simp [hoptions])] at hx
  obtain ⟨ops, updated, hupdated, rfl⟩ := runApply_enabled henabled (by rw [hoptions]) hx
  refine ⟨P, hback w m hw, .append_inert (fun t ht => ?_) (.cons hprobes
    (.cons (hop' .safeguard) (htasks w m updated hw hupdated)))⟩
  obtain ⟨op, -, rfl⟩ := List.mem_map.mp ht
  exact hop op

end KubeOne.Encryption
