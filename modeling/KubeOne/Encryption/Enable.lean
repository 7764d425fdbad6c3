import KubeOne.Encryption.Sealed

/-! Enabling encryption. Apply rewrites the Secrets at the end of an upgrade when its probes have
found no API server with a flag. Whatever happened before, such a run leaves no Secret in plain
text. -/

namespace KubeOne.Encryption

open Process

variable {H : Type*}

def Unflagged (hosts : Hosts H) (w : World H) : Prop :=
  ∀ h ∈ hosts.controlPlane, (w.nodes h).apiServer.flag = none

instance (hosts : Hosts H) (w : World H) : Decidable (Unflagged hosts w) :=
  inferInstanceAs (Decidable (∀ h ∈ hosts.controlPlane, _))

instance (m : Memory H) : Decidable (Encrypting m) := inferInstanceAs (Decidable (_ ∧ _ ∧ _))

/-- A forced upgrade with encryption of a cluster that the probes find healthy, started while no
API server has a flag, or in a sealed cluster. While there is no flag, every election chooses the
same leader, and the update of the kubeadm configuration is accepted. -/
def enableGuard (hosts : Hosts H) (leader : H) :
    Guard (World H) (Memory H) (Task H) (Choice H) where
  start w m := Encrypting m ∧ m.configuration.encrypts = true ∧ (Unflagged hosts w ∨ w.Sealed hosts)
  attempt t ch w _ :=
    match t with
    | .runProbes => Unflagged hosts w →
        electLeader hosts ch w = none ∨ electLeader hosts ch w = some leader
    | .uploadKubeadmToConfigMaps => Unflagged hosts w → ch.configMap = true
    | .runApply => ch.provisioned = true ∧ ch.clusterHealthy = true
    | _ => True

instance (hosts : Hosts H) (leader : H) (w : World H) (m : Memory H) :
    Decidable ((enableGuard hosts leader).start w m) :=
  inferInstanceAs (Decidable (_ ∧ _ ∧ (_ ∨ _)))

instance (hosts : Hosts H) (leader : H) (t : Task H) (ch : Choice H) (w : World H)
    (m : Memory H) [DecidableEq H] : Decidable ((enableGuard hosts leader).attempt t ch w m) := by
  apply Task.casesOn (motive := fun t => Decidable ((enableGuard hosts leader).attempt t ch w m)) t
    <;> intros <;> unfold enableGuard <;> infer_instance

abbrev Provision := ProvidersFile × { d : Document // d.encrypts = true }

variable {hosts : Hosts H} {leader : H} {w w' : World H} {m : Memory H} {i : Provision}

def Enabling (hosts : Hosts H) : Assertion (World H) (Memory H) := fun w m =>
  Unflagged hosts w ∧ Encrypting m

def Elected (hosts : Hosts H) (leader : H) : Assertion (World H) (Memory H) := fun w m =>
  Enabling hosts w m ∧ m.live.enable = false ∧ m.live.custom = false ∧ m.leader = some leader

def Enqueued (hosts : Hosts H) (leader : H) : Assertion (World H) (Memory H) := fun w m =>
  Unflagged hosts w ∧ m.leader = some leader ∧
    m.cluster.activateEncryptionProviders = some m.getEncryptionProviderConfigName ∧
    ∃ d, m.configuration m.getEncryptionProviderConfigName = some d ∧ d.encrypts = true

/-- The document is on every node, and the nodes wait for their flags. -/
def Distributed (hosts : Hosts H) (leader : H) (i : Provision) : Assertion (World H) (Memory H) :=
  fun w m => Unflagged hosts w ∧ m.leader = some leader ∧
    m.cluster.activateEncryptionProviders = some i.1 ∧
    ∀ h ∈ hosts.controlPlane, (w.nodes h).etc i.1 = some i.2.1

/-- The nodes that have no flag yet are in `rest`, and the others encrypt. -/
structure Upgrading (hosts : Hosts H) (i : Provision) (rest : List H) (w : World H) : Prop where
  etc : ∀ h ∈ hosts.controlPlane, (w.nodes h).etc i.1 = some i.2.1
  kubeadmConfig : w.kubeadmConfig = some i.1
  node : ∀ h ∈ hosts.controlPlane, ((w.nodes h).apiServer.flag = none ∧ h ∈ rest) ∨
    ((w.nodes h).apiServer.flag = some i.1 ∧ ∀ b ∈ w.backend h, b.writes ≠ .plain)

/-- Until the last node is upgraded. -/
def Flagging (hosts : Hosts H) (leader : H) (i : Provision) (rest : List H) :
    Assertion (World H) (Memory H) := fun w m =>
  Upgrading hosts i rest w ∧ m.leader = some leader

variable {rest : List H}

theorem Upgrading.mono {rest' : List H} (hw : Upgrading hosts i rest w)
    (hrest : ∀ h ∈ rest, h ∈ rest') : Upgrading hosts i rest' w :=
  ⟨hw.etc, hw.kubeadmConfig, fun h hmem =>
    (hw.node h hmem).imp_left fun hn => ⟨hn.1, hrest h hn.2⟩⟩

theorem Upgrading.writes (hw : Upgrading hosts i [] w) : w.Writes hosts (· ≠ .plain) := by
  intro h hmem b hb
  rcases hw.node h hmem with ⟨-, hnil⟩ | ⟨-, hwrites⟩
  · cases hnil
  · exact hwrites b hb

section

variable (hs : SameNodes w w')

include hs

theorem SameNodes.unflagged (hw : Unflagged hosts w) : Unflagged hosts w' :=
  fun h hmem => by rw [hs.apiServer]; exact hw h hmem

theorem SameNodes.enabling (hw : Enabling hosts w m) : Enabling hosts w' m :=
  ⟨hs.unflagged hw.1, hw.2⟩

theorem SameNodes.elected (hw : Elected hosts leader w m) : Elected hosts leader w' m :=
  ⟨hs.enabling hw.1, hw.2⟩

theorem SameNodes.enqueued (hw : Enqueued hosts leader w m) : Enqueued hosts leader w' m :=
  ⟨hs.unflagged hw.1, hw.2⟩

theorem SameNodes.distributed (hw : Distributed hosts leader i w m) :
    Distributed hosts leader i w' m :=
  ⟨hs.unflagged hw.1, hw.2.1, hw.2.2.1, fun h hmem => by rw [hs.etc]; exact hw.2.2.2 h hmem⟩

theorem SameNodes.upgrading (hw : Upgrading hosts i rest w) : Upgrading hosts i rest w' := by
  refine ⟨fun h hmem => ?_, by rw [hs.kubeadmConfig]; exact hw.kubeadmConfig, fun h hmem => ?_⟩
  · rw [hs.etc]
    exact hw.etc h hmem
  · rw [hs.apiServer, hs.backend]
    exact hw.node h hmem

theorem SameNodes.flagging (hw : Flagging hosts leader i rest w m) :
    Flagging hosts leader i rest w' m :=
  ⟨hs.upgrading hw.1, hw.2⟩

end

theorem Upgrading.boot {rest : List H} (hw : Upgrading hosts i rest w) {h : H}
    (hmem : h ∈ hosts.controlPlane) :
    ∀ b ∈ ((w.nodes h).boot (some i.1)).apiServer.backend, b.writes ≠ .plain := by
  refine boot_encrypts fun d hd => ?_
  obtain rfl : i.2.1 = d := Option.some.inj ((hw.etc h hmem).symm.trans hd)
  exact i.2.2

theorem Elected.enqueued (hw : Elected hosts leader w m) (key : Key) :
    Enqueued hosts leader w (generateConfigurationFiles key m) := by
  obtain ⟨⟨hflags, henabled, -, hencrypts⟩, hlive, hcustom, hleader⟩ := hw
  have hshould : m.shouldEnableEncryption = true := by
    simp [Memory.shouldEnableEncryption, henabled, hlive]
  have hname : m.getEncryptionProviderConfigName =
      if m.cluster.custom.isSome then .custom else .default := by
    simp [Memory.getEncryptionProviderConfigName, hshould, hcustom]
  refine ⟨hflags, ?_, ?_, ?_⟩
  · obtain ⟨files, hfiles⟩ := generate_eq key m
    rw [hfiles]
    exact hleader
  · rw [generate_name, generate_cluster, activate_of_enabled henabled, hname]
  · unfold generateConfigurationFiles
    simp only [hshould, Bool.true_or, if_true]
    cases hdoc : m.cluster.custom with
    | none => exact ⟨_, Function.update_self .., rfl⟩
    | some d => exact ⟨d, Function.update_self .., by simpa [hdoc] using hencrypts⟩

variable [DecidableEq H]

theorem Upgrading.restart (hw : Upgrading hosts i [] w) (ch : Choice H) :
    Upgrading hosts i [] (restartAll ch hosts.controlPlane w).1 := by
  obtain ⟨-, hconfig, hnodes, -⟩ := restartAll_spec ch hosts.controlPlane w
  refine ⟨by simpa using hw.etc, hconfig.trans hw.kubeadmConfig, fun h hmem => ?_⟩
  rw [World.backend]
  rcases hnodes h with hsame | hboot
  · rw [hsame]
    exact hw.node h hmem
  · rcases hw.node h hmem with ⟨-, hnil⟩ | ⟨hflag, -⟩
    · cases hnil
    · rw [hboot, Node.rebooted, hflag]
      exact .inr ⟨rfl, hw.boot hmem⟩

theorem Upgrading.upgradeNode {rest : List H} (hw : Upgrading hosts i rest w)
    (a : Kubeadm) (x : H) :
    Upgrading hosts i rest (upgradeNode a x w).1 ∧ ((upgradeNode a x w).2 = true →
      Upgrading hosts i (rest.filter (· ≠ x)) (upgradeNode a x w).1) := by
  unfold Encryption.upgradeNode
  split_ifs with happlied hflag
  · have hboot : Upgrading hosts i (rest.filter (· ≠ x))
        (w.setNode x ((w.nodes x).boot w.kubeadmConfig)) := by
      refine ⟨fun h hmem => ?_, hw.kubeadmConfig, fun h hmem => ?_⟩
      · by_cases hx : h = x
        · subst hx
          simpa [World.setNode] using hw.etc h hmem
        · simpa [World.setNode, hx] using hw.etc h hmem
      · by_cases hx : h = x
        · subst hx
          rw [World.backend, World.setNode, hw.kubeadmConfig]
          simp only [Function.update_self]
          exact .inr ⟨rfl, hw.boot hmem⟩
        · simpa [World.setNode, World.backend, hx] using hw.node h hmem
    exact ⟨hboot.mono fun h hin => (List.mem_filter.mp hin).1, fun _ => hboot⟩
  · refine ⟨hw, fun _ => ⟨hw.etc, hw.kubeadmConfig, fun h hmem => ?_⟩⟩
    rcases hw.node h hmem with ⟨hnone, hin⟩ | hset
    · refine .inl ⟨hnone, List.mem_filter.mpr ⟨hin, ?_⟩⟩
      by_contra hx
      obtain rfl : h = x := by simpa using hx
      simp [hnone, hw.kubeadmConfig] at hflag
    · exact .inr hset
  · exact ⟨hw, by simp⟩

def enableFrame (hosts : Hosts H) (leader : H) :
    Frame (World H) (Memory H) (Task H) (Choice H) (Request H) where
  engine := engine hosts
  guard := enableGuard hosts leader
  invariant _ := True
  env _ _ _ := trivial

theorem steady_of_same {P : Assertion (World H) (Memory H)}
    (hP : ∀ w w' m, SameNodes w w' → P w m → P w' m) : (enableFrame hosts leader).Steady P :=
  ⟨fun _ _ _ => trivial, fun e w m hw => hP w _ m (sameNodes_env e w) hw⟩

theorem steady_enabling : (enableFrame hosts leader).Steady (Enabling hosts) :=
  steady_of_same fun _ _ _ hs hw => hs.enabling hw

theorem steady_elected : (enableFrame hosts leader).Steady (Elected hosts leader) :=
  steady_of_same fun _ _ _ hs hw => hs.elected hw

theorem steady_enqueued : (enableFrame hosts leader).Steady (Enqueued hosts leader) :=
  steady_of_same fun _ _ _ hs hw => hs.enqueued hw

theorem steady_distributed : (enableFrame hosts leader).Steady (Distributed hosts leader i) :=
  steady_of_same fun _ _ _ hs hw => hs.distributed hw

theorem steady_flagging : (enableFrame hosts leader).Steady (Flagging hosts leader i rest) :=
  steady_of_same fun _ _ _ hs hw => hs.flagging hw

theorem spec_probes_enabling : (enableFrame hosts leader).Spec (Enabling hosts) .runProbes
    (Elected hosts leader) := by
  refine spec_probes rfl steady_enabling (fun w m m' hk hw => ?_)
    fun ch w m m' l hk hl hw hw' hg => ?_
  · unfold Enabling Encrypting
    rw [hk.cluster, hk.options]
    exact hw
  · have hsame : l = leader := by
      rcases hg hw.1 with hnone | hsome
      · rw [hl.elected] at hnone
        cases hnone
      · exact Option.some.inj (hl.elected.symm.trans hsome)
    refine ⟨hw', ?_, ?_, hsame ▸ hl.leader⟩
    · rw [hl.enable]
      by_contra henabled
      obtain ⟨h, hmem, hset⟩ := detect_enabled.mp (by simpa using henabled)
      rw [hw.1 h hmem] at hset
      cases hset
    · by_contra hlive
      obtain ⟨h, hmem, hset⟩ := detect_custom.mp (hk.custom (by simpa using hlive))
      rw [hw.1 h hmem] at hset
      cases hset

theorem spec_generate_elected : (enableFrame hosts leader).Spec (Elected hosts leader)
    .generateConfigurationFiles (Enqueued hosts leader) := by
  refine spec_of_exec rfl nofun steady_elected fun ch w m hw _ => ?_
  simp only [exec]
  split_ifs
  · exact ⟨rfl, hw.enqueued ch.key⟩
  · exact hw

theorem spec_upload_enqueued : (enableFrame hosts leader).Spec (Enqueued hosts leader)
    .uploadConfigurationFiles fun w m => ∃ i, Distributed hosts leader i w m := by
  refine spec_of_exec rfl nofun steady_enqueued fun ch w m hw _ => ?_
  obtain ⟨hflags, hleader, hname, d, hd, hencrypts⟩ := hw
  have hkept : Unflagged hosts (pushEncryptionConfiguration hosts ch w m ch.after).1 := by
    intro h hmem
    rw [(kept_push hosts ch w m ch.after).flag h hmem]
    exact hflags h hmem
  refine ends_finish ⟨hkept, hleader, hname, d, hd, hencrypts⟩ fun hok =>
    ⟨(m.getEncryptionProviderConfigName, ⟨d, hencrypts⟩), hkept, hleader, hname, ?_⟩
  exact fun h hmem => push_etc (w := w) hd hok hmem

theorem spec_configMaps_distributed : (enableFrame hosts leader).Spec
    (Distributed hosts leader i) .uploadKubeadmToConfigMaps
    (Flagging hosts leader i hosts.controlPlane) := by
  refine spec_of_exec rfl nofun steady_distributed fun ch w m hw hg => ?_
  have hconfigMap : ch.configMap = true := hg hw.1
  obtain ⟨hflags, hleader, hname, hetc⟩ := id hw
  simp only [exec, hconfigMap, if_true]
  split_ifs
  · exact ⟨rfl, ⟨hetc, hname, fun h hmem => .inl ⟨hflags h hmem, hmem⟩⟩, hleader⟩
  · exact hw

theorem spec_leader_flagging : (enableFrame hosts leader).Spec
    (Flagging hosts leader i hosts.controlPlane) .upgradeLeader
    (Flagging hosts leader i (hosts.controlPlane.filter (some · ≠ some leader))) := by
  refine spec_of_exec rfl nofun steady_flagging fun ch w m hw _ => ?_
  obtain ⟨hup, hleader⟩ := id hw
  obtain ⟨hkeep, hdone⟩ := hup.upgradeNode ch.kubeadm leader
  simp only [exec, hleader]
  refine ends_finish ⟨hkeep, hleader⟩ fun hok => ⟨(hdone hok).mono fun h hmem => ?_, hleader⟩
  simpa using hmem

theorem valid_followers {followers : List H} {ts : List (Task H)}
    {Q : Assertion (World H) (Memory H)}
    (hts : (enableFrame hosts leader).Valid (Flagging hosts leader i []) ts Q) :
    (enableFrame hosts leader).Valid (Flagging hosts leader i followers)
      (followers.map .upgradeFollower ++ ts) Q := by
  induction followers with
  | nil => exact hts
  | cons x followers ih =>
    refine .cons (spec_of_exec rfl nofun steady_flagging fun ch w m hw _ => ?_) ih
    obtain ⟨hkeep, hdone⟩ := hw.1.upgradeNode ch.kubeadm x
    refine ends_finish ⟨hkeep, hw.2⟩ fun hok => ⟨(hdone hok).mono fun h hmem => ?_, hw.2⟩
    obtain ⟨hin, hne⟩ := List.mem_filter.mp hmem
    exact (List.mem_cons.mp hin).resolve_left (by simpa using hne)

theorem spec_rest_flagging {n : ℕ} : ∀ t ∈ upgradeRest n, (enableFrame hosts leader).Spec
    (Flagging hosts leader i []) t (Flagging hosts leader i []) :=
  spec_upgradeRest rfl steady_flagging
    (fun ch w m hw => (sameNodes_uploadFiles hosts ch w m).flagging hw)
    fun ch _ _ hw => ⟨hw.1.restart ch, hw.2⟩

theorem valid_rewrite : (enableFrame hosts leader).Valid (Flagging hosts leader i [])
    [.rewriteClusterSecrets] fun w _ => w.Stored (· ≠ .plain) := by
  have hsteady : (enableFrame hosts leader).Steady fun w _ =>
      w.Writes hosts (· ≠ .plain) ∧ w.Stored (· ≠ .plain) := by
    refine ⟨fun _ _ _ => trivial, fun r w m hw => ⟨fun h hmem b hb => ?_, env_stored hw.1 hw.2 r⟩⟩
    rw [World.backend, enableFrame, engine, env_nodes] at hb
    exact hw.1 h hmem b hb
  refine .cons (spec_of_exec rfl (by simp) steady_flagging fun ch w m hw _ => ?_)
    (.nil hsteady fun _ _ hw => hw.2)
  have hsame := (sameNodes_rewrite hosts ch w).flagging hw
  exact ends_finish hsame fun hok =>
    ⟨hsame.1.writes, rewriteClusterSecrets_done hw.1.writes hok⟩

theorem valid_enable (n : ℕ) : (enableFrame hosts leader).Valid (Elected hosts leader)
    (upgradeTasks (hosts.controlPlane.filter (some · ≠ some leader)) n ++ [.rewriteClusterSecrets])
    fun w _ => w.Stored (· ≠ .plain) := by
  refine .cons (spec_generateKubeadm rfl steady_elected fun ch w m hw =>
    (sameNodes_uploadFiles hosts ch w m).elected hw) (.cons spec_generate_elected
      (.cons spec_upload_enqueued (.exists fun i => .cons (spec_operation rfl steady_distributed _)
        (.cons spec_configMaps_distributed (.cons (spec_operation rfl steady_flagging _)
          (.cons spec_leader_flagging ?_))))))
  simpa using valid_followers (.append_inert (spec_rest_flagging (n := n)) valid_rewrite)

theorem startable_enable :
    (enableFrame hosts leader).Startable fun w _ => w.Stored (· ≠ .plain) := by
  intro w m _ ⟨hm, hfiles, hstart⟩
  rcases hstart with hflags | hsealed
  · refine Frame.Valid.weaken (P := Enabling hosts) ?_
      (by rintro _ _ ⟨rfl, rfl⟩; exact ⟨hflags, hm⟩)
    refine valid_apply rfl steady_elected spec_probes_enabling (fun _ _ hw => hw.1)
      (fun _ _ hw => ⟨hw.2.1, hw.2.2.1⟩) (fun w m updated hw hupdated => ?_) m
    obtain ⟨-, hlive, -, hleader⟩ := hw
    rw [hlive, hupdated hlive, hleader]
    exact valid_enable hosts.staticWorkers
  · exact (valid_settled rfl (fun _ => trivial) m).weaken
      (by rintro _ _ ⟨rfl, rfl⟩; exact ⟨hsealed, hm, hfiles⟩)

/-- Whatever happened before, a forced upgrade with encryption that starts without any flag or
in a sealed cluster, and that finishes, leaves no Secret in plain text. -/
theorem enabling_leaves_no_plain_secret {c₀ c : Machine (World H) (Memory H) (Task H)}
    {m : Memory H} {es : List (Event (Memory H) (Choice H) (Request H))}
    (hes : Frame.NoStart es) (hrun : (engine hosts).run c₀ (.start m :: es) = some c)
    (hmeets : (engine hosts).Meets (enableGuard hosts leader) c₀ (.start m :: es)) :
    ∀ p, c.process = some p → p.todo = [] → ∀ s ∈ c.world.secrets, s.stored ≠ .plain :=
  (startable_enable.last_run trivial hes hrun hmeets).2

namespace SingleNode

theorem clean_enable_seals : ∃ c p,
    (engine single).run ⟨unencrypted, none⟩ (enable :: attempts 50 newKey .quiet) = some c ∧
      c.process = some p ∧ p.todo = [] ∧ ∀ s ∈ c.world.secrets, s.stored ≠ .plain := by
  have hmeets : (engine single).Meets (enableGuard single ()) ⟨unencrypted, none⟩
      (enable :: attempts 50 newKey .quiet) := by decide
  have hes : Frame.NoStart (attempts 50 newKey .quiet) := trivial
  exact ⟨_, _, rfl, rfl, rfl, enabling_leaves_no_plain_secret hes rfl hmeets _ rfl rfl⟩

/-- A run is stopped behind the upgrade of the leader. The next one finds the flag, finishes
without a rewrite, and the Secret stays in plain text. -/
theorem interrupted_enable_leaves_plain : ∃ c,
    (engine single).run ⟨unencrypted, none⟩ (enable :: attempts 16 newKey .quiet ++
      .stop :: enable :: attempts 49 newKey .quiet) = some c ∧
      c.process.any (fun p => p.todo.isEmpty) = true ∧
      c.world.secrets = [⟨"default/token", .plain⟩] :=
  ⟨_, rfl, by decide, by decide⟩

end SingleNode

end KubeOne.Encryption
