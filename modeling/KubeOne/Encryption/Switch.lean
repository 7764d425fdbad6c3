import KubeOne.Encryption.Rotation
import KubeOne.Encryption.Upgrade

/-! Switching between generated and custom configurations. An upgrade names the file in the
flag of the API servers by the manifest, and the file it saves by the manifest and the live
flags. The two agree when encryption is enabled from scratch and when its kind stays the
same. -/

namespace KubeOne.Encryption

open Process

variable {H : Type*}

def Present (hosts : Hosts H) (f : ProvidersFile) (w : World H) : Prop :=
  ∀ h ∈ hosts.controlPlane, ((w.nodes h).etc f).isSome = true

instance (hosts : Hosts H) (f : ProvidersFile) (w : World H) : Decidable (Present hosts f w) :=
  inferInstanceAs (Decidable (∀ h ∈ hosts.controlPlane, _))

/-- The file of every flag that is set, or that the next upgrade sets, is on every node. -/
def Backed (hosts : Hosts H) (w : World H) : Prop :=
  ∀ f, (∃ h ∈ hosts.controlPlane, (w.nodes h).apiServer.flag = some f) ∨
    w.kubeadmConfig = some f → Present hosts f w

/-- No API server has a flag, or the flags and the manifest agree on the kind of the
configuration, or the file that the manifest needs is on every node. -/
def Switchable (hosts : Hosts H) (cluster : Manifest) (w : World H) : Prop :=
  (detectEncryptionProvidersEnabled hosts w).1 = false ∨
    (detectEncryptionProvidersEnabled hosts w).2 = cluster.custom.isSome ∨
    ∀ f ∈ cluster.activateEncryptionProviders, Present hosts f w

instance (hosts : Hosts H) (cluster : Manifest) (w : World H) :
    Decidable (Switchable hosts cluster w) :=
  inferInstanceAs (Decidable (_ ∨ _ ∨ ∀ f ∈ cluster.activateEncryptionProviders, _))

/-- Forced upgrades with encryption, started where the kind of the configuration may be
switched. -/
def switchGuard (hosts : Hosts H) : Guard (World H) (Memory H) (Task H) (Choice H) where
  start w m := m.cluster.enabled = true ∧ m.options = ⟨true, false⟩ ∧ Switchable hosts m.cluster w
  attempt _ _ _ _ := True

instance (hosts : Hosts H) (w : World H) (m : Memory H) :
    Decidable ((switchGuard hosts).start w m) :=
  inferInstanceAs (Decidable (_ ∧ _ ∧ _))

instance (hosts : Hosts H) (t : Task H) (ch : Choice H) (w : World H) (m : Memory H) :
    Decidable ((switchGuard hosts).attempt t ch w m) :=
  inferInstanceAs (Decidable True)

variable {hosts : Hosts H} {w w' : World H} {m m' : Memory H} {f : ProvidersFile}

/-- The nodes keep their flags and lose no file. -/
structure Kept (hosts : Hosts H) (w w' : World H) : Prop where
  flag : ∀ h ∈ hosts.controlPlane, (w'.nodes h).apiServer.flag = (w.nodes h).apiServer.flag
  etc : ∀ h ∈ hosts.controlPlane, ∀ f, ((w.nodes h).etc f).isSome = true →
    ((w'.nodes h).etc f).isSome = true
  kubeadmConfig : w'.kubeadmConfig = w.kubeadmConfig

theorem SameNodes.kept (hs : SameNodes w w') : Kept hosts w w' :=
  ⟨fun h _ => by rw [hs.apiServer], fun h _ f hf => by rw [hs.etc]; exact hf, hs.kubeadmConfig⟩

section

variable (hk : Kept hosts w w')

include hk

theorem Kept.present (hp : Present hosts f w) : Present hosts f w' :=
  fun h hmem => hk.etc h hmem f (hp h hmem)

theorem Kept.backed (hb : Backed hosts w) : Backed hosts w' := by
  intro f hf
  refine hk.present (hb f ?_)
  rcases hf with ⟨h, hmem, hflag⟩ | hconfig
  · exact .inl ⟨h, hmem, by rw [← hk.flag h hmem, hflag]⟩
  · exact .inr (by rw [← hk.kubeadmConfig, hconfig])

theorem Kept.detect :
    detectEncryptionProvidersEnabled hosts w' = detectEncryptionProvidersEnabled hosts w := by
  refine Prod.ext (Bool.eq_iff_iff.mpr ?_) (Bool.eq_iff_iff.mpr ?_)
  · rw [detect_enabled, detect_enabled]
    exact exists_congr fun h => and_congr_right fun hmem => by rw [hk.flag h hmem]
  · rw [detect_custom, detect_custom]
    exact exists_congr fun h => and_congr_right fun hmem => by rw [hk.flag h hmem]

theorem Kept.switchable {cluster : Manifest}
    (hs : Switchable hosts cluster w) : Switchable hosts cluster w' := by
  rcases hs with hnone | hkind | hpresent
  · exact .inl (by rw [hk.detect, hnone])
  · exact .inr (.inl (by rw [hk.detect, hkind]))
  · exact .inr (.inr fun f hf => hk.present (hpresent f hf))

/-- Until the configuration files are generated. -/
def Switching (hosts : Hosts H) : Assertion (World H) (Memory H) := fun w m =>
  Backed hosts w ∧ m.cluster.enabled = true ∧ m.options = ⟨true, false⟩ ∧
    Switchable hosts m.cluster w

def Probed (hosts : Hosts H) : Assertion (World H) (Memory H) := fun w m =>
  Switching hosts w m ∧ (m.live.enable, m.live.custom) = detectEncryptionProvidersEnabled hosts w

/-- The file of the flag is present, or it waits for its upload under the name of the flag. -/
def Waiting (hosts : Hosts H) : Assertion (World H) (Memory H) := fun w m =>
  Backed hosts w ∧ ∀ f ∈ m.cluster.activateEncryptionProviders,
    Present hosts f w ∨ m.getEncryptionProviderConfigName = f ∧ (m.configuration f).isSome = true

def Saved (hosts : Hosts H) : Assertion (World H) (Memory H) := fun w m =>
  Backed hosts w ∧ ∀ f ∈ m.cluster.activateEncryptionProviders, Present hosts f w

theorem Kept.switching (hw : Switching hosts w m) : Switching hosts w' m :=
  ⟨hk.backed hw.1, hw.2.1, hw.2.2.1, hk.switchable hw.2.2.2⟩

theorem Kept.probed (hw : Probed hosts w m) : Probed hosts w' m :=
  ⟨hk.switching hw.1, by rw [hk.detect]; exact hw.2⟩

theorem Kept.waiting (hw : Waiting hosts w m) : Waiting hosts w' m :=
  ⟨hk.backed hw.1, fun f hf => (hw.2 f hf).imp_left hk.present⟩

theorem Kept.saved (hw : Saved hosts w m) : Saved hosts w' m :=
  ⟨hk.backed hw.1, fun f hf => hk.present (hw.2 f hf)⟩

end

theorem activate_of_enabled {cluster : Manifest} (h : cluster.enabled = true) :
    cluster.activateEncryptionProviders =
      some (if cluster.custom.isSome then .custom else .default) := by
  unfold Manifest.enabled at h
  unfold Manifest.activateEncryptionProviders Manifest.custom
  rcases hp : cluster.encryptionProviders with _ | ⟨_ | _, _ | _⟩ <;> simp_all

theorem detect_custom_enabled (h : (detectEncryptionProvidersEnabled hosts w).2 = true) :
    (detectEncryptionProvidersEnabled hosts w).1 = true := by
  obtain ⟨x, hmem, hflag⟩ := detect_custom.mp h
  exact detect_enabled.mpr ⟨x, hmem, by rw [hflag]; rfl⟩

theorem Backed.present_default (hb : Backed hosts w)
    (henabled : (detectEncryptionProvidersEnabled hosts w).1 = true)
    (hcustom : (detectEncryptionProvidersEnabled hosts w).2 = false) :
    Present hosts .default w := by
  obtain ⟨h, hmem, hset⟩ := detect_enabled.mp henabled
  obtain ⟨f, hflag⟩ := Option.isSome_iff_exists.mp hset
  cases f with
  | default => exact hb .default (.inl ⟨h, hmem, hflag⟩)
  | custom =>
    have := detect_custom.mpr ⟨h, hmem, hflag⟩
    rw [hcustom] at this
    cases this

theorem generate_eq (key : Key) (m : Memory H) :
    ∃ files, generateConfigurationFiles key m = { m with configuration := files } := by
  unfold generateConfigurationFiles
  split
  · split
    · exact ⟨_, rfl⟩
    · split
      · exact ⟨_, rfl⟩
      · exact ⟨m.configuration, rfl⟩
  · exact ⟨m.configuration, rfl⟩

theorem generate_name (key : Key) (m : Memory H) :
    (generateConfigurationFiles key m).getEncryptionProviderConfigName =
      m.getEncryptionProviderConfigName := by
  obtain ⟨files, hfiles⟩ := generate_eq key m
  rw [hfiles]
  rfl

theorem generate_configuration (key : Key) (henabled : m.cluster.enabled = true)
    (hnew : m.live.enable = false ∨ m.cluster.custom.isSome = true) :
    ∃ d, (generateConfigurationFiles key m).configuration m.getEncryptionProviderConfigName =
      some d := by
  have hfiles : (m.shouldEnableEncryption || m.encryptionEnabled) = true := by
    simp only [Memory.shouldEnableEncryption, Memory.encryptionEnabled, henabled]
    cases m.live.enable <;> rfl
  unfold generateConfigurationFiles
  rw [if_pos hfiles]
  cases hcustom : m.cluster.custom with
  | some d => exact ⟨d, Function.update_self ..⟩
  | none =>
    have hlive : m.live.enable = false := by simpa [hcustom] using hnew
    have hshould : m.shouldEnableEncryption = true := by
      simp [Memory.shouldEnableEncryption, henabled, hlive]
    simp only [hshould, if_true]
    exact ⟨_, Function.update_self ..⟩

theorem generate_cluster (key : Key) (m : Memory H) :
    (generateConfigurationFiles key m).cluster = m.cluster := by
  obtain ⟨files, hfiles⟩ := generate_eq key m
  rw [hfiles]

theorem Probed.waiting (hw : Probed hosts w m) (key : Key) :
    Waiting hosts w (generateConfigurationFiles key m) := by
  obtain ⟨⟨hb, henabled, -, hswitch⟩, hdetect⟩ := hw
  refine ⟨hb, fun f hf => ?_⟩
  rw [generate_cluster, activate_of_enabled henabled] at hf
  rw [generate_name]
  obtain rfl : (if m.cluster.custom.isSome then ProvidersFile.custom else .default) = f := by
    simpa using hf
  have hlive : m.live.enable = (detectEncryptionProvidersEnabled hosts w).1 := by rw [← hdetect]
  have hlive' : m.live.custom = (detectEncryptionProvidersEnabled hosts w).2 := by rw [← hdetect]
  cases he : (detectEncryptionProvidersEnabled hosts w).1 with
  | false =>
    have hc : (detectEncryptionProvidersEnabled hosts w).2 = false := by
      by_contra hc
      rw [detect_custom_enabled (by simpa using hc)] at he
      cases he
    have hname : m.getEncryptionProviderConfigName =
        if m.cluster.custom.isSome then .custom else .default := by
      simp [Memory.getEncryptionProviderConfigName, Memory.shouldEnableEncryption, henabled,
        hlive, he, hlive', hc]
    obtain ⟨d, hd⟩ := generate_configuration key henabled (.inl (hlive.trans he))
    exact .inr ⟨hname, by rw [← hname, hd]; rfl⟩
  | true =>
    rcases hswitch with hnone | hkind | hpresent
    · rw [he] at hnone
      cases hnone
    · cases hcustom : m.cluster.custom.isSome with
      | false =>
        rw [hcustom] at hkind
        exact .inl (hb.present_default he hkind)
      | true =>
        have hname : m.getEncryptionProviderConfigName = .custom := by
          simp [Memory.getEncryptionProviderConfigName, hlive', hkind, hcustom]
        obtain ⟨d, hd⟩ := generate_configuration key henabled (.inr hcustom)
        exact .inr ⟨hname, by rw [hname] at hd; simp [hd]⟩
    · exact .inl (hpresent _ (activate_of_enabled henabled))

variable [DecidableEq H]

theorem kept_restart (ch : Choice H) (w : World H) :
    Kept hosts w (restartAll ch hosts.controlPlane w).1 :=
  ⟨by simp, by simp, (restartAll_spec ch hosts.controlPlane w).2.1⟩

theorem kept_push (hosts : Hosts H) (ch : Choice H) (w : World H) (m : Memory H) (ok : Bool) :
    Kept hosts w (pushEncryptionConfiguration hosts ch w m ok).1 := by
  refine ⟨fun h hmem => ?_, fun h hmem f hf => ?_, rfl⟩
  · simp only [pushEncryptionConfiguration, onControlPlane_node hmem, pushOnNode_apiServer]
  · simp only [pushEncryptionConfiguration, onControlPlane_node hmem]
    exact pushOnNode_isSome hf _ _ _ _

theorem push_etc {ch : Choice H} {ok : Bool} {d : Document}
    (hd : m.configuration m.getEncryptionProviderConfigName = some d)
    (hok : (ok && hosts.controlPlane.all fun h =>
      uploaded m.configuration (ch.upload h) && ch.script h = .fine) = true)
    {h : H} (hmem : h ∈ hosts.controlPlane) :
    ((pushEncryptionConfiguration hosts ch w m ok).1.nodes h).etc
      m.getEncryptionProviderConfigName = some d := by
  obtain ⟨hup, hfine⟩ : uploaded m.configuration (ch.upload h) = true ∧ ch.script h = .fine := by
    simpa using List.all_eq_true.mp (Bool.and_eq_true_iff.mp hok).2 h hmem
  simp only [pushEncryptionConfiguration, onControlPlane_node hmem]
  rw [hfine, pushOnNode_etc_fine hd hup, Function.update_self]

def switchFrame (hosts : Hosts H) : Frame (World H) (Memory H) (Task H) (Choice H) (Request H) where
  engine := engine hosts
  guard := switchGuard hosts
  invariant := Backed hosts
  env e w hw := (sameNodes_env e w).kept.backed hw

theorem steady_of_kept {P : Assertion (World H) (Memory H)} (hb : ∀ w m, P w m → Backed hosts w)
    (hP : ∀ w w' m, Kept hosts w w' → P w m → P w' m) : (switchFrame hosts).Steady P :=
  ⟨hb, fun e w m hw => hP w _ m (sameNodes_env e w).kept hw⟩

theorem steady_switching : (switchFrame hosts).Steady (Switching hosts) :=
  steady_of_kept (fun _ _ hw => hw.1) fun _ _ _ hk hw => hk.switching hw

theorem steady_probed : (switchFrame hosts).Steady (Probed hosts) :=
  steady_of_kept (fun _ _ hw => hw.1.1) fun _ _ _ hk hw => hk.probed hw

theorem steady_waiting : (switchFrame hosts).Steady (Waiting hosts) :=
  steady_of_kept (fun _ _ hw => hw.1) fun _ _ _ hk hw => hk.waiting hw

theorem steady_saved : (switchFrame hosts).Steady (Saved hosts) :=
  steady_of_kept (fun _ _ hw => hw.1) fun _ _ _ hk hw => hk.saved hw

theorem spec_probes_switching :
    (switchFrame hosts).Spec (Switching hosts) .runProbes (Probed hosts) := by
  refine spec_probes rfl steady_switching (fun w m m' hk hw => ?_)
    fun ch w m m' l hk hl _ hw' _ => ⟨hw', Prod.ext hl.enable ?_⟩
  · unfold Switching
    rw [hk.cluster, hk.options]
    exact hw
  · cases he : (detectEncryptionProvidersEnabled hosts w).1 with
    | true => exact (hl.file he).1
    | false =>
      have hfalse : (detectEncryptionProvidersEnabled hosts w).2 = false := by
        by_contra hc
        rw [detect_custom_enabled (by simpa using hc)] at he
        cases he
      rw [hfalse]
      by_contra hc
      rw [hk.custom (by simpa using hc)] at hfalse
      cases hfalse

theorem spec_generate :
    (switchFrame hosts).Spec (Probed hosts) .generateConfigurationFiles (Waiting hosts) := by
  refine spec_of_exec rfl nofun steady_probed fun ch w m hw _ => ?_
  simp only [exec]
  split_ifs
  · exact ⟨rfl, hw.waiting ch.key⟩
  · exact hw

theorem spec_upload :
    (switchFrame hosts).Spec (Waiting hosts) .uploadConfigurationFiles (Saved hosts) := by
  refine spec_of_exec rfl nofun steady_waiting fun ch w m hw _ => ?_
  have hkept := kept_push hosts ch w m ch.after
  refine ends_finish (hkept.waiting hw) fun hok => ⟨hkept.backed hw.1, fun f hf => ?_⟩
  rcases hw.2 f hf with hpresent | ⟨rfl, hsome⟩
  · exact hkept.present hpresent
  · obtain ⟨d, hd⟩ := Option.isSome_iff_exists.mp hsome
    exact fun h hmem => Option.isSome_iff_exists.mpr ⟨d, push_etc (w := w) hd hok hmem⟩

theorem spec_configMaps :
    (switchFrame hosts).Spec (Saved hosts) .uploadKubeadmToConfigMaps (Saved hosts) := by
  refine spec_of_exec rfl nofun steady_saved fun ch w m hw _ => ?_
  simp only [exec]
  split_ifs
  · refine ⟨rfl, ?_, hw.2⟩
    rintro f (hflag | hconfig)
    · exact hw.1 f (.inl hflag)
    · exact hw.2 f hconfig
  · exact ⟨rfl, hw⟩
  · exact hw

theorem Saved.upgradeNode (hw : Saved hosts w m) (a : Kubeadm) (x : H) :
    Saved hosts (upgradeNode a x w).1 m := by
  have hboot : Saved hosts (w.setNode x ((w.nodes x).boot w.kubeadmConfig)) m := by
    have hetc : ∀ h, ((w.setNode x ((w.nodes x).boot w.kubeadmConfig)).nodes h).etc =
        (w.nodes h).etc := by
      intro h
      by_cases hx : h = x
      · simp [World.setNode, hx]
      · simp [World.setNode, hx]
    have hpresent : ∀ f, Present hosts f w →
        Present hosts f (w.setNode x ((w.nodes x).boot w.kubeadmConfig)) :=
      fun f hf h hmem => by rw [hetc]; exact hf h hmem
    refine ⟨?_, fun f hf => hpresent f (hw.2 f hf)⟩
    rintro f (⟨h, hmem, hflag⟩ | hconfig)
    · refine hpresent f (hw.1 f ?_)
      by_cases hx : h = x
      · exact .inr (by simpa [World.setNode, hx] using hflag)
      · exact .inl ⟨h, hmem, by simpa [World.setNode, hx] using hflag⟩
    · exact hpresent f (hw.1 f (.inr hconfig))
  unfold Encryption.upgradeNode
  split_ifs
  · exact hboot
  · exact hw
  · exact hw

theorem spec_upgradeNode {t : Task H} (ht : t = .upgradeLeader ∨ ∃ h, t = .upgradeFollower h) :
    (switchFrame hosts).Spec (Saved hosts) t (Saved hosts) := by
  refine spec_of_exec rfl (by rcases ht with rfl | ⟨h, rfl⟩ <;> nofun) steady_saved
    fun ch w m hw _ => ?_
  rcases ht with rfl | ⟨h, rfl⟩
  · simp only [exec]
    split
    · rename_i l _
      exact ends_finish (hw.upgradeNode ch.kubeadm l) fun _ => hw.upgradeNode ch.kubeadm l
    · exact hw
  · exact ends_finish (hw.upgradeNode ch.kubeadm h) fun _ => hw.upgradeNode ch.kubeadm h

theorem spec_rewrite_saved :
    (switchFrame hosts).Spec (Saved hosts) .rewriteClusterSecrets (Saved hosts) :=
  spec_of_exec rfl nofun steady_saved fun ch w _ hw _ =>
    have hrewrite := (sameNodes_rewrite hosts ch w).kept.saved hw
    ends_finish hrewrite fun _ => hrewrite

theorem spec_restart_saved :
    (switchFrame hosts).Spec (Saved hosts) .restartKubeAPIServer (Saved hosts) :=
  spec_restart rfl steady_saved fun ch w _ hw => (kept_restart ch w).saved hw

theorem valid_upgradeTasks (followers : List H) (n : ℕ) {ts : List (Task H)}
    (hts : ∀ t ∈ ts, t = .restartKubeAPIServer ∨ t = .rewriteClusterSecrets) :
    (switchFrame hosts).Valid (Probed hosts) (upgradeTasks followers n ++ ts) fun w m =>
      ∀ f ∈ m.cluster.activateEncryptionProviders, Present hosts f w := by
  have hrest : (switchFrame hosts).Valid (Saved hosts)
      (followers.map .upgradeFollower ++ upgradeRest n ++ ts ++ []) fun w m =>
        ∀ f ∈ m.cluster.activateEncryptionProviders, Present hosts f w := by
    refine .append_inert (fun t ht => ?_) (.nil steady_saved fun w m hw => hw.2)
    rcases List.mem_append.mp ht with ht | ht
    · rcases List.mem_append.mp ht with ht | ht
      · obtain ⟨h, -, rfl⟩ := List.mem_map.mp ht
        exact spec_upgradeNode (.inr ⟨h, rfl⟩)
      · exact spec_upgradeRest rfl steady_saved
          (fun ch w m hw => (sameNodes_uploadFiles hosts ch w m).kept.saved hw)
          (fun ch w _ hw => (kept_restart ch w).saved hw) t ht
    · rcases hts t ht with rfl | rfl
      · exact spec_restart_saved
      · exact spec_rewrite_saved
  rw [List.append_nil, List.append_assoc] at hrest
  refine .cons (spec_generateKubeadm rfl steady_probed fun ch w m hw =>
    (sameNodes_uploadFiles hosts ch w m).kept.probed hw) (.cons spec_generate
    (.cons spec_upload (.cons (spec_operation rfl steady_saved _)
      (.cons spec_configMaps (.cons (spec_operation rfl steady_saved _)
        (.cons (spec_upgradeNode (.inl rfl)) ?_))))))
  simpa using hrest

theorem startable_switch : (switchFrame hosts).Startable fun w m =>
    ∀ f ∈ m.cluster.activateEncryptionProviders, Present hosts f w := by
  intro w m hw hstart
  refine Frame.Valid.weaken (P := Switching hosts) ?_
    (by rintro _ _ ⟨rfl, rfl⟩; exact ⟨hw, hstart.1, hstart.2.1, hstart.2.2⟩)
  refine valid_apply rfl steady_probed spec_probes_switching (fun w m hw => hw.1)
    (fun w m hw => ⟨hw.2.1, hw.2.2.1⟩) (fun w m updated _ _ => valid_upgradeTasks _ _ ?_) m
  intro t ht
  rcases List.mem_append.mp ht with ht | ht
  · split_ifs at ht <;> simp_all
  · split_ifs at ht <;> simp_all

/-- Along every history of forced upgrades that start where the kind of the configuration may
be switched, after every run that finishes the file in the flag of its manifest is on every
control plane node. -/
theorem switch_leaves_file_of_flag (hw : Backed hosts w)
    {es : List (Event (Memory H) (Choice H) (Request H))}
    {c : Machine (World H) (Memory H) (Task H)}
    (hrun : (engine hosts).run ⟨w, none⟩ es = some c)
    (hmeets : (engine hosts).Meets (switchGuard hosts) ⟨w, none⟩ es) :
    ∀ p, c.process = some p → p.todo = [] →
      ∀ f ∈ p.memory.cluster.activateEncryptionProviders, Present hosts f c.world :=
  (startable_switch.run hw hrun hmeets).2

namespace SingleNode

def unencrypted : World Unit where
  nodes _ :=
    { workDir := fun _ => none
      etc := fun _ => none
      apiServer := ⟨none, some .unencrypted⟩ }
  secrets := [⟨"default/token", .plain⟩]
  kubeadmConfig := none

def enable : Event (Memory Unit) (Choice Unit) (Request Unit) :=
  .start (.init ⟨some ⟨true, none⟩, false⟩ ⟨true, false⟩)

theorem clean_enable_present : ∃ c p,
    (engine single).run ⟨unencrypted, none⟩ (enable :: attempts 50 newKey .quiet) = some c ∧
      c.process = some p ∧ p.todo = [] ∧
      ∀ f ∈ p.memory.cluster.activateEncryptionProviders, Present single f c.world := by
  have hbacked : Backed single unencrypted := by
    rintro f (⟨h, -, hflag⟩ | hconfig)
    · cases hflag
    · cases hconfig
  have hmeets : (engine single).Meets (switchGuard single) ⟨unencrypted, none⟩
      (enable :: attempts 50 newKey .quiet) := by decide
  exact ⟨_, _, rfl, rfl, rfl, switch_leaves_file_of_flag hbacked rfl hmeets _ rfl rfl⟩

end SingleNode

namespace TwoNodes

open SingleNode

def two : Hosts Bool := ⟨[false, true], 0⟩

/-- Both nodes run with a generated configuration, and one of them still has a file from an
upload of a custom one that has failed on the other. -/
def leftover : World Bool where
  nodes h :=
    { workDir := fun _ => none
      etc := fun f => if f = .custom && h then none else some (.config (generated [oldKey]))
      apiServer := ⟨some .default, some (.encrypted (generated [oldKey]) (.aescbc oldKey))⟩ }
  secrets := []
  kubeadmConfig := some .default

def custom : Memory H :=
  .init ⟨some ⟨true, some (.config (generated [newKey]))⟩, false⟩ ⟨true, false⟩

/-- A generated configuration is switched to a custom one. The upgrade saves the new
configuration under the default name and succeeds, on a single node while the update of the
kubeadm configuration is rejected, and on two nodes while one API server can start. -/
theorem switch_misses_file :
    (Backed single (encryptedBy .default) ∧ ∃ c,
      (engine single).run ⟨encryptedBy .default, none⟩
        (.start custom :: .replicate 49 (.attempt { configMap := false })) = some c ∧
      c.process.any (fun p => p.todo.isEmpty &&
        p.memory.cluster.activateEncryptionProviders = some .custom) = true ∧
      ¬ Present single .custom c.world) ∧
    Backed two leftover ∧ ∃ c,
      (engine two).run ⟨leftover, none⟩
        (.start custom :: .replicate 50 (.attempt { restart := fun _ => .quiet })) = some c ∧
      c.process.any (fun p => p.todo.isEmpty &&
        p.memory.cluster.activateEncryptionProviders = some .custom) = true ∧
      (c.world.backend false).isSome = true ∧ ¬ Present two .custom c.world := by
  refine ⟨⟨?_, _, rfl, by decide, by decide⟩, ?_, _, rfl, by decide, by decide, by decide⟩
  · rintro f (⟨h, -, hflag⟩ | hconfig)
    · cases hflag
      decide
    · cases hconfig
      decide
  · rintro f (⟨h, -, hflag⟩ | hconfig)
    · cases hflag
      decide
    · cases hconfig
      decide

end TwoNodes

end KubeOne.Encryption
