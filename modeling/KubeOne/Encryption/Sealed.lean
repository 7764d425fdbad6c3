import KubeOne.Encryption.Switch

/-! Clusters that store no Secret in plain text. Every API server encrypts, and so does every
configuration that one of them could be started with. Forced upgrades whose manifest keeps
encryption enabled leave a cluster so. -/

namespace KubeOne.Encryption

open Process List

variable {H : Type*}

/-- The first provider for Secrets encrypts. A document that is no configuration keeps an API
server from starting. -/
def Document.encrypts : Document → Bool
  | .config c => c.writes ≠ some .plain
  | .malformed => true

def Directory.encrypts (files : Directory) : Bool :=
  [ProvidersFile.default, .custom].all fun f => (files f).all Document.encrypts

variable {files : Directory}

open Directory

theorem Directory.encrypts_iff :
    files.encrypts = true ↔ ∀ f d, files f = some d → d.encrypts = true := by
  simp only [encrypts, all_cons, all_nil, Bool.and_true, Bool.and_eq_true]
  constructor
  · rintro ⟨hdefault, hcustom⟩ f d hd
    cases f with
    | default => simpa [hd] using hdefault
    | custom => simpa [hd] using hcustom
  · intro h
    have hall : ∀ f, (files f).all Document.encrypts = true := by
      intro f
      cases hf : files f with
      | none => rfl
      | some d => exact h f d hf
    exact ⟨hall .default, hall .custom⟩

theorem Directory.encrypts_update {d : Document} (hfiles : files.encrypts = true)
    (hd : d.encrypts = true) (f : ProvidersFile) :
    encrypts (Function.update files f (some d)) = true := by
  refine encrypts_iff.mpr fun g e hg => ?_
  by_cases hgf : g = f
  · subst hgf
    obtain rfl : d = e := by simpa using hg
    exact hd
  · rw [Function.update_of_ne hgf] at hg
    exact encrypts_iff.mp hfiles g e hg

variable {n : Node}

theorem boot_encrypts {f : ProvidersFile} (hetc : ∀ d, n.etc f = some d → d.encrypts = true) :
    ∀ b ∈ (n.boot (some f)).apiServer.backend, b.writes ≠ .plain := by
  intro b hb
  cases hd : n.etc f with
  | none => simp [Node.boot, hd] at hb
  | some d =>
    cases d with
    | malformed => simp [Node.boot, hd] at hb
    | config c =>
      rw [boot_backend hd] at hb
      obtain ⟨s, hs, rfl⟩ := Option.map_eq_some_iff.mp hb
      intro hplain
      obtain rfl : s = .plain := hplain
      have hencrypts := hetc _ hd
      simp [Document.encrypts, hs] at hencrypts

/-- The API server has a flag and encrypts, and every file on the node does. -/
structure Node.Sealed (n : Node) : Prop where
  workDir : n.workDir.encrypts = true
  etc : n.etc.encrypts = true
  flag : n.apiServer.flag.isSome = true
  backend : ∀ b ∈ n.apiServer.backend, b.writes ≠ .plain

instance (n : Node) : Decidable n.Sealed :=
  decidable_of_iff (n.workDir.encrypts = true ∧ n.etc.encrypts = true ∧
      n.apiServer.flag.isSome = true ∧ ∀ b ∈ n.apiServer.backend, b.writes ≠ .plain)
    ⟨fun ⟨hwork, hetc, hflag, hbackend⟩ => ⟨hwork, hetc, hflag, hbackend⟩,
      fun hn => ⟨hn.workDir, hn.etc, hn.flag, hn.backend⟩⟩

theorem Node.Sealed.boot {n : Node} (hn : n.Sealed) (f : ProvidersFile) :
    (n.boot (some f)).Sealed :=
  ⟨hn.workDir, hn.etc, rfl, boot_encrypts (encrypts_iff.mp hn.etc f)⟩

theorem Node.Sealed.rebooted {n : Node} (hn : n.Sealed) : n.rebooted.Sealed := by
  obtain ⟨f, hf⟩ := Option.isSome_iff_exists.mp hn.flag
  rw [Node.rebooted, hf]
  exact hn.boot f

theorem Node.Sealed.uploadTo {n : Node} (hn : n.Sealed) {files : Directory}
    (hfiles : files.encrypts = true) (a : ProvidersFile → Upload) :
    (n.uploadTo files a).Sealed := by
  refine ⟨encrypts_iff.mpr fun f d hd => ?_, hn.etc, hn.flag, hn.backend⟩
  simp only [Node.uploadTo] at hd
  split at hd
  · rename_i e hfile _
    obtain rfl : e = d := Option.some.inj hd
    exact encrypts_iff.mp hfiles f e hfile
  · obtain rfl : Document.malformed = d := Option.some.inj hd
    rfl
  · exact encrypts_iff.mp hn.workDir f d hd

theorem Node.Sealed.save (hn : n.Sealed) (name : ProvidersFile) :
    (n.saveEncryptionProvidersConfig name).Sealed := by
  unfold Node.saveEncryptionProvidersConfig
  split
  · rename_i d hd
    have hencrypts := encrypts_iff.mp hn.workDir name d hd
    refine ⟨encrypts_iff.mpr fun f e he => ?_,
      encrypts_update hn.etc hencrypts name, hn.flag, hn.backend⟩
    by_cases hf : f = name
    · simp [hf] at he
    · simp only [Function.update_of_ne hf] at he
      exact encrypts_iff.mp hn.workDir f e he
  · exact hn

theorem Node.Sealed.push (hn : n.Sealed) (hfiles : files.encrypts = true) (name : ProvidersFile)
    (a : ProvidersFile → Upload) (s : Script) : (pushOnNode files name a s n).Sealed := by
  have hupload := hn.uploadTo hfiles a
  unfold pushOnNode
  split_ifs
  · cases s with
    | lost => exact hupload
    | broke => exact hupload.save name
    | fine => exact hupload.save name
  · exact hupload

structure World.Sealed (hosts : Hosts H) (w : World H) : Prop where
  node : ∀ h ∈ hosts.controlPlane, (w.nodes h).Sealed
  kubeadmConfig : w.kubeadmConfig.isSome = true
  secrets : w.Stored (· ≠ .plain)

instance (hosts : Hosts H) (w : World H) : Decidable (w.Sealed hosts) :=
  decidable_of_iff ((∀ h ∈ hosts.controlPlane, (w.nodes h).Sealed) ∧
      w.kubeadmConfig.isSome = true ∧ ∀ s ∈ w.secrets, s.stored ≠ .plain)
    ⟨fun ⟨hnode, hconfig, hsecrets⟩ => ⟨hnode, hconfig, hsecrets⟩,
      fun hw => ⟨hw.node, hw.kubeadmConfig, hw.secrets⟩⟩

variable {hosts : Hosts H} {w : World H} {m : Memory H}

theorem World.Sealed.writes (hw : w.Sealed hosts) : w.Writes hosts (· ≠ .plain) :=
  fun h hmem => (hw.node h hmem).backend

/-- The manifest enables encryption with a configuration that encrypts. -/
def Encrypting (m : Memory H) : Prop :=
  m.cluster.enabled = true ∧ m.options = ⟨true, false⟩ ∧
    m.cluster.custom.all Document.encrypts = true

theorem generate_encrypts (hm : Encrypting m) (hfiles : m.configuration.encrypts = true)
    (key : Key) : (generateConfigurationFiles key m).configuration.encrypts = true := by
  unfold generateConfigurationFiles
  split
  · split
    · rename_i d hd
      exact encrypts_update hfiles (by simpa [hd] using hm.2.2) _
    · split
      · exact encrypts_update hfiles rfl _
      · exact hfiles
  · exact hfiles

/-- A run that keeps encryption. -/
def Settled (hosts : Hosts H) : Assertion (World H) (Memory H) := fun w m =>
  w.Sealed hosts ∧ Encrypting m ∧ m.configuration.encrypts = true

theorem Settled.generate (hw : Settled hosts w m) (key : Key) :
    Settled hosts w (generateConfigurationFiles key m) := by
  have hencrypts := generate_encrypts hw.2.1 hw.2.2 key
  obtain ⟨files, hfiles⟩ := generate_eq key m
  rw [hfiles] at hencrypts ⊢
  exact ⟨hw.1, hw.2.1, hencrypts⟩

variable [DecidableEq H]

section

variable (hw : w.Sealed hosts)

include hw

theorem World.Sealed.onControlPlane {f : H → Node → Node}
    (hf : ∀ h n, n.Sealed → (f h n).Sealed) : (onControlPlane hosts f w).Sealed hosts := by
  refine ⟨fun h hmem => ?_, hw.kubeadmConfig, hw.secrets⟩
  rw [onControlPlane_node hmem]
  exact hf h _ (hw.node h hmem)

theorem World.Sealed.restart (ch : Choice H) :
    (restartAll ch hosts.controlPlane w).1.Sealed hosts := by
  obtain ⟨hsecrets, hconfig, hnodes, -⟩ := restartAll_spec ch hosts.controlPlane w
  refine ⟨fun h hmem => ?_, by rw [hconfig]; exact hw.kubeadmConfig, fun s hs => ?_⟩
  · rcases hnodes h with hsame | hboot
    · rw [hsame]
      exact hw.node h hmem
    · rw [hboot]
      exact (hw.node h hmem).rebooted
  · rw [hsecrets] at hs
    exact hw.secrets s hs

theorem World.Sealed.upgradeNode (a : Kubeadm) (x : H) : (upgradeNode a x w).1.Sealed hosts := by
  unfold Encryption.upgradeNode
  split_ifs
  · refine ⟨fun h hmem => ?_, hw.kubeadmConfig, hw.secrets⟩
    by_cases hx : h = x
    · subst hx
      obtain ⟨f, hf⟩ := Option.isSome_iff_exists.mp hw.kubeadmConfig
      simpa [World.setNode, hf] using (hw.node h hmem).boot f
    · simpa [World.setNode, hx] using hw.node h hmem
  · exact hw
  · exact hw

theorem World.Sealed.rewrite (ch : Choice H) :
    (rewriteClusterSecrets hosts ch w).1.Sealed hosts := by
  obtain ⟨hnodes, hconfig⟩ := rewriteClusterSecrets_nodes hosts ch w
  refine ⟨fun h hmem => ?_, by rw [hconfig]; exact hw.kubeadmConfig,
    rewriteClusterSecrets_stored hw.writes hw.secrets ch⟩
  rw [hnodes]
  exact hw.node h hmem

theorem World.Sealed.env {main : List (Task H)} (r : Request H) :
    ((engineOf hosts main).env r w).Sealed hosts := by
  refine ⟨fun h hmem => ?_, ?_, env_stored hw.writes hw.secrets r⟩
  · rw [env_nodes]
    exact hw.node h hmem
  · rw [env_kubeadmConfig]
    exact hw.kubeadmConfig

end

variable {F : Frame (World H) (Memory H) (Task H) (Choice H) (Request H)}

theorem steady_settled (hE : F.engine = engine hosts) (hinv : ∀ w, F.invariant w) :
    F.Steady (Settled hosts) := by
  refine ⟨fun w _ _ => hinv w, fun r w m hw => ?_⟩
  rw [hE]
  exact ⟨hw.1.env r, hw.2⟩

section

variable (hw : Settled hosts w m)

include hw

theorem Settled.push (ch : Choice H) (ok : Bool) :
    Settled hosts (pushEncryptionConfiguration hosts ch w m ok).1 m :=
  ⟨hw.1.onControlPlane fun _ _ hn => hn.push hw.2.2 _ _ _, hw.2⟩

theorem Settled.uploadFiles (ch : Choice H) : Settled hosts (uploadFiles hosts ch w m).1 m :=
  ⟨hw.1.onControlPlane fun _ _ hn => hn.uploadTo hw.2.2 _, hw.2⟩

theorem Settled.restart (ch : Choice H) : Settled hosts (restartAll ch hosts.controlPlane w).1 m :=
  ⟨hw.1.restart ch, hw.2⟩

theorem Settled.upgradeNode (a : Kubeadm) (x : H) : Settled hosts (upgradeNode a x w).1 m :=
  ⟨hw.1.upgradeNode a x, hw.2⟩

theorem Settled.rewrite (ch : Choice H) : Settled hosts (rewriteClusterSecrets hosts ch w).1 m :=
  ⟨hw.1.rewrite ch, hw.2⟩

end

theorem spec_probes_settled (hE : F.engine = engine hosts) (hinv : ∀ w, F.invariant w) :
    F.Spec (Settled hosts) .runProbes (Settled hosts) := by
  refine spec_probes hE (steady_settled hE hinv) (fun w m m' hk hw => ?_)
    fun _ _ _ _ _ _ _ _ hw' _ => hw'
  unfold Settled Encrypting
  rw [hk.cluster, hk.options, hk.configuration]
  exact hw

theorem spec_upgradeTasks_settled (hE : F.engine = engine hosts) (hinv : ∀ w, F.invariant w)
    {followers : List H} {n : ℕ} :
    ∀ t ∈ upgradeTasks followers n, F.Spec (Settled hosts) t (Settled hosts) := by
  have hsteady := steady_settled hE hinv
  intro t ht
  simp only [upgradeTasks, kubernetesConfigFiles, mem_append, mem_cons,
    not_mem_nil, or_false, mem_map] at ht
  rcases ht with (((rfl | rfl | rfl) | rfl | rfl | rfl | rfl) | ⟨x, -, rfl⟩) | hrest
  · exact spec_generateKubeadm hE hsteady fun ch _ _ hw => hw.uploadFiles ch
  · refine spec_of_exec hE (by simp) hsteady fun ch w m hw _ => ?_
    simp only [exec]
    split_ifs
    · exact ⟨rfl, hw.generate ch.key⟩
    · exact hw
  · exact spec_of_exec hE (by simp) hsteady fun ch w m hw _ =>
      ends_finish (hw.push ch ch.after) fun _ => hw.push ch ch.after
  · exact spec_operation hE hsteady _
  · refine spec_of_exec hE (by simp) hsteady fun ch w m hw _ => ?_
    simp only [exec]
    split_ifs
    · refine ⟨rfl, ⟨hw.1.node, ?_, hw.1.secrets⟩, hw.2⟩
      rw [activate_of_enabled hw.2.1.1]
      rfl
    · exact ⟨rfl, hw⟩
    · exact hw
  · exact spec_operation hE hsteady _
  · refine spec_of_exec hE (by simp) hsteady fun ch w m hw _ => ?_
    simp only [exec]
    split
    · rename_i l _
      exact ends_finish (hw.upgradeNode ch.kubeadm l) fun _ => hw.upgradeNode ch.kubeadm l
    · exact hw
  · exact spec_of_exec hE (by simp) hsteady fun ch w m hw _ =>
      ends_finish (hw.upgradeNode ch.kubeadm x) fun _ => hw.upgradeNode ch.kubeadm x
  · exact spec_upgradeRest hE hsteady (fun ch _ _ hw => hw.uploadFiles ch)
      (fun ch _ _ hw => hw.restart ch) t hrest

theorem valid_settled (hE : F.engine = engine hosts) (hinv : ∀ w, F.invariant w) (m : Memory H) :
    F.Valid (Settled hosts) (F.engine.main m) fun w _ => w.Stored (· ≠ .plain) := by
  have hsteady := steady_settled hE hinv
  refine valid_apply hE hsteady (spec_probes_settled hE hinv) (fun _ _ hw => hw)
    (fun _ _ hw => ⟨hw.2.1.1, hw.2.1.2.1⟩) (fun w m updated _ _ => ?_) m
  rw [← append_nil (upgradeTasks _ _ ++ _)]
  refine .append_inert (fun t ht => ?_) (.nil hsteady fun _ _ hw => hw.1.secrets)
  rcases mem_append.mp ht with ht | ht
  · exact spec_upgradeTasks_settled hE hinv t ht
  · have htail : t = .restartKubeAPIServer ∨ t = .rewriteClusterSecrets := by
      rcases mem_append.mp ht with ht | ht
      · split_ifs at ht <;> simp_all
      · split_ifs at ht <;> simp_all
    rcases htail with rfl | rfl
    · exact spec_restart hE hsteady fun ch _ _ hw => hw.restart ch
    · exact spec_of_exec hE nofun hsteady fun ch w m hw _ =>
        ends_finish (hw.rewrite ch) fun _ => hw.rewrite ch

end KubeOne.Encryption
