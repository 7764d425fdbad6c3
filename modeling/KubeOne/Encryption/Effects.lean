import KubeOne.Encryption.Tasks
import KubeOne.Process.Outline

/-! What the encryption tasks do to the files, the API servers and the stored
Secrets, and which parts of the world they leave alone. -/

namespace KubeOne.Encryption

open Process List LiveEncryption World

variable {H : Type*} {hosts : Hosts H} {ch : Choice H} {w w' : World H} {m m' : Memory H}
  {more : List (Task H)}

theorem finish_eq_done {ok : Bool} : (finish ok : Outcome (Task H)) = .done more ↔
    ok = true ∧ more = [] := by
  cases ok <;> simp [finish, eq_comm]

theorem finish_more (ok : Bool) (more : List (Task H)) (h : finish ok = .done more) : more = [] :=
  (finish_eq_done.mp h).2

theorem finish_ne_aborted (ok : Bool) : (finish ok : Outcome (Task H)) ≠ .aborted := by
  cases ok <;> simp [finish]

theorem ends_finish {F : Frame (World H) (Memory H) (Task H) (Choice H) (Request H)}
    {Pre Post : Assertion (World H) (Memory H)} {ok : Bool} (hpre : Pre w m)
    (hpost : ok = true → Post w m) :
    F.Ends Pre Post (w, m, finish ok) := by
  cases ok with
  | false => exact hpre
  | true => exact ⟨rfl, hpost rfl⟩

theorem fetch_done (h : (fetchEncryptionProvidersFile ch w m).2 = true) :
    ∃ leader c, m.leader = some leader ∧
      (w.nodes leader).etc m.getEncryptionProviderConfigName = some (.config c) ∧
      (fetchEncryptionProvidersFile ch w m).1 =
        { m with live := { m.live with config := some c } } := by
  unfold fetchEncryptionProvidersFile at h ⊢
  split at h
  · cases h
  · rename_i leader hleader
    split at h
    · rename_i c hbefore hetc
      exact ⟨leader, c, hleader, hetc, rfl⟩
    · cases h
    · cases h

theorem fetch_memory (ch : Choice H) (w : World H) (m : Memory H) :
    ∃ config, (fetchEncryptionProvidersFile ch w m).1 =
      { m with live := { m.live with config := config } } := by
  unfold fetchEncryptionProvidersFile
  split
  · exact ⟨m.live.config, rfl⟩
  · split
    · exact ⟨_, rfl⟩
    · exact ⟨_, rfl⟩
    · exact ⟨m.live.config, rfl⟩

theorem electLeader_mem {leader : H} (h : electLeader hosts ch w = some leader) :
    leader ∈ hosts.controlPlane := mem_of_find?_eq_some h

/-- What probes leave of a memory. -/
@[mk_iff] structure ProbesKept (hosts : Hosts H) (w : World H) (m m' : Memory H) : Prop where
  cluster : m'.cluster = m.cluster
  options : m'.options = m.options
  configuration : m'.configuration = m.configuration
  custom : m'.live.custom = true → (detectEncryptionProvidersEnabled hosts w).2 = true

/-- What probes that succeed have found. -/
structure ProbesFound (hosts : Hosts H) (ch : Choice H) (w : World H) (m : Memory H)
    (l : H) : Prop where
  elected : electLeader hosts ch w = some l
  leader : m.leader = some l
  enable : m.live.enable = (detectEncryptionProvidersEnabled hosts w).1
  file : (detectEncryptionProvidersEnabled hosts w).1 = true →
    m.live.custom = (detectEncryptionProvidersEnabled hosts w).2 ∧
      ∃ c, (w.nodes l).etc m.getEncryptionProviderConfigName = some (.config c) ∧
        m.live.config = some c

theorem investigateCluster_kept (hm : m.live = .unknown)
    (h : (investigateCluster hosts ch w m).1 = m') : ProbesKept hosts w m m' := by
  subst h
  rw [probesKept_iff]
  unfold investigateCluster
  split
  · simp [hm, unknown]
  · rename_i leader _
    split_ifs
    · split
      · rename_i custom hdetect
        obtain ⟨config, hconfig⟩ := fetch_memory ch w
          { m with leader := some leader, live := ⟨true, custom, none⟩ }
        simp [hconfig, hdetect]
      · simp [hm, unknown]
    · simp [hm, unknown]

theorem investigateCluster_done (hm : m.live = .unknown)
    (hok : (investigateCluster hosts ch w m).2 = true)
    (h : (investigateCluster hosts ch w m).1 = m') : ∃ l, ProbesFound hosts ch w m' l := by
  subst h
  unfold investigateCluster at hok ⊢
  split at hok
  · cases hok
  · rename_i leader hleader
    split_ifs at hok ⊢
    rcases hdetect : detectEncryptionProvidersEnabled hosts w with ⟨enabled, custom⟩
    rw [hdetect] at hok
    cases enabled with
    | true =>
      obtain ⟨l, c, hl, hetc, hmem⟩ := fetch_done hok
      obtain rfl : leader = l := by simpa using hl
      rw [hmem]
      exact ⟨leader, hleader, rfl, by simp [hdetect], fun _ => ⟨by simp [hdetect], c, hetc, rfl⟩⟩
    | false =>
      exact ⟨leader, hleader, rfl, by simp [hm, unknown, hdetect], by simp [hdetect]⟩

theorem runProbes_kept {o : Outcome (Task H)} (h : runProbes hosts ch w m = (w', m', o)) :
    w' = w ∧ o ≠ .aborted ∧ ProbesKept hosts w m m' := by
  unfold runProbes at h
  split_ifs at h
  · injection h with hw h
    injection h with hm ho
    obtain ⟨hcluster, hoptions, hfiles, hcustom⟩ :=
      investigateCluster_kept (m := { m with live := .unknown }) rfl hm
    exact ⟨hw.symm, ho ▸ finish_ne_aborted _, hcluster, hoptions, hfiles, hcustom⟩
  · cases h
    simp [unknown, probesKept_iff]

theorem runProbes_done (h : runProbes hosts ch w m = (w', m', .done more)) :
    more = [] ∧ ∃ leader, ProbesFound hosts ch w m' leader := by
  unfold runProbes at h
  split_ifs at h
  · injection h with _ h
    injection h with hm ho
    obtain ⟨hok, rfl⟩ := finish_eq_done.mp ho
    exact ⟨rfl, investigateCluster_done (m := { m with live := .unknown }) rfl
      (Bool.and_eq_true_iff.mp hok).1 hm⟩
  · simp at h

theorem detect_enabled : (detectEncryptionProvidersEnabled hosts w).1 = true ↔
    ∃ h ∈ hosts.controlPlane, (w.nodes h).apiServer.flag.isSome := by
  simp [detectEncryptionProvidersEnabled]

theorem detect_custom : (detectEncryptionProvidersEnabled hosts w).2 = true ↔
    ∃ h ∈ hosts.controlPlane, (w.nodes h).apiServer.flag = some .custom := by
  simp [detectEncryptionProvidersEnabled]

theorem write_of_reads {h : H} {name : String} (hr : w.reads h name = true) :
    ∃ b, w.backend h = some b ∧ w.write h name = w.store name b.writes := by
  unfold reads at hr
  split at hr
  · rename_i b old hb hold
    exact ⟨b, hb, by simp [write, hb, hold, hr]⟩
  · cases hr

variable {f : ProvidersFile} {d : Document} (r : Request H) (n : Node) (files : Directory)
  (name : ProvidersFile) (a : ProvidersFile → Upload) (s : Script)

section ControlPlane

variable [DecidableEq H]

theorem onControlPlane_node {f : H → Node → Node} {h : H} (hh : h ∈ hosts.controlPlane) :
    (onControlPlane hosts f w).nodes h = f h (w.nodes h) := by
  simp [onControlPlane, hh]

@[simp] theorem save_apiServer :
    (n.saveEncryptionProvidersConfig name).apiServer = n.apiServer := by
  unfold Node.saveEncryptionProvidersConfig
  split <;> rfl

theorem after_apiServer {f : Node → Node} (hf : (f n).apiServer = n.apiServer) :
    (n.after f s).apiServer = n.apiServer := by
  cases s <;> simp [Node.after, hf]

variable {files : Directory}

@[simp] theorem pushOnNode_apiServer (n : Node) :
    (pushOnNode files name a s n).apiServer = n.apiServer := by
  unfold pushOnNode
  split_ifs
  · exact after_apiServer (n.uploadTo files a) s (save_apiServer _ name)
  · rfl

variable {a : ProvidersFile → Upload}

theorem uploadTo_workDir (ha : uploaded files a = true) (hd : files f = some d) (n : Node) :
    (n.uploadTo files a).workDir f = some d := by
  have hwrote : a f = .wrote := by
    simp only [uploaded, all_cons, all_nil, Bool.and_true, Bool.and_eq_true,
      Bool.or_eq_true, Option.isNone_iff_eq_none, decide_eq_true_eq] at ha
    cases f with
    | default => simpa [hd] using ha.1
    | custom => simpa [hd] using ha.2
  simp [Node.uploadTo, hd, hwrote]

variable {name : ProvidersFile}

theorem save_etc {n : Node} (hd : n.workDir name = some d) :
    (n.saveEncryptionProvidersConfig name).etc = Function.update n.etc name (some d) := by
  simp [Node.saveEncryptionProvidersConfig, hd]

theorem pushOnNode_etc (hd : files name = some d)
    (a : ProvidersFile → Upload) (s : Script) (n : Node) :
    (pushOnNode files name a s n).etc = n.etc ∨
      (pushOnNode files name a s n).etc = Function.update n.etc name (some d) := by
  unfold pushOnNode
  split_ifs with ha
  · cases s with
    | lost => exact .inl rfl
    | broke => exact .inr (save_etc (uploadTo_workDir ha hd n))
    | fine => exact .inr (save_etc (uploadTo_workDir ha hd n))
  · exact .inl rfl

theorem pushOnNode_etc_fine (hd : files name = some d) (ha : uploaded files a = true)
    (n : Node) : (pushOnNode files name a .fine n).etc = Function.update n.etc name (some d) := by
  unfold pushOnNode
  rw [if_pos ha]
  exact save_etc (uploadTo_workDir ha hd n)

theorem pushOnNode_isSome {n : Node} (hf : (n.etc f).isSome = true) (files : Directory)
    (name : ProvidersFile) (a : ProvidersFile → Upload) (s : Script) :
    ((pushOnNode files name a s n).etc f).isSome = true := by
  have hsave : ∀ n' : Node, (n'.etc f).isSome = true →
      ((n'.saveEncryptionProvidersConfig name).etc f).isSome = true := by
    intro n' hn'
    unfold Node.saveEncryptionProvidersConfig
    split
    · by_cases hname : f = name
      · simp [hname]
      · simpa [hname] using hn'
    · exact hn'
  unfold pushOnNode
  split_ifs
  · cases s with
    | lost => exact hf
    | broke => exact hsave _ hf
    | fine => exact hsave _ hf
  · exact hf

@[simp] theorem boot_etc (flag : Option ProvidersFile) : (n.boot flag).etc = n.etc := rfl

@[simp] theorem boot_flag (flag : Option ProvidersFile) : (n.boot flag).apiServer.flag = flag := rfl

theorem boot_backend {n : Node} {c : EncryptionConfiguration} (hf : n.etc f = some (.config c)) :
    (n.boot (some f)).apiServer.backend = c.writes.map (.encrypted c) := by
  simp [Node.boot, hf]

def Node.rebooted (n : Node) : Node := n.boot n.apiServer.flag

theorem Node.rebooted_rebooted : n.rebooted.rebooted = n.rebooted := rfl

/-- Restarts leave the stored data alone. Each node is unchanged or restarted, and after a
success every node is restarted but those with a quiet log. -/
theorem restartAll_spec (ch : Choice H) (hs : List H) (w : World H) :
    (restartAll ch hs w).1.secrets = w.secrets ∧
    (restartAll ch hs w).1.kubeadmConfig = w.kubeadmConfig ∧
    (∀ h, (restartAll ch hs w).1.nodes h = w.nodes h ∨
      (restartAll ch hs w).1.nodes h = (w.nodes h).rebooted) ∧
    ((restartAll ch hs w).2 = true → ∀ h ∈ hs, ch.restart h = .quiet ∨
      (restartAll ch hs w).1.nodes h = (w.nodes h).rebooted) := by
  induction hs generalizing w with
  | nil => simp [restartAll]
  | cons h hs ih =>
    have hset : ∀ x, (w.setNode h (w.nodes h).rebooted).nodes x = w.nodes x ∨
        (w.setNode h (w.nodes h).rebooted).nodes x = (w.nodes x).rebooted := by
      intro x
      by_cases hx : x = h
      · exact .inr (by simp [setNode, hx])
      · exact .inl (by simp [setNode, hx])
    unfold restartAll
    split
    · exact ⟨rfl, rfl, fun x => .inl rfl, by simp⟩
    · exact ⟨rfl, rfl, hset, by simp⟩
    · rename_i hquiet
      obtain ⟨hsecrets, hconfig, hnodes, hdone⟩ := ih w
      refine ⟨hsecrets, hconfig, hnodes, fun hok x hx => ?_⟩
      rcases mem_cons.mp hx with rfl | hx
      · exact .inl hquiet
      · exact hdone hok x hx
    · obtain ⟨hsecrets, hconfig, hnodes, hdone⟩ := ih (w.setNode h (w.nodes h).rebooted)
      have hreboot : ∀ x, (w.setNode h (w.nodes h).rebooted).nodes x = (w.nodes x).rebooted →
          (restartAll ch hs (w.setNode h (w.nodes h).rebooted)).1.nodes x =
            (w.nodes x).rebooted := by
        intro x hx
        rcases hnodes x with hsame | hagain
        · rw [hsame, hx]
        · rw [hagain, hx, Node.rebooted_rebooted]
      refine ⟨hsecrets, hconfig, fun x => ?_, fun hok x hx => ?_⟩
      · rcases hset x with hsame | hx
        · rw [← hsame]
          exact hnodes x
        · exact .inr (hreboot x hx)
      · rcases mem_cons.mp hx with rfl | hx
        · exact .inr (hreboot x (by simp [setNode]))
        · rcases hdone hok x hx with hquiet | hx
          · exact .inl hquiet
          · rcases hset x with hsame | hset
            · rw [hsame] at hx
              exact .inr hx
            · exact .inr (hreboot x hset)

@[simp] theorem restartAll_flag (ch : Choice H) (hs : List H) (w : World H) (h : H) :
    ((restartAll ch hs w).1.nodes h).apiServer.flag = (w.nodes h).apiServer.flag := by
  rcases (restartAll_spec ch hs w).2.2.1 h with heq | heq <;> simp [heq, Node.rebooted]

@[simp] theorem restartAll_etc (ch : Choice H) (hs : List H) (w : World H) (h : H) :
    ((restartAll ch hs w).1.nodes h).etc = (w.nodes h).etc := by
  rcases (restartAll_spec ch hs w).2.2.1 h with heq | heq <;> simp [heq, Node.rebooted]

theorem readsAt_some {name : String} {h : H} (hr : readsAt hosts w name (some h) = true) :
    h ∈ hosts.controlPlane ∧ w.reads h name = true := by
  simpa [readsAt] using hr

variable {P : Seal → Prop}

/-- Every running API server of the control plane writes seals with the property. -/
def World.Writes (hosts : Hosts H) (P : Seal → Prop) (w : World H) : Prop :=
  ∀ h ∈ hosts.controlPlane, ∀ b ∈ w.backend h, P b.writes

def World.Stored (P : Seal → Prop) (w : World H) : Prop := ∀ s ∈ w.secrets, P s.stored

theorem rewriteAll_nodes (ch : Choice H) (names : List String) (w : World H) :
    (rewriteAll hosts ch names w).1.nodes = w.nodes ∧
      (rewriteAll hosts ch names w).1.kubeadmConfig = w.kubeadmConfig := by
  induction names generalizing w with
  | nil => exact ⟨rfl, rfl⟩
  | cons name names ih =>
    unfold rewriteAll
    split
    · split_ifs
      · simpa using ih (w.write _ name)
      · exact ⟨rfl, rfl⟩
    · exact ⟨rfl, rfl⟩

theorem rewriteAll_stored (hwrites : w.Writes hosts P) (hstored : w.Stored P)
    (ch : Choice H) (names : List String) : (rewriteAll hosts ch names w).1.Stored P := by
  induction names generalizing w with
  | nil => exact hstored
  | cons name names ih =>
    unfold rewriteAll
    split
    · rename_i h _
      split_ifs with hr
      · have hmem := (readsAt_some (Bool.and_eq_true_iff.mp hr).2).1
        refine ih (fun x hx b hb => hwrites x hx b ?_)
          (write_secrets (hwrites h hmem) hstored name)
        simpa [backend] using hb
      · exact hstored
    · exact hstored

theorem rewriteAll_done (hwrites : w.Writes hosts P) {names : List String}
    (hrest : ∀ s ∈ w.secrets, s.name ∈ names ∨ P s.stored)
    (hok : (rewriteAll hosts ch names w).2 = true) : (rewriteAll hosts ch names w).1.Stored P := by
  induction names generalizing w with
  | nil =>
    intro s hs
    simpa using hrest s hs
  | cons name names ih =>
    unfold rewriteAll at hok ⊢
    split at hok
    · rename_i h hupdater
      split_ifs at hok with hr
      rw [if_pos hr]
      obtain ⟨hmem, hreads⟩ := readsAt_some (Bool.and_eq_true_iff.mp hr).2
      obtain ⟨b, hb, hwrite⟩ := write_of_reads hreads
      refine ih (fun x hx b hb => hwrites x hx b (by simpa [backend] using hb)) ?_ hok
      intro s hs
      rw [hwrite] at hs
      obtain ⟨old, hold, rfl⟩ := mem_map.mp hs
      split_ifs with hname
      · exact .inr (hwrites h hmem b hb)
      · rcases hrest old hold with hin | hP
        · exact .inl ((mem_cons.mp hin).resolve_left hname)
        · exact .inr hP
    · cases hok

@[simp] theorem rewriteClusterSecrets_nodes (hosts : Hosts H) (ch : Choice H) (w : World H) :
    (rewriteClusterSecrets hosts ch w).1.nodes = w.nodes ∧
      (rewriteClusterSecrets hosts ch w).1.kubeadmConfig = w.kubeadmConfig := by
  unfold rewriteClusterSecrets
  split_ifs
  · exact rewriteAll_nodes ch _ w
  · exact ⟨rfl, rfl⟩

theorem rewriteClusterSecrets_stored (hwrites : w.Writes hosts P) (hstored : w.Stored P)
    (ch : Choice H) : (rewriteClusterSecrets hosts ch w).1.Stored P := by
  unfold rewriteClusterSecrets
  split_ifs
  · exact rewriteAll_stored hwrites hstored ch _
  · exact hstored

theorem rewriteClusterSecrets_done (hwrites : w.Writes hosts P)
    (hok : (rewriteClusterSecrets hosts ch w).2 = true) :
    (rewriteClusterSecrets hosts ch w).1.Stored P := by
  unfold rewriteClusterSecrets at hok ⊢
  split_ifs at hok ⊢
  exact rewriteAll_done hwrites (fun s hs => .inl (mem_map_of_mem hs)) hok

variable {main : List (Task H)}

@[simp] theorem env_nodes (w : World H) : ((engineOf hosts main).env r w).nodes = w.nodes := by
  simp only [engineOf]
  split_ifs <;> simp

@[simp] theorem env_kubeadmConfig (w : World H) :
    ((engineOf hosts main).env r w).kubeadmConfig = w.kubeadmConfig := by
  simp only [engineOf]
  split_ifs <;> simp

theorem env_stored (hwrites : w.Writes hosts P) (hstored : w.Stored P) (r : Request H) :
    ((engineOf hosts main).env r w).Stored P := by
  simp only [engineOf]
  split_ifs with hmem
  · exact write_secrets (hwrites r.host hmem) hstored r.name
  · exact hstored

/-- The tasks are those of a rotation, or of a cluster that is healthy. -/
def Decided (hosts : Hosts H) (ch : Choice H) (m : Memory H) (more : List (Task H)) : Prop :=
  if m.options.rotateEncryptionKey then m.cluster.custom = none ∧ more = withRotateKey []
  else runApplyUpgradeIfNeeded hosts ch m = .ok more

/-- The tasks of a run that upgrades the cluster. -/
theorem runApplyUpgradeIfNeeded_ok {more : List (Task H)}
    (hupgrade : ch.upgradeNeeded = true ∨ m.options.forceUpgrade = true)
    (hok : runApplyUpgradeIfNeeded hosts ch m = .ok more) :
    ∃ updated, customEncryptionConfigUpdated m = .ok updated ∧
      more =
        let t := if ch.hasExtraEtcdMembers then withRemoveExtraEtcdMembers [] else []
        let t :=
          if m.shouldDisableEncryption then withDisableEncryptionProviders t m.live.custom else t
        let t := withUpgrade t (hosts.controlPlane.filter (some · ≠ m.leader)) hosts.staticWorkers
        let t := if m.shouldEnableEncryption then withRewriteSecrets t else t
        if updated then withCustomEncryptionConfigUpdated t else t := by
  unfold runApplyUpgradeIfNeeded Cmd.Lists.runApplyUpgradeIfNeeded at hok
  cases hsupported : ch.supported with
  | false => simp [findings, hsupported] at hok
  | true =>
    have hneeded : (ch.upgradeNeeded || m.options.flags.forceUpgrade) = true := by
      simpa [Options.flags] using hupgrade
    simp only [findings, hsupported, if_true, hneeded, Cmd.Lists.upgradeTasks] at hok
    cases hupdated : customEncryptionConfigUpdated m with
    | error e => simp [hupdated] at hok
    | ok updated =>
      rw [hupdated] at hok
      exact ⟨updated, rfl, (Except.ok.inj hok).symm⟩

theorem runApplyInstall_ok {more : List (Task H)}
    (hok : (lists hosts m).runApplyInstall m.options.flags (findings ch m) = .ok more) :
    more = [.install] :=
  (Except.ok.inj hok).symm

theorem runApply_done {more : List (Task H)} (hx : runApply hosts ch m = .done more) :
    more = [.install] ∨ Decided hosts ch m more := by
  unfold runApply at hx
  split at hx
  case h_2 => cases hx
  rename_i tasks hok
  cases hx
  unfold Cmd.Lists.reconcile at hok
  split_ifs at hok with _ _ hrotate _ hcustom _ _ hmissing hbroken
  · right
    unfold Cmd.Lists.runApplyRotateKey at hok
    split_ifs at hok
    rw [Decided, if_pos (show m.options.rotateEncryptionKey = true from hrotate)]
    exact ⟨by simpa [findings] using hcustom, (Except.ok.inj hok).symm⟩
  · right
    rw [Decided, if_neg (show ¬ m.options.rotateEncryptionKey = true from hrotate)]
    exact hok
  · exact .inl (runApplyInstall_ok hok)
  · exact absurd (show (!ch.missing) = true by simpa [findings] using hmissing) hbroken
  · exact .inl (runApplyInstall_ok hok)

variable {F : Frame (World H) (Memory H) (Task H) (Choice H) (Request H)}
  {Pre Post : Assertion (World H) (Memory H)} {t : Task H}

variable (hE : F.engine = engineOf hosts main)

include hE

theorem spec_of_exec (ht : t ≠ .saveCABundle) (hpre : F.Steady Pre)
    (hx : ∀ ch w m, Pre w m → F.guard.attempt t ch w m → F.Ends Pre Post (exec hosts t ch w m)) :
    F.Spec Pre t Post := by
  refine ⟨hpre, fun w m _ hfalse => ?_, fun ch w m hw hg => ?_⟩
  · cases t <;> simp_all [engineOf]
  · rw [hE]
    exact hx ch w m hw hg

theorem spec_operation (hpre : F.Steady Pre) (op : Operation) : F.Spec Pre (.operation op) Pre :=
  spec_of_exec hE nofun hpre fun _ _ _ hw _ => ends_finish hw fun _ => hw

/-- The end of a list that goes on with the tasks of an apply. -/
theorem valid_runApply (hpre : F.Steady Pre)
    (hdone : ∀ ch w m more, Pre w m → F.guard.attempt .runApply ch w m →
      Decided hosts ch m more → ∃ R : Assertion (World H) (Memory H),
        R w m ∧ F.Valid R more Post) : F.Valid Pre [.runApply] Post := by
  refine .task hpre (by simp [hE, engineOf]) ?_ ?_ ?_ <;> intro ch w m w' m' <;>
    simp only [hE, engineOf, exec, Prod.mk.injEq]
  · rintro more hw - hg ⟨rfl, rfl, hx⟩
    rw [append_nil]
    rcases runApply_done hx with rfl | hdecided
    · -- the process ends here
      have hinstall : F.Spec Pre .install fun _ _ => False :=
        spec_of_exec hE nofun hpre fun _ w m hw _ => hpre.invariant w m hw
      exact Frame.Valid.weaken (.cons hinstall fun _ _ _ => False.elim)
        (by rintro _ _ ⟨rfl, rfl⟩; exact hw)
    · obtain ⟨R, hR, hmore⟩ := hdone ch w m more hw hg hdecided
      exact hmore.weaken (by rintro _ _ ⟨rfl, rfl⟩; exact hR)
  · rintro hw - ⟨rfl, rfl, -⟩
    exact hw
  · rintro hw - ⟨rfl, -⟩
    exact hpre.invariant w m hw

/-- Probes leave the world as it is. -/
theorem spec_probes (hpre : F.Steady Pre)
    (hkept : ∀ w m m', ProbesKept hosts w m m' → Pre w m → Pre w m')
    (hfound : ∀ ch w m m' l, ProbesKept hosts w m m' → ProbesFound hosts ch w m' l → Pre w m →
      Pre w m' → F.guard.attempt .runProbes ch w m → Post w m') : F.Spec Pre .runProbes Post := by
  refine spec_of_exec hE nofun hpre fun ch w m hw hg => ?_
  rcases hx : exec hosts .runProbes ch w m with ⟨w', m', o⟩
  obtain ⟨rfl, ho, hm'⟩ := runProbes_kept hx
  have hw' := hkept w' m m' hm' hw
  cases o with
  | done more =>
    obtain ⟨rfl, l, hl⟩ := runProbes_done hx
    exact ⟨rfl, hfound ch w' m m' l hm' hl hw hw' hg⟩
  | failed => exact hw'
  | aborted => exact absurd rfl ho

theorem spec_runProbes_inert {W : World H → Prop} (hsteady : F.Steady fun w _ => W w) :
    F.Spec (fun w _ => W w) .runProbes fun w _ => W w :=
  spec_probes hE hsteady (fun _ _ _ _ hw => hw) fun _ _ _ _ _ _ _ hw _ _ => hw

end ControlPlane

end KubeOne.Encryption
