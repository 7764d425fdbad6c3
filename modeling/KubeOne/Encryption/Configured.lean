import KubeOne.Encryption.Effects

/-! Clusters in which every node holds a configuration file that its API server runs with: which
configurations the files have, which seals the API servers write, which seals the Secrets are
stored with, and how the tasks change them. -/

namespace KubeOne.Encryption

open Process

variable {H : Type*}

/-- Every node holds a configuration in `files`, every API server has the flag for it and
writes with a seal in `heads`, and every Secret has a seal in `stored`. -/
structure Configured (hosts : Hosts H) (f : ProvidersFile)
    (files : EncryptionConfiguration → Prop) (heads stored : Seal → Prop) (w : World H) :
    Prop where
  flag : ∀ h ∈ hosts.controlPlane, (w.nodes h).apiServer.flag = some f
  file : ∀ h ∈ hosts.controlPlane, ∃ c, (w.nodes h).etc f = some (.config c) ∧ files c
  head : ∀ h ∈ hosts.controlPlane, ∃ b, w.backend h = some b ∧ heads b.writes
  secret : w.Stored stored

/-- The API server writes with the first provider of the file. -/
def Node.upToDate (n : Node) (f : ProvidersFile) : Bool :=
  match n.apiServer.backend, n.etc f with
  | some b, some (.config c) => c.writes = some b.writes
  | _, _ => true

theorem Node.writes_of_upToDate {n : Node} {f : ProvidersFile} {b : Backend}
    {c : EncryptionConfiguration} (h : n.upToDate f = true) (hb : n.apiServer.backend = some b)
    (hc : n.etc f = some (.config c)) : c.writes = some b.writes := by
  simpa [Node.upToDate, hb, hc] using h

namespace Configured

variable {hosts : Hosts H} {f : ProvidersFile} {files files' : EncryptionConfiguration → Prop}
  {heads heads' stored stored' first : Seal → Prop} {w : World H} {m : Memory H} {ch : Choice H}
  {config : EncryptionConfiguration}

variable (hw : Configured hosts f files heads stored w)

include hw

theorem mono (hf : ∀ c, files c → files' c)
    (hh : ∀ s, heads s → heads' s) (hs : ∀ s, stored s → stored' s) :
    Configured hosts f files' heads' stored' w := by
  refine ⟨hw.flag, fun h hmem => ?_, fun h hmem => ?_, fun s hmem => hs _ (hw.secret s hmem)⟩
  · obtain ⟨c, hetc, hc⟩ := hw.file h hmem
    exact ⟨c, hetc, hf c hc⟩
  · obtain ⟨b, hb, hwrites⟩ := hw.head h hmem
    exact ⟨b, hb, hh _ hwrites⟩

theorem fileOpens (hopens : ∀ c s, files c → stored s → c.opens s = true) {h : H}
    (hmem : h ∈ hosts.controlPlane) {s : Secret} (hs : s ∈ w.secrets) :
    (w.nodes h).fileOpens f s.stored = true := by
  obtain ⟨c, hetc, hc⟩ := hw.file h hmem
  unfold Node.fileOpens
  rw [hetc]
  exact hopens c s.stored hc (hw.secret s hs)

theorem writes (himp : ∀ s, heads s → stored' s) : w.Writes hosts stored' := by
  intro h hmem b hb
  obtain ⟨b', hb', hwrites⟩ := hw.head h hmem
  obtain rfl : b' = b := Option.some.inj (hb'.symm.trans hb)
  exact himp _ hwrites

theorem rebooted (hfirst : ∀ c, files c → ∃ s, c.writes = some s ∧ first s) {h : H}
    (hmem : h ∈ hosts.controlPlane) :
    ∃ b, (w.nodes h).rebooted.apiServer.backend = some b ∧ first b.writes := by
  obtain ⟨c, hetc, hc⟩ := hw.file h hmem
  obtain ⟨s, hwrites, hs⟩ := hfirst c hc
  refine ⟨.encrypted c s, ?_, hs⟩
  rw [Node.rebooted, hw.flag h hmem, boot_backend hetc, hwrites]
  rfl

variable [DecidableEq H]

theorem env (himp : ∀ s, heads s → stored s) {main : List (Task H)} (r : Request H) :
    Configured hosts f files heads stored ((engineOf hosts main).env r w) := by
  refine ⟨?_, ?_, ?_, env_stored (hw.writes himp) hw.secret r⟩
  · simpa using hw.flag
  · simpa using hw.file
  · simpa [World.backend] using hw.head

theorem push (hname : m.getEncryptionProviderConfigName = f)
    (hconf : m.configuration f = some (.config config))
    {F : Frame (World H) (Memory H) (Task H) (Choice H) (Request H)}
    {Pre Post : Assertion (World H) (Memory H)}
    (hpre : ∀ w', Configured hosts f (fun c => files c ∨ c = config) heads stored w' → Pre w' m)
    (hpost : ∀ w', Configured hosts f (· = config) heads stored w' → Post w' m) :
    F.Ends Pre Post (pushEncryptionConfiguration hosts ch w m true) := by
  have hkept : ∀ P : EncryptionConfiguration → Prop, (∀ h ∈ hosts.controlPlane, ∃ c,
      (pushOnNode m.configuration f (ch.upload h) (ch.script h) (w.nodes h)).etc f =
        some (.config c) ∧ P c) →
      Configured hosts f P heads stored (onControlPlane hosts (fun h n =>
        pushOnNode m.configuration f (ch.upload h) (ch.script h) n) w) := by
    intro P hP
    refine ⟨fun h hmem => ?_, fun h hmem => ?_, fun h hmem => ?_, hw.secret⟩
    · rw [onControlPlane_node hmem, pushOnNode_apiServer]
      exact hw.flag h hmem
    · rw [onControlPlane_node hmem]
      exact hP h hmem
    · rw [World.backend, onControlPlane_node hmem, pushOnNode_apiServer]
      exact hw.head h hmem
  unfold pushEncryptionConfiguration
  rw [hname]
  refine ends_finish (hpre _ (hkept _ fun h hmem => ?_))
    fun hok => hpost _ (hkept _ fun h hmem => ?_)
  · obtain ⟨c, hetc, hc⟩ := hw.file h hmem
    rcases pushOnNode_etc hconf (ch.upload h) (ch.script h) (w.nodes h) with hsame | hnew
    · exact ⟨c, by rw [hsame, hetc], .inl hc⟩
    · exact ⟨config, by rw [hnew, Function.update_self], .inr rfl⟩
  · have hall : ∀ h ∈ hosts.controlPlane,
        uploaded m.configuration (ch.upload h) = true ∧ ch.script h = .fine := by simpa using hok
    obtain ⟨hup, hfine⟩ := hall h hmem
    exact ⟨config, by rw [hfine, pushOnNode_etc_fine hconf hup, Function.update_self], rfl⟩

theorem restart (hfirst : ∀ c, files c → ∃ s, c.writes = some s ∧ first s) (ch : Choice H) :
    Configured hosts f files (fun s => heads s ∨ first s) stored
      (restartAll ch hosts.controlPlane w).1 := by
  obtain ⟨hsecrets, -, hnodes, -⟩ := restartAll_spec ch hosts.controlPlane w
  refine ⟨by simpa using hw.flag, by simpa using hw.file, fun h hmem => ?_, ?_⟩
  · rw [World.backend]
    rcases hnodes h with hsame | hboot
    · rw [hsame]
      obtain ⟨b, hb, hwrites⟩ := hw.head h hmem
      exact ⟨b, hb, .inl hwrites⟩
    · rw [hboot]
      obtain ⟨b, hb, hwrites⟩ := hw.rebooted hfirst hmem
      exact ⟨b, hb, .inr hwrites⟩
  · rw [World.Stored, hsecrets]
    exact hw.secret

theorem restart_done (hfirst : ∀ c, files c → ∃ s, c.writes = some s ∧ first s)
    (hquiet : ∀ h ∈ hosts.controlPlane, ch.restart h = .quiet → (w.nodes h).upToDate f = true)
    (hok : (restartAll ch hosts.controlPlane w).2 = true) :
    Configured hosts f files first stored (restartAll ch hosts.controlPlane w).1 := by
  obtain ⟨-, -, hnodes, hdone⟩ := restartAll_spec ch hosts.controlPlane w
  have hany := hw.restart hfirst ch
  refine ⟨hany.flag, hany.file, fun h hmem => ?_, hany.secret⟩
  rw [World.backend]
  by_cases hboot : (restartAll ch hosts.controlPlane w).1.nodes h = (w.nodes h).rebooted
  · rw [hboot]
    exact hw.rebooted hfirst hmem
  · rw [(hnodes h).resolve_right hboot]
    obtain ⟨b, hb, -⟩ := hw.head h hmem
    obtain ⟨c, hetc, hc⟩ := hw.file h hmem
    obtain ⟨s, hwrites, hs⟩ := hfirst c hc
    have hsame := Node.writes_of_upToDate
      (hquiet h hmem ((hdone hok h hmem).resolve_right hboot)) hb hetc
    obtain rfl : s = b.writes := Option.some.inj (hwrites.symm.trans hsame)
    exact ⟨b, hb, hs⟩

theorem rewrite (himp : ∀ s, heads s → stored s) (ch : Choice H) :
    Configured hosts f files heads stored (rewriteClusterSecrets hosts ch w).1 := by
  refine ⟨?_, ?_, ?_, rewriteClusterSecrets_stored (hw.writes himp) hw.secret ch⟩
  · simpa using hw.flag
  · simpa using hw.file
  · simpa [World.backend] using hw.head

theorem rewrite_done
    (himp : ∀ s, heads s → stored s) (hok : (rewriteClusterSecrets hosts ch w).2 = true) :
    Configured hosts f files heads heads (rewriteClusterSecrets hosts ch w).1 := by
  have hany := hw.rewrite himp ch
  exact ⟨hany.flag, hany.file, hany.head, rewriteClusterSecrets_done (hw.writes fun _ h => h) hok⟩

end Configured

section Probes

variable {hosts : Hosts H} {m : Memory H}

/-- The memory once the probes have succeeded, for a manifest that enables no custom
configuration. -/
structure Prepared (hosts : Hosts H) (m : Memory H) : Prop where
  cluster : (m.cluster.enabled && m.cluster.custom.isSome) = false
  live : m.live.custom = false
  leader : ∃ l ∈ hosts.controlPlane, m.leader = some l

theorem Prepared.name (hm : Prepared hosts m) : m.getEncryptionProviderConfigName = .default := by
  have hcluster := hm.cluster
  simp only [Memory.getEncryptionProviderConfigName, Memory.shouldEnableEncryption, hm.live]
  cases henabled : m.cluster.enabled <;> simp_all

theorem Prepared.addFile (hm : Prepared hosts m) (config : Option EncryptionConfiguration)
    (f : ProvidersFile) (d : Document) :
    Prepared hosts ({ m with live := { m.live with config := config } }.addFile f d) :=
  ⟨hm.cluster, hm.live, hm.leader⟩

variable [DecidableEq H] {main : List (Task H)} {W : World H → Prop} {M : Memory H → Prop}
  {F : Frame (World H) (Memory H) (Task H) (Choice H) (Request H)}

theorem spec_runProbes (hE : F.engine = engineOf hosts main)
    (hsteady : F.Steady fun w m => W w ∧ M m)
    (hflag : ∀ w, W w → ∀ h ∈ hosts.controlPlane, (w.nodes h).apiServer.flag = some .default)
    (hM : ∀ m m' : Memory H, m'.cluster = m.cluster → m'.options = m.options → M m → M m') :
    F.Spec (fun w m => W w ∧ M m) .runProbes fun w m => W w ∧ M m ∧ m.live.enable = true ∧
      m.live.custom = false ∧ ∃ l ∈ hosts.controlPlane, m.leader = some l := by
  refine spec_probes hE hsteady (fun w m m' hk hw => ⟨hw.1, hM m m' hk.cluster hk.options hw.2⟩)
    fun ch w m m' l hk hl hw hw' _ => ?_
  have hmem := electLeader_mem hl.elected
  refine ⟨hw.1, hw'.2, ?_, ?_, l, hmem, hl.leader⟩
  · rw [hl.enable, detect_enabled]
    exact ⟨l, hmem, by rw [hflag w hw.1 l hmem]; rfl⟩
  · by_contra hlive
    obtain ⟨h, hmem, hset⟩ := detect_custom.mp (hk.custom (by simpa using hlive))
    rw [hflag w hw.1 h hmem] at hset
    cases hset

theorem spec_fetchEncryptionProvidersFile (hE : F.engine = engineOf hosts main)
    (hsteady : F.Steady fun w m => W w ∧ Prepared hosts m) :
    F.Spec (fun w m => W w ∧ Prepared hosts m) .fetchEncryptionProvidersFile fun w m =>
      W w ∧ Prepared hosts m ∧ ∃ l ∈ hosts.controlPlane, ∃ c,
        (w.nodes l).etc .default = some (.config c) ∧ m.live.config = some c := by
  refine spec_of_exec hE nofun hsteady fun ch w m ⟨hw, hm⟩ _ => ?_
  have hkept : Prepared hosts (fetchEncryptionProvidersFile ch w m).1 := by
    obtain ⟨config, hmem⟩ := fetch_memory ch w m
    rw [hmem]
    exact ⟨hm.cluster, hm.live, hm.leader⟩
  refine ends_finish ⟨hw, hkept⟩ fun hok => ⟨hw, hkept, ?_⟩
  obtain ⟨leader, c, hleader, hetc, hmem⟩ := fetch_done hok
  obtain ⟨l, hl, hlm⟩ := hm.leader
  obtain rfl : l = leader := Option.some.inj (hlm.symm.trans hleader)
  rw [hm.name] at hetc
  exact ⟨l, hl, c, hetc, by rw [hmem]⟩

end Probes

end KubeOne.Encryption
