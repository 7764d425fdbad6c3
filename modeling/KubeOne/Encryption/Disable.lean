import KubeOne.Encryption.Rotation

/-! Disabling encryption. For a generated configuration the keys are made to decrypt only, the
Secrets rewritten and then the file removed; for a custom one the removal comes first. The API
servers keep the flag for the file until the upgrade that follows, whose probes look for the file.
-/

namespace KubeOne.Encryption

open Process Frame.Valid

variable {H : Type*}

def liveFile (custom : Bool) : ProvidersFile := if custom then .custom else .default

/-- The file on every control plane node decrypts every Secret that is not in plain text. -/
def Recoverable (hosts : Hosts H) (f : ProvidersFile) (w : World H) : Prop :=
  ∀ h ∈ hosts.controlPlane, ∀ s ∈ w.secrets, s.stored ≠ .plain →
    (w.nodes h).fileOpens f s.stored = true

instance (hosts : Hosts H) (f : ProvidersFile) (w : World H) : Decidable (Recoverable hosts f w) :=
  inferInstanceAs (Decidable (∀ h ∈ hosts.controlPlane, ∀ s ∈ w.secrets, _ → _))

/-- No Secret is stored encrypted, and no API server encrypts one. -/
def Unencrypted (hosts : Hosts H) (w : World H) : Prop :=
  w.Stored (· = .plain) ∧ w.Writes hosts (· = .plain)

instance (hosts : Hosts H) (w : World H) : Decidable (Unencrypted hosts w) :=
  inferInstanceAs
    (Decidable ((∀ s ∈ w.secrets, _) ∧ ∀ h ∈ hosts.controlPlane, ∀ b ∈ w.backend h, _))

/-- The manifest disables encryption. The restart for a generated configuration reaches every
API server that still encrypts, and a run for a custom configuration starts when nothing is
encrypted. -/
def disableGuard (hosts : Hosts H) (custom : Bool) :
    Guard (World H) (Memory H) (Task H) (Choice H) where
  start w m := m.cluster.enabled = false ∧ (custom = true → Unencrypted hosts w)
  attempt t ch w _ :=
    match t with
    | .restartKubeAPIServer => custom = false → ∀ h ∈ hosts.controlPlane,
        ch.restart h = .quiet → (w.nodes h).upToDate .default = true
    | _ => True

instance (hosts : Hosts H) (custom : Bool) (w : World H) (m : Memory H) :
    Decidable ((disableGuard hosts custom).start w m) :=
  inferInstanceAs (Decidable (_ ∧ _))

instance (hosts : Hosts H) (custom : Bool) (t : Task H) (ch : Choice H) (w : World H)
    (m : Memory H) : Decidable ((disableGuard hosts custom).attempt t ch w m) := by
  apply Task.casesOn
    (motive := fun t => Decidable ((disableGuard hosts custom).attempt t ch w m)) t
    <;> intros <;> unfold disableGuard <;> infer_instance

variable {hosts : Hosts H} {w : World H} {keys : List Key} {config : EncryptionConfiguration}

theorem Unencrypted.recoverable (hw : Unencrypted hosts w) (f : ProvidersFile) :
    Recoverable hosts f w := by
  intro h _ s hs hsealed
  exact absurd (hw.1 s hs) hsealed

variable {heads stored : Seal → Prop}

theorem Configured.recoverable {f : ProvidersFile} {files : EncryptionConfiguration → Prop}
    (hw : Configured hosts f files heads stored w)
    (hopens : ∀ c s, files c → stored s → c.opens s = true) : Recoverable hosts f w :=
  fun _ hmem _ hs _ => hw.fileOpens hopens hmem hs

theorem provider_opens_of_writes {p : ProviderConfiguration} {s : Seal} (h : p.writes = some s) :
    p.opens s = true := by
  cases p with
  | aescbc keys | aesgcm keys | secretbox keys =>
    obtain ⟨key, hkey, rfl⟩ := Option.map_eq_some_iff.mp h
    simpa [ProviderConfiguration.opens] using List.mem_of_head? hkey
  | kms name endpoint =>
    cases h
    simp [ProviderConfiguration.opens]
  | identity =>
    cases h
    rfl

theorem opens_of_writes {s : Seal} (h : config.writes = some s) : config.opens s = true := by
  unfold EncryptionConfiguration.writes at h
  unfold EncryptionConfiguration.opens
  split at h
  · cases h
    rfl
  · rename_i providers _
    obtain ⟨p, hp, hwrites⟩ := Option.bind_eq_some_iff.mp h
    exact List.any_eq_true.mpr ⟨p, List.mem_of_head? hp, provider_opens_of_writes hwrites⟩

variable [DecidableEq H] {main : List (Task H)}

theorem Unencrypted.env (hw : Unencrypted hosts w) (r : Request H) :
    Unencrypted hosts ((engineOf hosts main).env r w) := by
  refine ⟨env_stored hw.2 hw.1 r, ?_⟩
  intro h hmem b hb
  exact hw.2 h hmem b (by simpa [World.backend] using hb)

theorem Unencrypted.rewrite (hw : Unencrypted hosts w) (ch : Choice H) :
    Unencrypted hosts (rewriteClusterSecrets hosts ch w).1 := by
  refine ⟨rewriteClusterSecrets_stored hw.2 hw.1 ch, ?_⟩
  intro h hmem b hb
  exact hw.2 h hmem b (by simpa [World.backend] using hb)

theorem remove_node (ch : Choice H) (w : World H) {h : H} (hmem : h ∈ hosts.controlPlane) :
    ((removeEncryptionProviderFile hosts ch w).1.nodes h).apiServer = (w.nodes h).apiServer ∧
      (((removeEncryptionProviderFile hosts ch w).1.nodes h).etc = (w.nodes h).etc ∨
        ((removeEncryptionProviderFile hosts ch w).1.nodes h).etc = fun _ => none) := by
  unfold removeEncryptionProviderFile
  rw [onControlPlane_node hmem]
  cases ch.script h with
  | lost => exact ⟨rfl, .inl rfl⟩
  | broke => exact ⟨rfl, .inr rfl⟩
  | fine => exact ⟨rfl, .inr rfl⟩

variable {ch : Choice H}

theorem remove_done (hok : (removeEncryptionProviderFile hosts ch w).2 = true)
    {h : H} (hmem : h ∈ hosts.controlPlane) :
    ((removeEncryptionProviderFile hosts ch w).1.nodes h).etc = fun _ => none := by
  have hfine : ch.script h = .fine := by
    simpa using List.all_eq_true.mp hok h hmem
  unfold removeEncryptionProviderFile
  rw [onControlPlane_node hmem, hfine]
  rfl

theorem Unencrypted.remove (hw : Unencrypted hosts w) (ch : Choice H) :
    Unencrypted hosts (removeEncryptionProviderFile hosts ch w).1 := by
  refine ⟨hw.1, ?_⟩
  intro h hmem b hb
  rw [World.backend, (remove_node ch w hmem).1] at hb
  exact hw.2 h hmem b hb

/-! ### A generated configuration -/

section Generated

def Opened (keys : List Key) (s : Seal) : Prop := (generated keys).opens s = true

theorem opened_plain (keys : List Key) : Opened keys .plain := by
  simp [Opened]

/-- The keys are on every node, to write or only to decrypt. -/
abbrev KeysPresent (hosts : Hosts H) (keys : List Key) : World H → Prop :=
  Configured hosts .default (fun c => c = generated keys ∨ c = decryptOnly keys) (Opened keys)
    (Opened keys)

/-- Nothing is encrypted, and the files that are left only decrypt. -/
structure Leaving (hosts : Hosts H) (keys : List Key) (w : World H) : Prop where
  flag : ∀ h ∈ hosts.controlPlane, (w.nodes h).apiServer.flag = some .default
  file : ∀ h ∈ hosts.controlPlane, (w.nodes h).etc .default = none ∨
    (w.nodes h).etc .default = some (.config (decryptOnly keys))
  unencrypted : Unencrypted hosts w

def Disabling (hosts : Hosts H) (keys : List Key) (w : World H) : Prop :=
  KeysPresent hosts keys w ∨ Leaving hosts keys w

theorem Leaving.env (hw : Leaving hosts keys w) (r : Request H) :
    Leaving hosts keys ((engineOf hosts main).env r w) :=
  ⟨by simpa using hw.flag, by simpa using hw.file, hw.unencrypted.env r⟩

theorem Disabling.env (hw : Disabling hosts keys w) (r : Request H) :
    Disabling hosts keys ((engineOf hosts main).env r w) := by
  rcases hw with hw | hw
  · exact .inl (hw.env (fun _ h => h) r)
  · exact .inr (hw.env r)

omit [DecidableEq H] in
theorem Disabling.flag (hw : Disabling hosts keys w) :
    ∀ h ∈ hosts.controlPlane, (w.nodes h).apiServer.flag = some .default := by
  rcases hw with hw | hw
  · exact hw.flag
  · exact hw.flag

omit [DecidableEq H] in
theorem Disabling.recoverable (hw : Disabling hosts keys w) : Recoverable hosts .default w := by
  rcases hw with hw | hw
  · refine hw.recoverable ?_
    rintro _ s (rfl | rfl) hs
    · exact hs
    · rw [decryptOnly_opens]
      exact hs
  · exact hw.unencrypted.recoverable .default

def disableFrame (hosts : Hosts H) (keys : List Key) :
    Frame (World H) (Memory H) (Task H) (Choice H) (Request H) where
  engine := engineOf hosts (withDisableEncryptionProviders [] false)
  guard := disableGuard hosts false
  invariant := Disabling hosts keys
  env e _ hw := hw.env e

theorem steady_disabling {M : Memory H → Prop} :
    (disableFrame hosts keys).Steady fun w m => Disabling hosts keys w ∧ M m :=
  ⟨fun _ _ hw => hw.1, fun e _ _ hw => ⟨hw.1.env e, hw.2⟩⟩

/-- Before the keys are made to decrypt only: the memory has the configuration with the
keys in front, or the upload will be refused. -/
def Demoting (hosts : Hosts H) (keys : List Key) : Assertion (World H) (Memory H) := fun w m =>
  Prepared hosts m ∧ ((KeysPresent hosts keys w ∧ m.live.config = some (generated keys)) ∨
    Disabling hosts keys w ∧ m.live.config = some (decryptOnly keys))

abbrev Demoted (hosts : Hosts H) (keys : List Key) (heads stored : Seal → Prop) :
    Assertion (World H) (Memory H) := fun w _ =>
  Configured hosts .default (· = decryptOnly keys) heads stored w

theorem steady_demoting : (disableFrame hosts keys).Steady (Demoting hosts keys) := by
  refine ⟨?_, ?_⟩
  · rintro w m ⟨-, ⟨hw, -⟩ | ⟨hw, -⟩⟩
    · exact .inl hw
    · exact hw
  · rintro e w m ⟨hm, ⟨hw, hc⟩ | ⟨hw, hc⟩⟩
    · exact ⟨hm, .inl ⟨hw.env (fun _ h => h) e, hc⟩⟩
    · exact ⟨hm, .inr ⟨hw.env e, hc⟩⟩

theorem steady_demoted (himp : ∀ s, heads s → stored s) (hopened : ∀ s, stored s → Opened keys s) :
    (disableFrame hosts keys).Steady (Demoted hosts keys heads stored) :=
  ⟨fun _ _ hw => .inl (hw.mono (fun _ => .inr) (fun s hs => hopened s (himp s hs)) hopened),
    fun e _ _ hw => hw.env himp e⟩

theorem steady_leaving : (disableFrame hosts keys).Steady fun w _ => Leaving hosts keys w :=
  ⟨fun _ _ hw => .inr hw, fun e _ _ hw => hw.env e⟩

theorem decryptOnly_first (c : EncryptionConfiguration) (hc : c = decryptOnly keys) :
    ∃ s, c.writes = some s ∧ s = .plain := ⟨.plain, by rw [hc]; rfl, rfl⟩

theorem spec_fetch_disabling :
    (disableFrame hosts keys).Spec (fun w m => Disabling hosts keys w ∧ Prepared hosts m)
      .fetchEncryptionProvidersFile (Demoting hosts keys) := by
  refine (spec_fetchEncryptionProvidersFile rfl steady_disabling).weaken ?_
  rintro w m ⟨hw, hm, l, hl, c, hetc, hc⟩
  refine ⟨hm, ?_⟩
  rcases hw with hw | hw
  · obtain ⟨c', hfile, rfl | rfl⟩ := hw.file l hl
    · obtain rfl : generated keys = c := by simpa [hfile] using hetc
      exact .inl ⟨hw, hc⟩
    · obtain rfl : decryptOnly keys = c := by simpa [hfile] using hetc
      exact .inr ⟨.inl hw, hc⟩
  · rcases hw.file l hl with hnone | hfile
    · simp [hnone] at hetc
    · obtain rfl : decryptOnly keys = c := by simpa [hfile] using hetc
      exact .inr ⟨.inr hw, hc⟩

theorem spec_identityFirst : (disableFrame hosts keys).Spec (Demoting hosts keys)
    .uploadIdentityFirstEncryptionConfiguration
    (Demoted hosts keys (Opened keys) (Opened keys)) := by
  refine spec_of_exec rfl nofun steady_demoting fun ch w m hw _ => ?_
  obtain ⟨hm, hcase⟩ := hw
  show (disableFrame hosts keys).Ends _ _ (uploadIdentityFirstEncryptionConfiguration hosts ch w m)
  unfold uploadIdentityFirstEncryptionConfiguration
  rcases hcase with ⟨hw, hc⟩ | ⟨hw, hc⟩
  · simp only [hc, hm.live, Bool.false_eq_true, if_false, decryptOnly_generated, orFault]
    refine hw.push (hm.addFile m.live.config _ _).name (Function.update_self ..) (fun w' hw' => ?_)
      fun w' hw' => hw'
    refine ⟨hm.addFile m.live.config _ _, .inl ⟨?_, hc⟩⟩
    exact hw'.mono (by rintro c ((hc | hc) | hc); exacts [.inl hc, .inr hc, .inr hc])
      (fun _ h => h) fun _ h => h
  · simp only [hc, hm.live, Bool.false_eq_true, if_false, decryptOnly_decryptOnly, orFault]
    exact ⟨hm, .inr ⟨hw, hc⟩⟩

theorem spec_restart_demoted : (disableFrame hosts keys).Spec
    (Demoted hosts keys (Opened keys) (Opened keys)) .restartKubeAPIServer
    (Demoted hosts keys (· = .plain) (Opened keys)) := by
  refine spec_of_exec rfl nofun (steady_demoted (fun _ h => h) fun _ h => h)
    fun ch w m hw hg => ?_
  refine ends_finish ?_ fun hok => hw.restart_done decryptOnly_first (hg rfl) hok
  refine (hw.restart decryptOnly_first ch).mono (fun _ h => h) ?_ fun _ h => h
  rintro s (hs | rfl)
  · exact hs
  · exact opened_plain keys

theorem spec_rewrite_demoted : (disableFrame hosts keys).Spec
    (Demoted hosts keys (· = .plain) (Opened keys)) .rewriteClusterSecrets
    fun w _ => Leaving hosts keys w := by
  have himp : ∀ s : Seal, s = .plain → Opened keys s := by
    rintro s rfl
    exact opened_plain keys
  refine spec_of_exec rfl nofun (steady_demoted himp fun _ h => h) fun ch w m hw _ => ?_
  refine ends_finish (hw.rewrite himp ch) fun hok => ?_
  have hdone := hw.rewrite_done himp hok
  refine ⟨hdone.flag, fun h hmem => ?_, hdone.secret, hdone.writes fun _ h => h⟩
  obtain ⟨c, hetc, rfl⟩ := hdone.file h hmem
  exact .inr hetc

theorem spec_remove_leaving : (disableFrame hosts keys).Spec (fun w _ => Leaving hosts keys w)
    .removeEncryptionProviderFile fun w _ => Leaving hosts keys w := by
  refine spec_of_exec rfl nofun steady_leaving fun ch w m hw _ => ?_
  have hleaving : Leaving hosts keys (removeEncryptionProviderFile hosts ch w).1 := by
    refine ⟨fun h hmem => ?_, fun h hmem => ?_, hw.unencrypted.remove ch⟩
    · rw [(remove_node ch w hmem).1]
      exact hw.flag h hmem
    · rcases (remove_node ch w hmem).2 with hsame | hnone
      · rw [hsame]
        exact hw.file h hmem
      · exact .inl (by rw [hnone])
  exact ends_finish hleaving fun _ => hleaving

theorem startable_disable : (disableFrame hosts keys).Startable fun _ _ => True := by
  intro w m hw hstart
  have hsteady : (disableFrame hosts keys).Steady fun w m =>
      Disabling hosts keys w ∧ m.cluster.enabled = false := steady_disabling
  refine (cons (spec_operation rfl hsteady .determineHostname)
    (.cons (spec_operation rfl hsteady .determineOS) (.cons
      (spec_runProbes rfl hsteady (fun w hw => hw.flag)
        fun m m' hcluster _ hm => hcluster ▸ hm) ?_))).weaken
    (by rintro _ _ ⟨rfl, rfl⟩; exact ⟨hw, hstart.1⟩)
  refine weaken (P := fun w m => Disabling hosts keys w ∧ Prepared hosts m) ?_
    fun w m ⟨hw, hdisabled, _, hlive, hleader⟩ => ⟨hw, by simp [hdisabled], hlive, hleader⟩
  exact .cons (spec_operation rfl steady_disabling .safeguard) (.cons spec_fetch_disabling
    (.cons spec_identityFirst (.cons spec_restart_demoted (.cons spec_rewrite_demoted
      (.cons spec_remove_leaving (.nil steady_leaving fun _ _ _ => trivial))))))

end Generated

/-! ### A custom configuration -/

section Custom

/-- The custom configuration is on every node, or nothing is encrypted. -/
def DisablingCustom (hosts : Hosts H) (config : EncryptionConfiguration) (w : World H) : Prop :=
  Configured hosts .custom (· = config) (config.opens · = true) (config.opens · = true) w ∨
    Unencrypted hosts w

theorem DisablingCustom.env (hw : DisablingCustom hosts config w)
    (r : Request H) : DisablingCustom hosts config ((engineOf hosts main).env r w) := by
  rcases hw with hw | hw
  · exact .inl (hw.env (fun _ h => h) r)
  · exact .inr (hw.env r)

omit [DecidableEq H] in
theorem DisablingCustom.recoverable (hw : DisablingCustom hosts config w) :
    Recoverable hosts .custom w := by
  rcases hw with hw | hw
  · exact hw.recoverable (by rintro _ s rfl hs; exact hs)
  · exact hw.recoverable .custom

def disableCustomFrame (hosts : Hosts H) (config : EncryptionConfiguration) :
    Frame (World H) (Memory H) (Task H) (Choice H) (Request H) where
  engine := engineOf hosts (withDisableEncryptionProviders [] true)
  guard := disableGuard hosts true
  invariant := DisablingCustom hosts config
  env e _ hw := hw.env e

def Bare (hosts : Hosts H) (w : World H) : Prop :=
  Unencrypted hosts w ∧ ∀ h ∈ hosts.controlPlane, (w.nodes h).etc = fun _ => none

theorem Bare.env (hw : Bare hosts w) (r : Request H) : Bare hosts ((engineOf hosts main).env r w) :=
  ⟨hw.1.env r, by simpa using hw.2⟩

theorem Bare.rewrite (hw : Bare hosts w) (ch : Choice H) :
    Bare hosts (rewriteClusterSecrets hosts ch w).1 :=
  ⟨hw.1.rewrite ch, by simpa using hw.2⟩

theorem Bare.restart (hw : Bare hosts w) (ch : Choice H) :
    Bare hosts (restartAll ch hosts.controlPlane w).1 := by
  obtain ⟨hsecrets, -, hnodes, -⟩ := restartAll_spec ch hosts.controlPlane w
  refine ⟨⟨?_, fun h hmem b hb => ?_⟩, by simpa using hw.2⟩
  · rw [World.Stored, hsecrets]
    exact hw.1.1
  · rw [World.backend] at hb
    rcases hnodes h with hsame | hboot
    · rw [hsame] at hb
      exact hw.1.2 h hmem b hb
    · rw [hboot] at hb
      cases hflag : (w.nodes h).apiServer.flag with
      | none =>
        obtain rfl : Backend.unencrypted = b := by simpa [Node.rebooted, Node.boot, hflag] using hb
        rfl
      | some f => simp [Node.rebooted, Node.boot, hflag, hw.2 h hmem] at hb

theorem steady_unencrypted :
    (disableCustomFrame hosts config).Steady fun w _ => Unencrypted hosts w :=
  ⟨fun _ _ hw => .inr hw, fun e _ _ hw => hw.env e⟩

theorem steady_bare : (disableCustomFrame hosts config).Steady fun w _ => Bare hosts w :=
  ⟨fun _ _ hw => .inr hw.1, fun e _ _ hw => hw.env e⟩

theorem spec_remove_custom : (disableCustomFrame hosts config).Spec
    (fun w _ => Unencrypted hosts w) .removeEncryptionProviderFile fun w _ => Bare hosts w := by
  refine spec_of_exec rfl nofun steady_unencrypted fun ch w m hw _ => ?_
  have hremove := hw.remove ch
  exact ends_finish hremove fun hok => ⟨hremove, fun h hmem => remove_done hok hmem⟩

theorem spec_restart_bare : (disableCustomFrame hosts config).Spec (fun w _ => Bare hosts w)
    .restartKubeAPIServer fun w _ => Bare hosts w :=
  spec_of_exec rfl nofun steady_bare fun ch _ _ hw _ =>
    ends_finish (hw.restart ch) fun _ => hw.restart ch

theorem spec_rewrite_bare : (disableCustomFrame hosts config).Spec (fun w _ => Bare hosts w)
    .rewriteClusterSecrets fun w _ => Bare hosts w :=
  spec_of_exec rfl nofun steady_bare fun ch _ _ hw _ =>
    ends_finish (hw.rewrite ch) fun _ => hw.rewrite ch

theorem startable_disableCustom : (disableCustomFrame hosts config).Startable fun _ _ => True := by
  intro w m _ hstart
  have hop := fun op => spec_operation (F := disableCustomFrame hosts config) rfl
    steady_unencrypted op
  exact (cons (hop .determineHostname) (.cons (hop .determineOS)
    (.cons (spec_runProbes_inert rfl steady_unencrypted) (.cons (hop .safeguard)
      (.cons spec_remove_custom (.cons spec_restart_bare (.cons spec_rewrite_bare
        (.nil steady_bare fun _ _ _ => trivial)))))))).weaken
    (by rintro _ _ ⟨rfl, rfl⟩; exact hstart.2 rfl)

end Custom

/-- Along every history of the disable task list whose steps meet the condition, the file on the
control plane nodes decrypts every Secret that is still stored encrypted. -/
theorem disabling_keeps_secrets_recoverable {custom : Bool}
    (hkind : custom = false → ∃ keys, config = generated keys)
    (hw : Configured hosts (liveFile custom) (· = config) (config.writes = some ·)
      (config.opens · = true) w)
    {es : List (Event (Memory H) (Choice H) (Request H))}
    {c : Machine (World H) (Memory H) (Task H)}
    (hrun : (engineOf hosts (withDisableEncryptionProviders [] custom)).run ⟨w, none⟩ es = some c)
    (hmeets : (engineOf hosts (withDisableEncryptionProviders [] custom)).Meets
      (disableGuard hosts custom) ⟨w, none⟩ es) :
    Recoverable hosts (liveFile custom) c.world := by
  cases custom with
  | false =>
    obtain ⟨keys, rfl⟩ := hkind rfl
    have hkeys : Disabling hosts keys w :=
      .inl (hw.mono (fun _ => .inl) (fun _ => opens_of_writes) fun _ h => h)
    exact (startable_disable.run (F := disableFrame hosts keys) hkeys hrun hmeets).1.recoverable
  | true =>
    have hcustom : DisablingCustom hosts config w :=
      .inl (hw.mono (fun _ h => h) (fun _ => opens_of_writes) fun _ h => h)
    exact (startable_disableCustom.run (F := disableCustomFrame hosts config) hcustom hrun
      hmeets).1.recoverable

namespace SingleNode

def disable : Event (Memory Unit) (Choice Unit) (Request Unit) :=
  .start (.init ⟨none, false⟩ ⟨true, false⟩)

theorem encryptedBy_configured (f : ProvidersFile) :
    Configured single f (· = generated [oldKey]) ((generated [oldKey]).writes = some ·)
      ((generated [oldKey]).opens · = true) (encryptedBy f) :=
  ⟨fun _ _ => rfl, fun _ _ => ⟨_, if_pos rfl, rfl⟩, fun _ _ => ⟨_, rfl, rfl⟩,
    by simp [World.Stored, encryptedBy]⟩

theorem clean_disable_recoverable : ∃ c,
    (engineOf single (withDisableEncryptionProviders [] false)).run ⟨encryptedBy .default, none⟩
      (disable :: attempts 9 newKey .logged) = some c ∧
    c.process.any (·.todo.isEmpty) = true ∧ Recoverable single .default c.world := by
  have hmeets : (engineOf single (withDisableEncryptionProviders [] false)).Meets
      (disableGuard single false) ⟨encryptedBy .default, none⟩
      (disable :: attempts 9 newKey .logged) := by decide
  exact ⟨_, rfl, rfl, disabling_keeps_secrets_recoverable
    (fun _ => ⟨[oldKey], rfl⟩) (encryptedBy_configured .default) rfl hmeets⟩

/-- The list for a custom configuration removes the file while the Secret is encrypted, and
the list for a generated one does so when the log of the API server is quiet. -/
theorem disable_loses_secrets :
    (∃ c, (engineOf single (withDisableEncryptionProviders [] true)).run
      ⟨encryptedBy .custom, none⟩ (disable :: attempts 5 newKey .logged) = some c ∧
      ¬ Recoverable single .custom c.world) ∧
    ∃ c, (engineOf single (withDisableEncryptionProviders [] false)).run
      ⟨encryptedBy .default, none⟩ (disable :: attempts 9 newKey .quiet) = some c ∧
      ¬ Recoverable single .default c.world :=
  ⟨⟨_, rfl, by decide⟩, ⟨_, rfl, by decide⟩⟩

end SingleNode

/-! ### The upgrade behind the removal -/

section Upgrade

/-- Every API server has the flag for the generated file. -/
def Flagged (hosts : Hosts H) (w : World H) : Prop :=
  ∀ h ∈ hosts.controlPlane, (w.nodes h).apiServer.flag = some .default

/-- Apply runs of a manifest without encryption that upgrade the cluster. -/
def disablingRuns : Guard (World H) (Memory H) (Task H) (Choice H) where
  start _ m := m.cluster.enabled = false ∧ m.options.rotateEncryptionKey = false
  attempt t ch _ m :=
    match t with
    | .runApply => (ch.upgradeNeeded || m.options.forceUpgrade) = true
    | _ => True

instance (w : World H) (m : Memory H) : Decidable (disablingRuns.start w m) :=
  inferInstanceAs (Decidable (_ ∧ _))

instance (t : Task H) (ch : Choice H) (w : World H) (m : Memory H) :
    Decidable (disablingRuns.attempt t ch w m) := by
  apply Task.casesOn (motive := fun t => Decidable (disablingRuns.attempt t ch w m)) t
    <;> intros <;> unfold disablingRuns <;> infer_instance

theorem Flagged.env (hw : Flagged hosts w) (r : Request H) :
    Flagged hosts ((engineOf hosts main).env r w) := by
  simpa [Flagged] using hw

def disablingFrame (hosts : Hosts H) :
    Frame (World H) (Memory H) (Task H) (Choice H) (Request H) where
  engine := engine hosts
  guard := disablingRuns
  invariant := Flagged hosts
  env e _ hw := hw.env e

theorem steady_flagged {M : Memory H → Prop} :
    (disablingFrame hosts).Steady fun w m => Flagged hosts w ∧ M m :=
  ⟨fun _ _ hw => hw.1, fun e _ _ hw => ⟨hw.1.env e, hw.2⟩⟩

theorem steady_onlyFlagged : (disablingFrame hosts).Steady fun w _ => Flagged hosts w :=
  ⟨fun _ _ hw => hw, fun e _ _ hw => hw.env e⟩

/-- Every API server has the flag, and no node has a file. -/
def Orphaned (hosts : Hosts H) (w : World H) : Prop :=
  Flagged hosts w ∧ ∀ h ∈ hosts.controlPlane, (w.nodes h).etc = fun _ => none

theorem steady_orphaned : (disablingFrame hosts).Steady fun w _ => Orphaned hosts w := by
  refine ⟨fun _ _ hw => hw.1, fun e w _ hw => ⟨hw.1.env e, ?_⟩⟩
  show ∀ h ∈ hosts.controlPlane, (((engineOf hosts _).env e w).nodes h).etc = fun _ => none
  simpa using hw.2

theorem valid_orphaned (ts : List (Task H)) :
    (disablingFrame hosts).Valid (fun w _ => Orphaned hosts w) (.runProbes :: ts)
      fun _ _ => False := by
  refine .cons (R := fun _ _ => False) (spec_probes rfl steady_orphaned (fun _ _ _ _ hw => hw)
    fun ch w m m' leader _ hl hw _ _ => ?_) fun _ _ _ h => h.elim
  have hmem := electLeader_mem hl.elected
  have hflag : (detectEncryptionProvidersEnabled hosts w).1 = true :=
    detect_enabled.mpr ⟨leader, hmem, by rw [hw.1 leader hmem]; rfl⟩
  obtain ⟨-, c, hetc, -⟩ := hl.file hflag
  rw [hw.2 leader hmem] at hetc
  cases hetc

theorem spec_flagged {t : Task H} (ht : t ≠ .saveCABundle)
    (hx : ∀ ch w m, Flagged hosts w → ∃ w' m' o, exec hosts t ch w m = (w', m', o) ∧
      Flagged hosts w' ∧ ∀ more, o = .done more → more = []) :
    (disablingFrame hosts).Spec (fun w _ => Flagged hosts w) t fun w _ => Flagged hosts w := by
  refine spec_of_exec rfl ht steady_onlyFlagged fun ch w m hw _ => ?_
  obtain ⟨w', m', o, hexec, hw', hmore⟩ := hx ch w m hw
  rw [hexec]
  cases o with
  | done more => exact ⟨hmore more rfl, hw'⟩
  | failed => exact hw'
  | aborted => exact hw'

theorem spec_identityFirst_flagged : (disablingFrame hosts).Spec (fun w _ => Flagged hosts w)
    .uploadIdentityFirstEncryptionConfiguration fun w _ => Flagged hosts w := by
  refine spec_flagged nofun fun ch w m hw => ?_
  have hpush : ∀ m', ∃ w' m'' o, pushEncryptionConfiguration hosts ch w m' true = (w', m'', o) ∧
      Flagged hosts w' ∧ ∀ more, o = .done more → more = [] := by
    refine fun m' => ⟨_, _, _, rfl, fun h hmem => ?_, finish_more _⟩
    rw [onControlPlane_node hmem, pushOnNode_apiServer]
    exact hw h hmem
  show ∃ w' m' o, uploadIdentityFirstEncryptionConfiguration hosts ch w m = (w', m', o) ∧ _
  unfold uploadIdentityFirstEncryptionConfiguration
  split
  · exact ⟨w, m, .failed, rfl, hw, nofun⟩
  · split_ifs
    · exact ⟨w, m, .failed, rfl, hw, nofun⟩
    · rename_i c _ _
      rcases updateEncryptionConfigDecryptOnly c with (_ | _) | c'
      · exact ⟨w, m, .failed, rfl, hw, nofun⟩
      · exact ⟨w, m, .aborted, rfl, hw, nofun⟩
      · exact hpush (m.addFile .default (.config c'))

theorem spec_restart_flagged : (disablingFrame hosts).Spec (fun w _ => Flagged hosts w)
    .restartKubeAPIServer fun w _ => Flagged hosts w := by
  refine spec_flagged nofun fun ch w m hw => ⟨_, _, _, rfl, ?_, finish_more _⟩
  simpa [Flagged] using hw

theorem spec_rewrite_flagged : (disablingFrame hosts).Spec (fun w _ => Flagged hosts w)
    .rewriteClusterSecrets fun w _ => Flagged hosts w := by
  refine spec_flagged nofun fun ch w m hw => ⟨_, _, _, rfl, ?_, finish_more _⟩
  simpa [Flagged] using hw

theorem spec_remove_flagged : (disablingFrame hosts).Spec (fun w _ => Flagged hosts w)
    .removeEncryptionProviderFile fun w _ => Orphaned hosts w := by
  refine spec_of_exec rfl nofun steady_onlyFlagged fun ch w m hw _ => ?_
  have hflag : Flagged hosts (removeEncryptionProviderFile hosts ch w).1 := by
    intro h hmem
    rw [(remove_node ch w hmem).1]
    exact hw h hmem
  exact ends_finish hflag fun hok => ⟨hflag, fun h hmem => remove_done hok hmem⟩

theorem valid_disable_then_probes (ts : List (Task H)) :
    (disablingFrame hosts).Valid (fun w _ => Flagged hosts w)
      (withProbesAndSafeguard [] ++ [.fetchEncryptionProvidersFile,
        .uploadIdentityFirstEncryptionConfiguration, .restartKubeAPIServer, .rewriteClusterSecrets,
        .removeEncryptionProviderFile] ++ .runProbes :: ts) fun _ _ => False := by
  exact .cons (spec_runProbes_inert rfl steady_onlyFlagged)
    (.cons (spec_operation rfl steady_onlyFlagged .safeguard)
    (.cons (spec_flagged nofun fun ch w m hw => ⟨_, _, _, rfl, hw, finish_more _⟩)
      (.cons spec_identityFirst_flagged (.cons spec_restart_flagged (.cons spec_rewrite_flagged
        (.cons spec_remove_flagged (valid_orphaned ts)))))))

theorem runApply_disabling {m : Memory H} {more : List (Task H)}
    (hcluster : m.cluster.enabled = false) (henable : m.live.enable = true)
    (hcustom : m.live.custom = false)
    (hupgrade : (ch.upgradeNeeded || m.options.forceUpgrade) = true)
    (hok : runApplyUpgradeIfNeeded hosts ch m = .ok more) :
    ∃ ops ts, more = operations ops ++ (withProbesAndSafeguard [] ++
      [.fetchEncryptionProvidersFile, .uploadIdentityFirstEncryptionConfiguration,
        .restartKubeAPIServer, .rewriteClusterSecrets, .removeEncryptionProviderFile] ++
      .runProbes :: ts) := by
  obtain ⟨updated, hupdated, rfl⟩ := runApplyUpgradeIfNeeded_ok (by simpa using hupgrade) hok
  simp only [customEncryptionConfigUpdated, henable, hcustom, Bool.and_false] at hupdated
  cases hupdated
  simp only [Memory.shouldDisableEncryption, Memory.shouldEnableEncryption, hcluster, henable,
    hcustom, Bool.not_false, Bool.not_true, Bool.and_self, Bool.false_eq_true, if_true, if_false]
  cases ch.hasExtraEtcdMembers with
  | false =>
    exact ⟨[.determineHostname, .determineOS, .determineHostname, .determineOS],
      .operation .safeguard :: upgradeTasks _ _, rfl⟩
  | true =>
    exact ⟨[.determineHostname, .determineOS, .determineHostname, .determineOS,
      .repairClusterIfNeeded], .operation .safeguard :: upgradeTasks _ _, rfl⟩

theorem startable_disabling : (disablingFrame hosts).Startable fun _ _ => False := by
  intro w m hw hstart
  have hsteady : (disablingFrame hosts).Steady fun w m => Flagged hosts w ∧
      m.cluster.enabled = false ∧ m.options.rotateEncryptionKey = false := steady_flagged
  refine (cons (spec_operation rfl hsteady .determineHostname)
    (.cons (spec_operation rfl hsteady .determineOS) (.cons
      (spec_runProbes rfl hsteady (fun w hw => hw) fun m m' hcluster hoptions hm => by
        rw [hcluster, hoptions]; exact hm) ?_))).weaken
    (by rintro _ _ ⟨rfl, rfl⟩; exact ⟨hw, hstart⟩)
  refine weaken (P := fun w m => Flagged hosts w ∧ (m.cluster.enabled = false ∧
    m.options.rotateEncryptionKey = false) ∧ m.live.enable = true ∧ m.live.custom = false)
    (.cons (spec_operation rfl steady_flagged .safeguard) (valid_runApply rfl steady_flagged ?_))
    fun w m hw => ⟨hw.1, hw.2.1, hw.2.2.1, hw.2.2.2.1⟩
  rintro ch w m more ⟨hw, ⟨hcluster, hrotate⟩, henable, hcustom⟩ hg hx
  rw [Decided, if_neg (by simp [hrotate])] at hx
  obtain ⟨ops, ts, rfl⟩ := runApply_disabling hcluster henable hcustom hg hx
  refine ⟨_, hw, .append_inert (fun t ht => ?_) (valid_disable_then_probes ts)⟩
  obtain ⟨op, -, rfl⟩ := List.mem_map.mp ht
  exact spec_operation rfl steady_onlyFlagged op

/-- In no history of apply runs that disable a generated configuration and upgrade the cluster
does a run reach the end of its task list. -/
theorem disabling_never_finishes (hw : Flagged hosts w)
    {es : List (Event (Memory H) (Choice H) (Request H))}
    {c : Machine (World H) (Memory H) (Task H)}
    (hrun : (engine hosts).run ⟨w, none⟩ es = some c)
    (hmeets : (engine hosts).Meets disablingRuns ⟨w, none⟩ es) :
    ∀ p, c.process = some p → p.todo ≠ [] :=
  fun p hp htodo => (startable_disabling.run hw hrun hmeets).2 p hp htodo

namespace SingleNode

theorem clean_disable_unfinished : ∃ c p,
    (engine single).run ⟨encryptedBy .default, none⟩ (disable :: attempts 16 newKey .logged) =
      some c ∧ c.process = some p ∧ p.todo ≠ [] := by
  have hmeets : (engine single).Meets disablingRuns ⟨encryptedBy .default, none⟩
      (disable :: attempts 16 newKey .logged) := by decide
  exact ⟨_, _, rfl, rfl, disabling_never_finishes (fun _ _ => rfl) rfl hmeets _ rfl⟩

/-- Every command of the run succeeds until the file is removed; then the probes of the upgrade
fail ten times, and so do the probes of the next run. -/
theorem disable_gets_stuck : ∃ c c',
    (engine single).run ⟨encryptedBy .default, none⟩ (disable :: attempts 26 newKey .logged) =
      some c ∧ c.process.isNone = true ∧ (c.world.nodes ()).etc .default = none ∧
    (engine single).run c (disable :: attempts 12 newKey .logged) = some c' ∧
      c'.process.isNone = true :=
  ⟨_, _, rfl, rfl, rfl, rfl, rfl⟩

end SingleNode

end Upgrade

end KubeOne.Encryption
