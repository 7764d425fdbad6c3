import KubeOne.Encryption.Configured

/-! Key rotation: a new key goes in front of the old one, the API servers are restarted, every
Secret is rewritten, and the old key dropped. Two steps can lose a Secret: the restart, which
leaves an API server with a quiet log alone, and the upload, which keeps only the last key that it
has found. -/

namespace KubeOne.Encryption

open Process

variable {H : Type*}

/-- The last key of the first provider, which is the one that a rotation keeps. -/
def EncryptionConfiguration.lastKey (config : EncryptionConfiguration) : Option Key :=
  match config.resources with
  | ⟨_, .aescbc keys :: _⟩ :: _ => keys.getLast?
  | _ => none

@[simp] theorem generated_lastKey (keys : List Key) :
    (generated keys).lastKey = keys.getLast? := rfl

/-- The file of the generated configuration on every control plane node decrypts every
stored Secret. -/
def Readable (hosts : Hosts H) (w : World H) : Prop :=
  ∀ h ∈ hosts.controlPlane, ∀ s ∈ w.secrets, (w.nodes h).fileOpens .default s.stored = true

instance (hosts : Hosts H) (w : World H) : Decidable (Readable hosts w) :=
  inferInstanceAs (Decidable (∀ h ∈ hosts.controlPlane, ∀ s ∈ w.secrets, _))

/-- Every node holds the configuration that was generated with the key, its API server was
started with it, and every Secret is stored in plain text or under the key. -/
structure FreshlyGenerated (hosts : Hosts H) (key : Key) (w : World H) : Prop where
  apiServer : ∀ h ∈ hosts.controlPlane, (w.nodes h).apiServer =
    ⟨some .default, some (.encrypted (newEncryptionProvidersConfig key) (.aescbc key))⟩
  etc : ∀ h ∈ hosts.controlPlane,
    (w.nodes h).etc .default = some (.config (newEncryptionProvidersConfig key))
  secrets : w.Stored fun s => s = .plain ∨ s = .aescbc key

/-- Only rotations are started. A restart reaches every API server that does not write with
the first key of the file of its node, and a new key is uploaded only while every API server
writes with the key that the upload keeps. -/
def rotationGuard (hosts : Hosts H) : Guard (World H) (Memory H) (Task H) (Choice H) where
  start _ m := m.options.rotateEncryptionKey = true
  attempt t ch w m :=
    match t with
    | .restartKubeAPIServer => ∀ h ∈ hosts.controlPlane, ch.restart h = .quiet →
        (w.nodes h).upToDate .default = true
    | .uploadEncryptionConfigurationWithNewKey => ∀ h ∈ hosts.controlPlane, ∀ b ∈ w.backend h,
        some b.writes = (m.live.config.bind (·.lastKey)).map .aescbc
    | _ => True

instance (hosts : Hosts H) (w : World H) (m : Memory H) :
    Decidable ((rotationGuard hosts).start w m) :=
  inferInstanceAs (Decidable (m.options.rotateEncryptionKey = true))

instance (hosts : Hosts H) (t : Task H) (ch : Choice H) (w : World H) (m : Memory H) :
    Decidable ((rotationGuard hosts).attempt t ch w m) := by
  apply Task.casesOn (motive := fun t => Decidable ((rotationGuard hosts).attempt t ch w m)) t
    <;> intros <;> unfold rotationGuard <;> infer_instance

section Phases

variable (hosts : Hosts H)

def Under (keys : List Key) (s : Seal) : Prop := s = .plain ∨ ∃ key ∈ keys, s = .aescbc key

abbrev OneKey (key : Key) : World H → Prop :=
  Configured hosts .default (fun c => ∃ keys, c = generated keys ∧ key ∈ keys) (· = .aescbc key)
    (Under [key])

abbrev BothKeys (old new : Key) : (heads stored : Seal → Prop) → World H → Prop :=
  Configured hosts .default (· = generated [new, old])

/-- The API servers change over to the new key: none of them has, or one of them has. -/
def ChangingOver (old new : Key) (w : World H) : Prop :=
  BothKeys hosts old new (· = .aescbc old) (Under [old]) w ∨
    BothKeys hosts old new (fun s => s = .aescbc old ∨ s = .aescbc new) (Under [new, old]) w ∧
      ∃ h ∈ hosts.controlPlane, ∃ b, w.backend h = some b ∧ b.writes = .aescbc new

/-- Between two runs one key is in use, or the API servers change over. -/
def Rotating (w : World H) : Prop :=
  (∃ key, OneKey hosts key w) ∨ ∃ old new, ChangingOver hosts old new w

end Phases

variable {hosts : Hosts H} {w : World H} {m : Memory H} {old new key : Key} {keys keys' : List Key}

theorem Under.mono {s : Seal} (hs : Under keys s) (hsub : ∀ key ∈ keys, key ∈ keys') :
    Under keys' s := by
  rcases hs with hplain | ⟨key, hkey, hsealed⟩
  · exact .inl hplain
  · exact .inr ⟨key, hsub key hkey, hsealed⟩

theorem under_of_mem {s : Seal} (hkey : key ∈ keys) (hs : s = .aescbc key) : Under keys s :=
  .inr ⟨key, hkey, hs⟩

theorem bothKeys_writes (c : EncryptionConfiguration) (hc : c = generated [new, old]) :
    ∃ s, c.writes = some s ∧ s = .aescbc new := ⟨.aescbc new, by rw [hc]; rfl, rfl⟩

theorem oneKey_of_bothKeys {heads stored : Seal → Prop}
    (hw : BothKeys hosts old new heads stored w) (hkey : key ∈ [new, old])
    (hh : ∀ s, heads s → s = .aescbc key) (hs : ∀ s, stored s → Under [key] s) :
    OneKey hosts key w :=
  hw.mono (fun _ hc => ⟨[new, old], hc, hkey⟩) hh hs

theorem ChangingOver.bothKeys (hw : ChangingOver hosts old new w) :
    BothKeys hosts old new (fun s => s = .aescbc old ∨ s = .aescbc new) (Under [new, old]) w := by
  rcases hw with hw | ⟨hw, -⟩
  · exact hw.mono (fun _ h => h) (fun _ => .inl) fun _ h => h.mono (by simp)
  · exact hw

theorem Rotating.readable (hw : Rotating hosts w) : Readable hosts w := by
  intro h hmem s hs
  rcases hw with ⟨key, hw⟩ | ⟨old, new, hw⟩
  · refine hw.fileOpens ?_ hmem hs
    rintro _ s ⟨keys, rfl, hkey⟩ hunder
    exact (generated_opens keys s).mpr (hunder.mono (by simpa using hkey))
  · refine hw.bothKeys.fileOpens ?_ hmem hs
    rintro _ s rfl hunder
    exact (generated_opens [new, old] s).mpr hunder

theorem Rotating.flag (hw : Rotating hosts w) {h : H} (hmem : h ∈ hosts.controlPlane) :
    (w.nodes h).apiServer.flag = some .default := by
  rcases hw with ⟨key, hw⟩ | ⟨old, new, hw⟩
  · exact hw.flag h hmem
  · exact hw.bothKeys.flag h hmem

theorem FreshlyGenerated.rotating (hw : FreshlyGenerated hosts key w) : Rotating hosts w := by
  refine .inl ⟨key, ⟨fun h hmem => ?_, fun h hmem => ?_, fun h hmem => ?_, fun s hs => ?_⟩⟩
  · rw [hw.apiServer h hmem]
  · exact ⟨_, hw.etc h hmem, [key], rfl, List.mem_singleton_self key⟩
  · rw [World.backend, hw.apiServer h hmem]
    exact ⟨_, rfl, rfl⟩
  · rcases hw.secrets s hs with hplain | hsealed
    · exact .inl hplain
    · exact under_of_mem (List.mem_singleton_self key) hsealed

/-- Before the new key is added: one key is in use and the memory has a generated
configuration, or the memory has the configuration of a changeover. -/
def Adding (hosts : Hosts H) : Assertion (World H) (Memory H) := fun w m =>
  Prepared hosts m ∧
    ((∃ key keys, OneKey hosts key w ∧ m.live.config = some (generated keys)) ∨
      ∃ old new, ChangingOver hosts old new w ∧ m.live.config = some (generated [new, old]))

def Changing (hosts : Hosts H) : Assertion (World H) (Memory H) := fun w m =>
  Prepared hosts m ∧ ∃ old new, ChangingOver hosts old new w ∧
    m.live.config = some (generated [new, old])

def Rewriting (hosts : Hosts H) : Assertion (World H) (Memory H) := fun w m =>
  Prepared hosts m ∧ ∃ old new, BothKeys hosts old new (· = .aescbc new) (Under [new, old]) w ∧
    m.live.config = some (generated [new, old])

def Dropping (hosts : Hosts H) : Assertion (World H) (Memory H) := fun w m =>
  Prepared hosts m ∧ ∃ key keys, OneKey hosts key w ∧ m.live.config = some (generated (key :: keys))

def Rotated (hosts : Hosts H) : Assertion (World H) (Memory H) := fun w _ =>
  ∃ key, Configured hosts .default (· = generated [key]) (· = .aescbc key) (Under [key]) w

theorem Adding.oneKey {ch : Choice H} (hw : Adding hosts w m)
    (hg : (rotationGuard hosts).attempt .uploadEncryptionConfigurationWithNewKey ch w m) :
    ∃ key keys, OneKey hosts key w ∧ m.live.config = some (generated keys) ∧
      keys.getLast? = some key := by
  obtain ⟨hm, ⟨key, keys, hw, hc⟩ | ⟨old, new, hw | ⟨hw, h, hmem, b, hb, hwrites⟩, hc⟩⟩ := hw
  · obtain ⟨l, hl, -⟩ := hm.leader
    obtain ⟨b, hb, hwrites⟩ := hw.head l hl
    have hlast := hg l hl b hb
    rw [hc, hwrites] at hlast
    obtain ⟨last, hlast, heq⟩ := Option.map_eq_some_iff.mp hlast.symm
    cases heq
    exact ⟨key, keys, hw, hc, hlast⟩
  · exact ⟨old, _, oneKey_of_bothKeys hw (by simp) (fun _ h => h) fun _ h => h, hc, rfl⟩
  · have hlast := hg h hmem b hb
    rw [hc, hwrites] at hlast
    obtain rfl : new = old := by simpa using hlast
    exact ⟨new, _, oneKey_of_bothKeys hw (by simp) (by simp) fun _ h => h.mono (by simp), hc, rfl⟩

variable [DecidableEq H] {main : List (Task H)}

theorem ChangingOver.env (hw : ChangingOver hosts old new w)
    (r : Request H) : ChangingOver hosts old new ((engineOf hosts main).env r w) := by
  rcases hw with hw | ⟨hw, hh⟩
  · exact .inl (hw.env (fun _ => under_of_mem (by simp)) r)
  · refine .inr ⟨hw.env ?_ r, by simpa [World.backend] using hh⟩
    rintro s (hs | hs) <;> exact under_of_mem (by simp) hs

theorem OneKey.env (hw : OneKey hosts key w) (r : Request H) :
    OneKey hosts key ((engineOf hosts main).env r w) :=
  Configured.env hw (fun _ => under_of_mem (by simp)) r

theorem Rotating.env (hw : Rotating hosts w) (r : Request H) :
    Rotating hosts ((engineOf hosts main).env r w) := by
  rcases hw with ⟨key, hw⟩ | ⟨old, new, hw⟩
  · exact .inl ⟨key, OneKey.env hw r⟩
  · exact .inr ⟨old, new, hw.env r⟩

theorem ChangingOver.restart (hw : ChangingOver hosts old new w) (ch : Choice H) :
    ChangingOver hosts old new (restartAll ch hosts.controlPlane w).1 := by
  have hboth : BothKeys hosts old new (fun s => s = .aescbc old ∨ s = .aescbc new)
      (Under [new, old]) (restartAll ch hosts.controlPlane w).1 :=
    (hw.bothKeys.restart bothKeys_writes ch).mono (fun _ h => h)
      (by rintro s ((rfl | rfl) | rfl) <;> simp) fun _ h => h
  by_cases hnew : ∃ h ∈ hosts.controlPlane, ∃ b,
      (restartAll ch hosts.controlPlane w).1.backend h = some b ∧ b.writes = .aescbc new
  · exact .inr ⟨hboth, hnew⟩
  · rcases hw with hw | ⟨hw, h, hmem, b, hb, hwrites⟩
    · refine .inl ⟨hboth.flag, hboth.file, fun h hmem => ?_, ?_⟩
      · obtain ⟨b, hb, hold | hwrites⟩ := hboth.head h hmem
        · exact ⟨b, hb, hold⟩
        · exact absurd ⟨h, hmem, b, hb, hwrites⟩ hnew
      · rw [World.Stored, (restartAll_spec ch hosts.controlPlane w).1]
        exact hw.secret
    · refine absurd ⟨h, hmem, ?_⟩ hnew
      rw [World.backend]
      rcases (restartAll_spec ch hosts.controlPlane w).2.2.1 h with hsame | hboot
      · rw [hsame]
        exact ⟨b, hb, hwrites⟩
      · rw [hboot]
        exact hw.rebooted bothKeys_writes hmem

def rotationFrame (hosts : Hosts H) :
    Frame (World H) (Memory H) (Task H) (Choice H) (Request H) where
  engine := engine hosts
  guard := rotationGuard hosts
  invariant := Rotating hosts
  env e _ hw := hw.env e

theorem steady_rotating {P : Memory H → Prop} :
    (rotationFrame hosts).Steady fun w m => Rotating hosts w ∧ P m :=
  ⟨fun _ _ hw => hw.1, fun e _ _ hw => ⟨hw.1.env e, hw.2⟩⟩

theorem steady_adding : (rotationFrame hosts).Steady (Adding hosts) := by
  refine ⟨?_, ?_⟩
  · rintro w m ⟨-, ⟨key, keys, hw, -⟩ | ⟨old, new, hw, -⟩⟩
    · exact .inl ⟨key, hw⟩
    · exact .inr ⟨old, new, hw⟩
  · rintro e w m ⟨hm, ⟨key, keys, hw, hc⟩ | ⟨old, new, hw, hc⟩⟩
    · exact ⟨hm, .inl ⟨key, keys, OneKey.env hw e, hc⟩⟩
    · exact ⟨hm, .inr ⟨old, new, hw.env e, hc⟩⟩

theorem steady_changing : (rotationFrame hosts).Steady (Changing hosts) := by
  refine ⟨?_, ?_⟩
  · rintro w m ⟨-, old, new, hw, -⟩
    exact .inr ⟨old, new, hw⟩
  · rintro e w m ⟨hm, old, new, hw, hc⟩
    exact ⟨hm, old, new, hw.env e, hc⟩

theorem steady_rewriting : (rotationFrame hosts).Steady (Rewriting hosts) := by
  refine ⟨?_, ?_⟩
  · rintro w m ⟨hm, old, new, hw, -⟩
    obtain ⟨l, hl, -⟩ := hm.leader
    exact .inr ⟨old, new, .inr ⟨hw.mono (fun _ h => h) (fun _ => .inr) fun _ h => h,
      l, hl, hw.head l hl⟩⟩
  · rintro e w m ⟨hm, old, new, hw, hc⟩
    exact ⟨hm, old, new, hw.env (fun _ => under_of_mem (by simp)) e, hc⟩

theorem steady_dropping : (rotationFrame hosts).Steady (Dropping hosts) := by
  refine ⟨?_, ?_⟩
  · rintro w m ⟨-, key, keys, hw, -⟩
    exact .inl ⟨key, hw⟩
  · rintro e w m ⟨hm, key, keys, hw, hc⟩
    exact ⟨hm, key, keys, OneKey.env hw e, hc⟩

theorem steady_rotated : (rotationFrame hosts).Steady (Rotated hosts) := by
  refine ⟨?_, ?_⟩
  · rintro w m ⟨key, hw⟩
    exact .inl ⟨key, hw.mono (fun _ hc => ⟨[key], hc, by simp⟩) (fun _ h => h) fun _ h => h⟩
  · rintro e w m ⟨key, hw⟩
    exact ⟨key, hw.env (fun _ => under_of_mem (by simp)) e⟩

theorem spec_fetch : (rotationFrame hosts).Spec (fun w m => Rotating hosts w ∧ Prepared hosts m)
    .fetchEncryptionProvidersFile (Adding hosts) := by
  refine (spec_fetchEncryptionProvidersFile rfl steady_rotating).weaken ?_
  rintro w m ⟨hw, hm, l, hl, c, hetc, hc⟩
  refine ⟨hm, ?_⟩
  rcases hw with ⟨key, hw⟩ | ⟨old, new, hw⟩
  · obtain ⟨_, hfile, keys, rfl, -⟩ := hw.file l hl
    obtain rfl : generated keys = c := by simpa [hfile] using hetc
    exact .inl ⟨key, keys, hw, hc⟩
  · obtain ⟨_, hfile, rfl⟩ := hw.bothKeys.file l hl
    obtain rfl : generated [new, old] = c := by simpa [hfile] using hetc
    exact .inr ⟨old, new, hw, hc⟩

theorem spec_withNewKey : (rotationFrame hosts).Spec (Adding hosts)
    .uploadEncryptionConfigurationWithNewKey (Changing hosts) := by
  refine spec_of_exec rfl nofun steady_adding fun ch w m hw hg => ?_
  show (rotationFrame hosts).Ends _ _ (uploadEncryptionConfigurationWithNewKey hosts ch w m)
  unfold uploadEncryptionConfigurationWithNewKey
  split_ifs
  · obtain ⟨key, keys, hone, hc, hlast⟩ := hw.oneKey hg
    have hm := hw.1
    unfold uploadRotated
    rw [hc]
    simp only [withNewKey_generated hlast, orFault]
    refine hone.push (hm.addFile _ _ _).name (Function.update_self ..) (fun w' hw' => ?_)
      fun w' hw' => ?_
    · refine ⟨hm.addFile _ _ _, .inl ⟨key, [ch.key, key], ?_, rfl⟩⟩
      exact hw'.mono (by rintro c (hc | hc); exacts [hc, ⟨_, hc, by simp⟩]) (fun _ h => h)
        fun _ h => h
    · exact ⟨hm.addFile _ _ _, key, ch.key, .inl hw', rfl⟩
  · exact hw

theorem spec_restart_changing : (rotationFrame hosts).Spec (Changing hosts) .restartKubeAPIServer
    (Rewriting hosts) := by
  refine spec_of_exec rfl nofun steady_changing fun ch w m ⟨hm, old, new, hw, hc⟩ hg => ?_
  refine ends_finish ⟨hm, old, new, hw.restart ch, hc⟩ fun hok => ⟨hm, old, new, ?_, hc⟩
  exact hw.bothKeys.restart_done bothKeys_writes hg hok

theorem spec_rewrite : (rotationFrame hosts).Spec (Rewriting hosts) .rewriteClusterSecrets
    (Dropping hosts) := by
  refine spec_of_exec rfl nofun steady_rewriting fun ch w m ⟨hm, old, new, hw, hc⟩ _ => ?_
  have himp : ∀ s : Seal, s = .aescbc new → Under [new, old] s := fun _ => under_of_mem (by simp)
  refine ends_finish ⟨hm, old, new, hw.rewrite himp ch, hc⟩ fun hok => ⟨hm, new, [old], ?_, hc⟩
  exact oneKey_of_bothKeys (hw.rewrite_done himp hok) (by simp) (fun _ h => h)
    fun _ => under_of_mem (by simp)

theorem spec_withoutOldKey : (rotationFrame hosts).Spec (Dropping hosts)
    .uploadEncryptionConfigurationWithoutOldKey (Rotated hosts) := by
  refine spec_of_exec rfl nofun steady_dropping fun ch w m ⟨hm, key, keys, hw, hc⟩ _ => ?_
  show (rotationFrame hosts).Ends _ _ (uploadRotated hosts _ ch w m)
  unfold uploadRotated
  rw [hc]
  simp only [removeOldKey_generated, orFault]
  refine hw.push (hm.addFile _ _ _).name (Function.update_self ..) (fun w' hw' => ?_)
    fun w' hw' => ⟨key, hw'⟩
  refine ⟨hm.addFile _ _ _, key, [], ?_, rfl⟩
  exact hw'.mono (by rintro c (hc | hc); exacts [hc, ⟨_, hc, by simp⟩]) (fun _ h => h) fun _ h => h

theorem spec_restart_rotated : (rotationFrame hosts).Spec (Rotated hosts) .restartKubeAPIServer
    (Rotated hosts) := by
  refine spec_of_exec rfl nofun steady_rotated fun ch w m ⟨key, hw⟩ _ => ?_
  have hrestart : Rotated hosts (restartAll ch hosts.controlPlane w).1 m :=
    ⟨key, (hw.restart (by rintro _ rfl; exact ⟨.aescbc key, rfl, rfl⟩) ch).mono (fun _ h => h)
      (by simp) fun _ h => h⟩
  exact ends_finish hrestart fun _ => hrestart

theorem valid_rotateKey : (rotationFrame hosts).Valid
    (fun w m => Rotating hosts w ∧ m.cluster.custom = none) (withRotateKey []) (Rotated hosts) := by
  have hop := fun op => spec_operation (F := rotationFrame hosts) rfl
    (steady_rotating (P := fun m => m.cluster.custom = none)) op
  refine .cons (hop .determineHostname) (.cons (hop .determineOS) (.cons
    (spec_runProbes rfl steady_rotating (fun w hw h => hw.flag)
      fun m m' hcluster _ hm => hcluster ▸ hm) ?_))
  refine Frame.Valid.weaken (P := fun w m => Rotating hosts w ∧ Prepared hosts m) ?_
    fun w m ⟨hw, hcustom, _, hlive, hleader⟩ => ⟨hw, by simp [hcustom], hlive, hleader⟩
  exact .cons (spec_operation rfl steady_rotating .safeguard) (.cons spec_fetch
    (.cons spec_withNewKey (.cons spec_restart_changing (.cons spec_rewrite
      (.cons spec_withoutOldKey (.cons spec_restart_rotated
        (.nil steady_rotated fun _ _ hw => hw)))))))

theorem startable_rotation : (rotationFrame hosts).Startable (Rotated hosts) := by
  intro w m hw hstart
  have hsteady : (rotationFrame hosts).Steady fun w m =>
      Rotating hosts w ∧ m.options.rotateEncryptionKey = true := steady_rotating
  have hop := fun op => spec_operation (F := rotationFrame hosts) rfl hsteady op
  refine (Frame.Valid.cons (hop .determineHostname) (.cons (hop .determineOS) (.cons
    (spec_runProbes rfl hsteady (fun w hw h => hw.flag) fun m m' _ hoptions hm => hoptions ▸ hm)
    ((Frame.Valid.cons (hop .safeguard) (valid_runApply rfl hsteady ?_)).weaken
      fun w m hw => ⟨hw.1, hw.2.1⟩)))).weaken (by rintro _ _ ⟨rfl, rfl⟩; exact ⟨hw, hstart⟩)
  rintro ch w m more ⟨hw, hrotate⟩ - hx
  rw [Decided, if_pos hrotate] at hx
  obtain ⟨hcustom, rfl⟩ := hx
  exact ⟨_, ⟨hw, hcustom⟩, valid_rotateKey⟩

/-- Along every history of rotations whose steps meet the condition, however the runs are
stopped and retried and whatever Secrets are written meanwhile, every stored Secret can be read
with the file of every control plane node. -/
theorem rotation_keeps_secrets_readable {key : Key} (hw : FreshlyGenerated hosts key w)
    {es : List (Event (Memory H) (Choice H) (Request H))}
    {c : Machine (World H) (Memory H) (Task H)}
    (hrun : (engine hosts).run ⟨w, none⟩ es = some c)
    (hmeets : (engine hosts).Meets (rotationGuard hosts) ⟨w, none⟩ es) : Readable hosts c.world :=
  (startable_rotation.run hw.rotating hrun hmeets).1.readable

/-- A rotation that finishes after such a history leaves one key: the file of every control plane
node holds it alone, every API server writes with it, and no Secret is under another one. -/
theorem finished_rotation_leaves_one_key (hw : FreshlyGenerated hosts key w)
    {es : List (Event (Memory H) (Choice H) (Request H))}
    {c : Machine (World H) (Memory H) (Task H)} {p : Running (Memory H) (Task H)}
    (hrun : (engine hosts).run ⟨w, none⟩ es = some c)
    (hmeets : (engine hosts).Meets (rotationGuard hosts) ⟨w, none⟩ es)
    (hp : c.process = some p) (hdone : p.todo = []) : Rotated hosts c.world p.memory :=
  (startable_rotation.run hw.rotating hrun hmeets).2 p hp hdone

namespace SingleNode

def single : Hosts Unit := ⟨[()], 0⟩

def oldKey : Key := ⟨"kubeone-old", "b2xk"⟩

def newKey : Key := ⟨"kubeone-new", "bmV3"⟩

def newerKey : Key := ⟨"kubeone-newer", "bmV3ZXI="⟩

/-- The node runs with the configuration of the file `f`, under whose key one Secret is
stored. -/
def encryptedBy (f : ProvidersFile) : World Unit where
  nodes _ :=
    { workDir := fun _ => none
      etc := fun g => if g = f then some (.config (newEncryptionProvidersConfig oldKey)) else none
      apiServer :=
        ⟨some f, some (.encrypted (newEncryptionProvidersConfig oldKey) (.aescbc oldKey))⟩ }
  secrets := [⟨"default/token", .aescbc oldKey⟩]
  kubeadmConfig := some f

theorem encryptedBy_freshlyGenerated : FreshlyGenerated single oldKey (encryptedBy .default) :=
  ⟨fun _ _ => rfl, fun _ _ => rfl, by simp [World.Stored, encryptedBy]⟩

def rotate : Event (Memory Unit) (Choice Unit) (Request Unit) :=
  .start (.init ⟨some ⟨true, none⟩, false⟩ ⟨true, true⟩)

/-- As many attempts that succeed, with the key for a new configuration and the log of the API
server. -/
def attempts (n : ℕ) (key : Key) (restart : Restart) :
    List (Event (Memory Unit) (Choice Unit) (Request Unit)) :=
  .replicate n (.attempt
    { key := key
      restart := fun _ => restart
      lister := some ()
      getter := fun _ => some ()
      updater := fun _ => some () })

theorem clean_rotation_readable : ∃ c,
    (engine single).run ⟨encryptedBy .default, none⟩ (rotate :: attempts 15 newKey .logged) =
        some c ∧
      c.process.any (·.todo.isEmpty) = true ∧ Readable single c.world := by
  have hmeets : (engine single).Meets (rotationGuard single) ⟨encryptedBy .default, none⟩
      (rotate :: attempts 15 newKey .logged) := by decide
  exact ⟨_, rfl, rfl, rotation_keeps_secrets_readable encryptedBy_freshlyGenerated rfl hmeets⟩

theorem clean_rotation_leaves_one_key : ∃ c m,
    (engine single).run ⟨encryptedBy .default, none⟩ (rotate :: attempts 15 newKey .logged) =
        some c ∧ Rotated single c.world m := by
  have hmeets : (engine single).Meets (rotationGuard single) ⟨encryptedBy .default, none⟩
      (rotate :: attempts 15 newKey .logged) := by decide
  exact ⟨_, _, rfl,
    finished_rotation_leaves_one_key encryptedBy_freshlyGenerated rfl hmeets rfl rfl⟩

/-- A rotation of an API server with a quiet log drops the key that the Secret is under, and
so does a second rotation after the first was stopped behind its restart. -/
theorem rotation_loses_secrets : FreshlyGenerated single oldKey (encryptedBy .default) ∧
    (∃ c, (engine single).run ⟨encryptedBy .default, none⟩
      (rotate :: attempts 14 newKey .quiet) = some c ∧ ¬ Readable single c.world) ∧
    ∃ c, (engine single).run ⟨encryptedBy .default, none⟩
      (rotate :: attempts 13 newKey .logged ++ .stop :: rotate :: attempts 11 newerKey .logged) =
        some c ∧ ¬ Readable single c.world :=
  ⟨encryptedBy_freshlyGenerated, ⟨_, rfl, by decide⟩, ⟨_, rfl, by decide⟩⟩

end SingleNode

end KubeOne.Encryption
