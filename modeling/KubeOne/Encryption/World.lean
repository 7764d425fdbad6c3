import KubeOne.Encryption.Config

/-! The part of a cluster that the encryption tasks work on. A control plane node holds files in
the work directory and in the directory of the API server, and runs an API server with a flag and
the configuration it has read at its last start. -/

namespace KubeOne.Encryption

inductive ProvidersFile where
  | default
  | custom
  deriving DecidableEq

def ProvidersFile.name : ProvidersFile → String
  | .default => "encryption-providers.yaml"
  | .custom => "custom-encryption-providers.yaml"

inductive Document where
  | config (c : EncryptionConfiguration)
  | malformed

abbrev Directory := ProvidersFile → Option Document

/-- What a running API server does with Secrets. -/
inductive Backend where
  | unencrypted
  | encrypted (c : EncryptionConfiguration) (first : Seal)

namespace Backend

def writes : Backend → Seal
  | .unencrypted => .plain
  | .encrypted _ first => first

def opens : Backend → Seal → Bool
  | .unencrypted, s => s = .plain
  | .encrypted c _, s => c.opens s

end Backend

/-- The API server of a node: the file its flag names, and what it does with
Secrets, or nothing when it has failed to start. -/
structure APIServer where
  flag : Option ProvidersFile
  backend : Option Backend

structure Node where
  workDir : Directory
  etc : Directory
  apiServer : APIServer

namespace Node

def boot (n : Node) (flag : Option ProvidersFile) : Node :=
  { n with apiServer :=
    { flag := flag
      backend :=
        match flag with
        | none => some .unencrypted
        | some f =>
          match n.etc f with
          | some (.config c) => c.writes.map (.encrypted c)
          | _ => none } }

def fileOpens (n : Node) (f : ProvidersFile) (s : Seal) : Bool :=
  match n.etc f with
  | some (.config c) => c.opens s
  | _ => false

end Node

structure Secret where
  name : String
  stored : Seal
  deriving DecidableEq

/-- A cluster with hosts of the type `H`. The flag in the stored kubeadm
configuration is the one that an upgrade gives to an API server. -/
structure World (H : Type*) where
  nodes : H → Node
  secrets : List Secret
  kubeadmConfig : Option ProvidersFile

variable {H : Type*}

namespace World

def setNode [DecidableEq H] (w : World H) (h : H) (n : Node) : World H :=
  { w with nodes := Function.update w.nodes h n }

def backend (w : World H) (h : H) : Option Backend := (w.nodes h).apiServer.backend

def store (w : World H) (name : String) (s : Seal) : World H :=
  { w with secrets := w.secrets.map fun old => if old.name = name then ⟨name, s⟩ else old }

/-- A request to create or update a Secret at the API server of `h`. An update reads
the stored Secret first. -/
def write (w : World H) (h : H) (name : String) : World H :=
  match w.backend h with
  | none => w
  | some b =>
    match w.secrets.find? (·.name = name) with
    | none => { w with secrets := w.secrets ++ [⟨name, b.writes⟩] }
    | some old => if b.opens old.stored then w.store name b.writes else w

def reads (w : World H) (h : H) (name : String) : Bool :=
  match w.backend h, w.secrets.find? (·.name = name) with
  | some b, some old => b.opens old.stored
  | _, _ => false

end World

/-- The encryption feature in the manifest. No custom configuration is the empty text. -/
structure EncryptionProviders where
  enable : Bool
  customEncryptionConfiguration : Option Document

structure Manifest where
  encryptionProviders : Option EncryptionProviders
  caBundle : Bool

namespace Manifest

def enabled (c : Manifest) : Bool := c.encryptionProviders.any (·.enable)

def custom (c : Manifest) : Option Document :=
  c.encryptionProviders.bind (·.customEncryptionConfiguration)

/-- The file in the flag of the API server that the kubeadm configuration sets. -/
def activateEncryptionProviders (c : Manifest) : Option ProvidersFile :=
  match c.encryptionProviders with
  | some ⟨true, none⟩ => some .default
  | some ⟨true, some _⟩ => some .custom
  | _ => none

end Manifest

structure Options where
  forceUpgrade : Bool
  rotateEncryptionKey : Bool
  deriving DecidableEq

structure LiveEncryption where
  enable : Bool
  custom : Bool
  config : Option EncryptionConfiguration

def LiveEncryption.unknown : LiveEncryption := ⟨false, false, none⟩

/-- The state of a KubeOne process: the manifest and the options it was started
with, the findings of the last probes, the leader they elected, and the generated
files that wait for their upload. -/
structure Memory (H : Type*) where
  cluster : Manifest
  options : Options
  live : LiveEncryption
  leader : Option H
  configuration : Directory

namespace Memory

def init (cluster : Manifest) (options : Options) : Memory H :=
  ⟨cluster, options, .unknown, none, fun _ => none⟩

def addFile (m : Memory H) (f : ProvidersFile) (d : Document) : Memory H :=
  { m with configuration := Function.update m.configuration f (some d) }

def shouldDisableEncryption (m : Memory H) : Bool := !m.cluster.enabled && m.live.enable

def shouldEnableEncryption (m : Memory H) : Bool := m.cluster.enabled && !m.live.enable

def encryptionEnabled (m : Memory H) : Bool := m.cluster.enabled && m.live.enable

def getEncryptionProviderConfigName (m : Memory H) : ProvidersFile :=
  if (m.shouldEnableEncryption && m.cluster.custom.isSome) || m.live.custom then .custom
  else .default

end Memory

theorem World.write_secrets {P : Seal → Prop} {w : World H} {h : H}
    (hw : ∀ b, w.backend h = some b → P b.writes) (hs : ∀ s ∈ w.secrets, P s.stored)
    (name : String) : ∀ s ∈ (w.write h name).secrets, P s.stored := by
  intro s hmem
  unfold World.write at hmem
  split at hmem
  · exact hs s hmem
  · rename_i b hb
    split at hmem
    · rcases List.mem_append.mp hmem with hold | hnew
      · exact hs s hold
      · rw [List.mem_singleton.mp hnew]
        exact hw b hb
    · split_ifs at hmem
      · obtain ⟨old, hold, rfl⟩ := List.mem_map.mp hmem
        split_ifs
        · exact hw b hb
        · exact hs old hold
      · exact hs s hmem

@[simp] theorem World.write_nodes (w : World H) (h : H) (name : String) :
    (w.write h name).nodes = w.nodes := by
  unfold World.write
  split
  · rfl
  · split
    · rfl
    · split_ifs <;> rfl

@[simp] theorem World.write_kubeadmConfig (w : World H) (h : H) (name : String) :
    (w.write h name).kubeadmConfig = w.kubeadmConfig := by
  unfold World.write
  split
  · rfl
  · split
    · rfl
    · split_ifs <;> rfl

end KubeOne.Encryption
