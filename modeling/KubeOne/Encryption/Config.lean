import Mathlib

/-! Encryption configurations of the API server. A server writes a Secret with the first provider
and reads it with any of them. The random key of a generated configuration is an argument. -/

namespace KubeOne.Encryption

structure Key where
  name : String
  secret : String
  deriving DecidableEq

/-- One provider entry. A valid entry sets exactly one of the provider kinds. -/
inductive ProviderConfiguration where
  | aescbc (keys : List Key)
  | aesgcm (keys : List Key)
  | secretbox (keys : List Key)
  | kms (name endpoint : String)
  | identity
  deriving DecidableEq

structure ResourceConfiguration where
  resources : List String
  providers : List ProviderConfiguration
  deriving DecidableEq

structure EncryptionConfiguration where
  resources : List ResourceConfiguration
  deriving DecidableEq

/-- Why a rewrite does not return: the sanity check, or a run time panic on a list
that is too short or a provider that is not an AES-CBC one. -/
inductive Fault where
  | emptyAESCBC
  | panic

/-- AES-CBC with the keys, then plain text. -/
def generated (keys : List Key) : EncryptionConfiguration :=
  ⟨[⟨["secrets"], [.aescbc keys, .identity]⟩]⟩

def newEncryptionProvidersConfig (key : Key) : EncryptionConfiguration := generated [key]

def updateEncryptionConfigDecryptOnly (config : EncryptionConfiguration) :
    Except Fault EncryptionConfiguration :=
  match config.resources with
  | ⟨names, .aescbc keys :: _⟩ :: rest => .ok ⟨⟨names, [.identity, .aescbc keys]⟩ :: rest⟩
  | ⟨_, _ :: _⟩ :: _ => .error .emptyAESCBC
  | _ => .error .panic

/-- The new key in front of the last of the keys. -/
def updateEncryptionConfigWithNewKey (key : Key) (config : EncryptionConfiguration) :
    Except Fault EncryptionConfiguration :=
  match config.resources with
  | ⟨names, .aescbc keys :: _⟩ :: rest =>
    match keys.getLast? with
    | some last => .ok ⟨⟨names, [.aescbc [key, last], .identity]⟩ :: rest⟩
    | none => .error .panic
  | _ => .error .panic

def updateEncryptionConfigRemoveOldKey (config : EncryptionConfiguration) :
    Except Fault EncryptionConfiguration :=
  match config.resources with
  | ⟨names, .aescbc (key :: _) :: _⟩ :: rest => .ok ⟨⟨names, [.aescbc [key], .identity]⟩ :: rest⟩
  | _ => .error .panic

inductive Seal where
  | plain
  | aescbc (key : Key)
  | aesgcm (key : Key)
  | secretbox (key : Key)
  | kms (name : String)
  deriving DecidableEq

namespace ProviderConfiguration

/-- How the provider stores a Secret; a provider without a key stores none. -/
def writes : ProviderConfiguration → Option Seal
  | .aescbc keys => keys.head?.map .aescbc
  | .aesgcm keys => keys.head?.map .aesgcm
  | .secretbox keys => keys.head?.map .secretbox
  | .kms name _ => some (.kms name)
  | .identity => some .plain

def opens : ProviderConfiguration → Seal → Bool
  | .aescbc keys, .aescbc key => keys.contains key
  | .aesgcm keys, .aesgcm key => keys.contains key
  | .secretbox keys, .secretbox key => keys.contains key
  | .kms name _, .kms other => name = other
  | .identity, .plain => true
  | _, _ => false

end ProviderConfiguration

namespace EncryptionConfiguration

/-- The providers for Secrets: those of the first entry that covers them. -/
def secretsProviders (config : EncryptionConfiguration) : Option (List ProviderConfiguration) :=
  (config.resources.find? fun r =>
    r.resources.any fun name => name = "secrets" || name = "*." || name = "*.*").map
    ResourceConfiguration.providers

/-- How a server with the configuration stores a Secret; nothing when its first
provider cannot, and the server does not start. -/
def writes (config : EncryptionConfiguration) : Option Seal :=
  match config.secretsProviders with
  | none => some .plain
  | some providers => providers.head?.bind ProviderConfiguration.writes

def opens (config : EncryptionConfiguration) (s : Seal) : Bool :=
  match config.secretsProviders with
  | none => s = .plain
  | some providers => providers.any (·.opens s)

end EncryptionConfiguration

def decryptOnly (keys : List Key) : EncryptionConfiguration :=
  ⟨[⟨["secrets"], [.identity, .aescbc keys]⟩]⟩

variable (key : Key) (keys : List Key)

@[simp] theorem decryptOnly_generated :
    updateEncryptionConfigDecryptOnly (generated keys) = .ok (decryptOnly keys) := rfl

@[simp] theorem decryptOnly_decryptOnly :
    updateEncryptionConfigDecryptOnly (decryptOnly keys) = .error .emptyAESCBC := rfl

theorem withNewKey_generated {keys : List Key} {last : Key} (h : keys.getLast? = some last)
    (key : Key) :
    updateEncryptionConfigWithNewKey key (generated keys) = .ok (generated [key, last]) := by
  simp [updateEncryptionConfigWithNewKey, generated, h]

@[simp] theorem removeOldKey_generated :
    updateEncryptionConfigRemoveOldKey (generated (key :: keys)) = .ok (generated [key]) := rfl

open EncryptionConfiguration

@[simp] theorem generated_opens (s : Seal) :
    (generated keys).opens s = true ↔ s = .plain ∨ ∃ key ∈ keys, s = .aescbc key := by
  cases s <;> simp [generated, opens, secretsProviders, ProviderConfiguration.opens]

@[simp] theorem decryptOnly_opens (s : Seal) :
    (decryptOnly keys).opens s = (generated keys).opens s := by
  cases s <;> simp [generated, decryptOnly, opens, secretsProviders, ProviderConfiguration.opens]

end KubeOne.Encryption
