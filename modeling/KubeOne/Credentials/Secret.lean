import KubeOne.NativeClient.Object
import KubeOne.Process.Client
import KubeOne.Text.Base64

/-! The secrets with the credentials of the cloud provider: how the credentials are looked up, and
which secret is written for the cloud controller. Which writer is used depends on a flag that
defaulting sets. -/

namespace KubeOne.Credentials

open Process (Client Service)
open Text (trimSpace Base64.encode Base64.decode Base64.decodedLen)

inductive Provider
  | aws
  | azure
  | digitalocean
  | gce
  | hetzner
  | kubevirt
  | nutanix
  | openstack
  | equinixmetal
  | vsphere
  | vmwareCloudDirector
  | noProvider
  deriving DecidableEq

/-- For whom credentials are looked up; each type has names of its own for them. -/
inductive CredentialsType
  | universal
  | ccm
  | mc
  | osm
  deriving DecidableEq

def CredentialsType.text : CredentialsType → String
  | .universal => ""
  | .ccm => "CCM"
  | .mc => "MC"
  | .osm => "OSM"

/-- The credentials file and the environment. A name that is not there has the empty text. -/
structure Finder where
  static : String → String
  dynamic : String → String

namespace Finder

def fetch (cf : Finder) (name : String) : String :=
  if cf.static name ≠ "" then cf.static name else cf.dynamic name

def typedKey (typ : CredentialsType) (name : String) : String := typ.text ++ "_" ++ name

def get (cf : Finder) (typ : CredentialsType) (name : String) : String :=
  if typ ≠ .universal ∧ cf.fetch (typedKey typ name) ≠ "" then cf.fetch (typedKey typ name)
  else cf.fetch name

end Finder

abbrev Creds := List (String × String)

structure EnvironmentVariable where
  name : String
  machineControllerName : String := ""

def EnvironmentVariable.target (env : EnvironmentVariable) : String :=
  if env.machineControllerName = "" then env.name else env.machineControllerName

def defaultValidationFunc (creds : Creds) : Except String Unit :=
  match creds.find? fun kv => kv.2 = "" with
  | some (k, _) => .error ("key " ++ k ++ " is required but isn't present")
  | none => .ok ()

def parseCredentialVariables (lookup : String → String) (envVars : List EnvironmentVariable)
    (validationFunc : Creds → Except String Unit) : Except String Creds := do
  let value (env : EnvironmentVariable) := String.ofList (trimSpace (lookup env.name).toList)
  validationFunc (envVars.map fun env => (env.name, value env))
  return envVars.map fun env => (env.target, value env)

def utf8 (s : String) : List UInt8 := s.toList.flatMap String.utf8EncodeChar

def encodeToString (s : String) : String := String.ofList (Base64.encode (utf8 s))

def kubevirtKubeconfigKey : String := "KUBEVIRT_KUBECONFIG"

/-- The credentials of a provider. Some of the others have lookups and checks of their own. -/
def providerCredentials (others : Provider → (String → String) → Except String Creds)
    (provider : Provider) (cf : Finder) (typ : CredentialsType) : Except String Creds :=
  let parse envVars := parseCredentialVariables (cf.get typ) envVars defaultValidationFunc
  match provider with
  | .azure => parse [⟨"ARM_CLIENT_ID", "AZURE_CLIENT_ID"⟩,
      ⟨"ARM_CLIENT_SECRET", "AZURE_CLIENT_SECRET"⟩, ⟨"ARM_TENANT_ID", "AZURE_TENANT_ID"⟩,
      ⟨"ARM_SUBSCRIPTION_ID", "AZURE_SUBSCRIPTION_ID"⟩]
  | .digitalocean => parse [⟨"DIGITALOCEAN_TOKEN", "DO_TOKEN"⟩]
  | .gce => do
    let gsa ← parse [⟨"GOOGLE_CREDENTIALS", "GOOGLE_SERVICE_ACCOUNT"⟩]
    -- machine-controller assumes that its value is encoded twice
    if typ = .mc ∨ typ = .osm then return gsa.map fun kv => (kv.1, encodeToString kv.2)
    else return gsa
  | .hetzner => parse [⟨"HCLOUD_TOKEN", "HZ_TOKEN"⟩]
  | .kubevirt => parse [⟨kubevirtKubeconfigKey, ""⟩]
  | .vsphere => do
    let vscreds ← parse [⟨"VSPHERE_SERVER", "VSPHERE_ADDRESS"⟩,
      ⟨"VSPHERE_USER", "VSPHERE_USERNAME"⟩, ⟨"VSPHERE_PASSWORD", ""⟩]
    return vscreds.map fun kv =>
      if kv.1 = "VSPHERE_ADDRESS" then (kv.1, "https://" ++ kv.2) else kv
  | .noProvider => .ok []
  | provider => others provider (cf.get typ)

structure Secret where
  namespaceName : String
  name : String
  data : List (String × List UInt8) := []
  stringData : List (String × String) := []

abbrev Key := String × String

def Secret.key (secret : Secret) : Key := (secret.namespaceName, secret.name)

/-- What an API server keeps of a secret: the texts replace the data of the same name. -/
def Secret.stored (secret : Secret) (name : String) : Option (List UInt8) :=
  match secret.stringData.lookup name with
  | some text => some (utf8 text)
  | none => secret.data.lookup name

def secretNameCCM : String := "kubeone-ccm-credentials"

def secretNameMC : String := "kubeone-machine-controller-credentials"

def secretNameOSM : String := "kubeone-operating-system-manager-credentials"

def secretNameLegacy : String := "cloud-provider-credentials"

def secretNamespace : String := "kube-system"

def credentialsSecret (secretName : String) (credentials : Creds) : Secret where
  namespaceName := secretNamespace
  name := secretName
  stringData := credentials

def Creds.value (credentials : Creds) (name : String) : String := (credentials.lookup name).getD ""

def cutSlash (s : String) : String :=
  if s.toList.getLast? = some '/' then String.ofList s.toList.dropLast else s

def vsphereSecret (credentials : Creds) : Secret :=
  let vcenterPrefix := cutSlash ((credentials.value "VSPHERE_ADDRESS").replace "https://" "")
  { namespaceName := "kube-system"
    name := "vsphere-ccm-credentials"
    stringData := [(vcenterPrefix ++ ".username", credentials.value "VSPHERE_USERNAME"),
      (vcenterPrefix ++ ".password", credentials.value "VSPHERE_PASSWORD")] }

/-- The decoded kubeconfig fills a buffer that may be longer. -/
def kubevirtSecret (secretName : String) (credentials : Creds) : Secret :=
  let b64 := credentials.value kubevirtKubeconfigKey
  let kubeconfig := match Base64.decode b64.toList with
    | some decoded =>
      decoded ++ List.replicate (Base64.decodedLen (utf8 b64).length - decoded.length) 0
    | none => utf8 b64
  { namespaceName := secretNamespace
    name := secretName
    data := [(kubevirtKubeconfigKey, kubeconfig)] }

def cloudConfigSecret (cloudConfig : String) : Secret where
  namespaceName := "kube-system"
  name := "cloud-config"
  stringData := [("cloud-config", cloudConfig)]

inductive Request
  | deleteSecret (key : Key)
  | createSecret (secret : Secret)
  | getSecret (key : Key)
  | updateSecret (secret : Secret)

inductive ApiError
  | notFound
  | alreadyExists
  | other (message : String)

abbrev Answer (_ : Request) := Except ApiError Unit

abbrev Cluster := Key → Option (String → Option (List UInt8))

abbrev Calls := Client Request Answer String

def Request.effect : Request → Cluster → Cluster
  | .deleteSecret key, s => Function.update s key none
  | .createSecret secret, s => Function.update s secret.key (some secret.stored)
  | .getSecret _, s => s
  | .updateSecret secret, s => Function.update s secret.key (some secret.stored)

/-- A request that succeeds has its effect; one that fails may have had it. -/
def answers : Service Cluster Request Answer := fun r s a t =>
  (a = .ok () ∧ t = r.effect s) ∨ ∃ e, a = .error e ∧ (t = s ∨ t = r.effect s)

def answer (r : Request) (s : Cluster) : Answer r × Cluster :=
  match r with
  | .createSecret secret =>
    if (s secret.key).isSome then (.error .alreadyExists, s) else (.ok (), r.effect s)
  | .deleteSecret key =>
    if (s key).isSome then (.ok (), r.effect s) else (.error .notFound, s)
  | _ => (.ok (), r.effect s)

theorem answers_answer (r : Request) (s : Cluster) : answers r s (answer r s).1 (answer r s).2 := by
  cases r with
  | deleteSecret key =>
    unfold answer
    dsimp only
    split
    · exact .inl ⟨rfl, rfl⟩
    · exact .inr ⟨_, rfl, .inl rfl⟩
  | createSecret secret =>
    unfold answer
    dsimp only
    split
    · exact .inr ⟨_, rfl, .inl rfl⟩
    · exact .inl ⟨rfl, rfl⟩
  | getSecret key => exact .inl ⟨rfl, rfl⟩
  | updateSecret secret => exact .inl ⟨rfl, rfl⟩

def ApiError.wrap (op : String) (key : Key) : String :=
  op ++ " *v1.Secret " ++ key.1 ++ "/" ++ key.2

def deleteIfExists (key : Key) : Calls Unit := do
  match ← Client.call (.deleteSecret key) with
  | .ok () | .error .notFound => return ()
  | .error _ => .fail (ApiError.wrap "deleting" key)

def createOrReplace (secret : Secret) : Calls Unit := do
  match ← Client.call (.createSecret secret) with
  | .ok () => return ()
  | .error .alreadyExists =>
    match ← Client.call (.getSecret secret.key) with
    | .error _ => .fail (ApiError.wrap "getting" secret.key)
    | .ok () =>
      match ← Client.call (.updateSecret secret) with
      | .error _ => .fail (ApiError.wrap "updating" secret.key)
      | .ok () => return ()
  | .error _ => .fail (ApiError.wrap "creating" secret.key)

/-- The one provider of a cluster, and what else its configuration says. -/
structure CloudProviderSpec where
  provider : Provider
  external : Bool := false
  cloudConfig : String := ""

def setDefaultsCloudProvider (spec : CloudProviderSpec) : CloudProviderSpec :=
  if spec.provider ≠ .noProvider ∧ spec.provider ≠ .vmwareCloudDirector then
    { spec with external := true }
  else spec

structure State where
  cloudProvider : CloudProviderSpec
  machineControllerDeploy : Bool
  operatingSystemManagerDeploy : Bool
  /-- The sources of the credentials; the file may not be readable. -/
  finder : Except String Finder

section Ensure

variable (others : Provider → (String → String) → Except String Creds)
  (render : String → Creds → Except String String)

def lift {α : Type} : Except String α → Calls α
  | .ok a => .done a
  | .error e => .fail e

def State.credentials (s : State) (typ : CredentialsType) : Except String Creds :=
  match s.finder with
  | .error e => .error e
  | .ok cf => providerCredentials others s.cloudProvider.provider cf typ

def deleteQueued (s : State) : Calls Unit := do
  deleteIfExists (secretNamespace, secretNameLegacy)
  if s.operatingSystemManagerDeploy then return ()
  else deleteIfExists (secretNamespace, secretNameOSM)

def ensureFor (deploy : Bool) (secretName : String) (creds : Except String Creds) : Calls Unit := do
  if deploy then
    let providerCreds ← lift creds
    createOrReplace (credentialsSecret secretName providerCreds)
  else return ()

/-- The rendered cloud config is the one of the cluster from then on. -/
def ensureCloudConfig (s : State) (ccmCreds : Creds) : Calls String := do
  if s.cloudProvider.cloudConfig ≠ "" then
    let cloudConfig ← lift (render s.cloudProvider.cloudConfig ccmCreds)
    createOrReplace (cloudConfigSecret cloudConfig)
    return cloudConfig
  else return s.cloudProvider.cloudConfig

def ccmSecret (spec : CloudProviderSpec) (ccmCreds : Creds) : Option Secret :=
  if (spec.external ∧ spec.provider ≠ .vsphere) ∨ spec.provider = .gce then
    some (credentialsSecret secretNameCCM ccmCreds)
  else if spec.provider = .vsphere then some (vsphereSecret ccmCreds)
  else if spec.provider = .kubevirt then some (kubevirtSecret secretNameCCM ccmCreds)
  else none

def ensureCCM (s : State) (ccmCreds : Creds) : Calls Unit :=
  match ccmSecret s.cloudProvider ccmCreds with
  | some secret => createOrReplace secret
  | none => return ()

def ensure (s : State) : Calls String := do
  if s.cloudProvider.provider = .noProvider then return s.cloudProvider.cloudConfig
  else
    deleteQueued s
    ensureFor s.machineControllerDeploy secretNameMC (s.credentials others .mc)
    ensureFor s.operatingSystemManagerDeploy secretNameOSM (s.credentials others .osm)
    let ccmCreds ← lift (s.credentials others .ccm)
    let cloudConfig ← ensureCloudConfig render s ccmCreds
    ensureCCM s ccmCreds
    return cloudConfig

end Ensure

section Stored

variable {others : Provider → (String → String) → Except String Creds}
  {render : String → Creds → Except String String}

theorem ends_createOrReplace (secret : Secret) (s : Cluster) :
    (createOrReplace secret).Ends answers
      (fun r t => ∀ a, r = .ok a → t secret.key = some secret.stored) s := by
  have hwritten : ∀ {r : Request} {s t : Cluster},
      r.effect s = Function.update s secret.key (some secret.stored) →
      answers r s (.ok ()) t → t secret.key = some secret.stored := by
    rintro r s t heffect (⟨-, rfl⟩ | ⟨e, he, -⟩)
    · rw [heffect, Function.update_self]
    · cases he
  intro b t hb
  match b with
  | .ok () => exact fun _ _ => hwritten rfl hb
  | .error .alreadyExists =>
    intro b' t' _
    match b' with
    | .error _ => exact fun _ h => nomatch h
    | .ok () =>
      intro b'' t'' hb''
      match b'' with
      | .error _ => exact fun _ h => nomatch h
      | .ok () => exact fun _ _ => hwritten rfl hb''
  | .error .notFound => exact fun _ h => nomatch h
  | .error (.other _) => exact fun _ h => nomatch h

theorem ends_ensure {st : State} {secret : Secret} {creds : Creds} (s : Cluster)
    (hprovider : st.cloudProvider.provider ≠ .noProvider)
    (hcreds : st.credentials others .ccm = .ok creds)
    (hsecret : ccmSecret st.cloudProvider creds = some secret) :
    (ensure others render st).Ends answers
      (fun r t => ∀ a, r = .ok a → t secret.key = some secret.stored) s := by
  have herror : ∀ (e : String) (t : Cluster), ∀ a, (Except.error e : Except String String) = .ok a →
      t secret.key = some secret.stored := fun _ _ _ h => nomatch h
  unfold ensure
  rw [if_neg hprovider]
  refine Client.ends_bind_of_forall herror fun _ _ => ?_
  refine Client.ends_bind_of_forall herror fun _ _ => ?_
  refine Client.ends_bind_of_forall herror fun _ t => ?_
  rw [hcreds]
  refine Client.Ends.bind ?_
  refine Client.ends_bind_of_forall herror fun cloudConfig t => ?_
  refine Client.Ends.bind ?_
  rw [ensureCCM, hsecret]
  refine (ends_createOrReplace secret t).weaken fun r u hr => ?_
  cases r with
  | error e => exact herror e u
  | ok a => exact fun _ _ => hr a rfl

end Stored

end KubeOne.Credentials
