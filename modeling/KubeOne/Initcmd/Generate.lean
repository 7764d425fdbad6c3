import KubeOne.CloudProvider.MachineNames
import KubeOne.Config.Manifest
import KubeOne.Initcmd.Template
import KubeOne.Semver.Version
import KubeOne.Yaml.Block

/-! Generating a manifest. What the template has printed is decoded strictly before it is written,
but what comes out of the decoder is not compared with the cluster. In a field for a text a plain
scalar that YAML reads as something else comes out as the text of that. -/

namespace KubeOne.Initcmd

open Config Config.Types Yamled
open Yaml (Tree isWord readText)

/-- The decoder of `sigs.k8s.io/yaml`, as far as it is known here. -/
structure YamlDecoder where
  /-- The document of a text, with plain scalars as they are written. -/
  compose : String → Option Tree
  /-- What is in a field for a text if the plain scalar is its value. -/
  reads : String → String
  /-- What the plain scalar is for other fields. -/
  resolve : String → Scalar
  compose_of_readText : ∀ text tree, readText text = some tree → compose text = some tree
  reads_of_isWord : ∀ v, isWord v.toList = true → reads v = v
  resolve_true : resolve "true" = .bool true
  resolve_false : resolve "false" = .bool false

def target : Schema → Schema
  | .pointer s => target s
  | s => s

def elementType (s : Schema) : Schema :=
  match target s with
  | .list s => s
  | _ => .raw

def memberType (s : Schema) (key : String) : Schema :=
  match target s with
  | .object fields => (fields.lookup key).getD .raw
  | .map s => s
  | _ => .raw

def isString (s : Schema) : Bool :=
  match target s with
  | .string => true
  | _ => false

section Decode

variable (Y : YamlDecoder) (F : Formats)

mutual

/-- The JSON form of a document for a type. -/
def toNode (s : Schema) : Tree → Node
  | .null => .null
  | .plain t => if isString s then .str (Y.reads t) else .scalar (Y.resolve t)
  | .text t => .str t
  | .seq items => .seq (toNodes (elementType s) items)
  | .map members => ofEntries (toEntries s members)

def toNodes (s : Schema) : List Tree → List Node
  | [] => []
  | t :: rest => toNode s t :: toNodes s rest

def toEntries (s : Schema) : List (String × Tree) → List (String × Node)
  | [] => []
  | (k, t) :: rest => (k, toNode (memberType s k) t) :: toEntries s rest

end

def unmarshalStrict (text : String) : Option Tree :=
  (Y.compose text).filter fun t =>
    accepts F (kubeOneCluster .v1beta2) (toNode Y (kubeOneCluster .v1beta2) t)

def YamlDecoder.text : Tree → String
  | .plain t => Y.reads t
  | .text t => t
  | _ => ""

def YamlDecoder.flag : Tree → Bool
  | .plain t => Y.resolve t = .bool true
  | _ => false

def YamlDecoder.textMap : Tree → List (String × String)
  | .map members => members.map fun m => (m.1, Y.text m.2)
  | _ => []

def optional {α : Type} (read : Tree → α) : Tree → Option α
  | .null => none
  | t => some (read t)

def elements : Tree → List Tree
  | .seq items => items
  | _ => []

def isSet (t : Tree) : Bool := (optional id t).isSome

def readCloudProvider (t : Tree) : CloudProviderSpec where
  external := Y.flag (t.field "external")
  cloudConfig := Y.text (t.field "cloudConfig")
  csiConfig := Y.text (t.field "csiConfig")
  specs := Spec.all.filter fun s => isSet (t.field s.name)

def readCilium (t : Tree) : CiliumSpec where
  enableHubble := Y.flag (t.field "enableHubble")
  kubeProxyReplacement := Y.text (t.field "kubeProxyReplacement")

def readCNI (t : Tree) : CNI where
  canal := isSet (t.field "canal")
  cilium := optional (readCilium Y) (t.field "cilium")
  external := isSet (t.field "external")

def readClusterNetwork (t : Tree) : ClusterNetworkConfig where
  cni := optional (readCNI Y) (t.field "cni")
  kubeProxy := optional (fun t => ⟨Y.flag (t.field "skipInstallation")⟩) (t.field "kubeProxy")

def readFeatures (t : Tree) : Features where
  encryptionProviders := optional (fun t => ⟨Y.flag (t.field "enable")⟩)
    (t.field "encryptionProviders")
  coreDNS := optional (fun t => ⟨optional Y.flag (t.field "deployPodDisruptionBudget")⟩)
    (t.field "coreDNS")

def readDeploy (t : Tree) : DeployConfig := ⟨Y.flag (t.field "deploy")⟩

/-- A Go map has no order. -/
def readAddon (t : Tree) : Apis.V1beta3.Addon where
  name := Y.text (t.field "name")
  params := (Y.textMap (t.field "params")).insertionSort fun p q => p.1 ≤ q.1
  disableTemplating := Y.flag (t.field "disableTemplating")
  delete := Y.flag (t.field "delete")

def readAddons (t : Tree) : Apis.V1beta2.Addons where
  enable := Y.flag (t.field "enable")
  path := Y.text (t.field "path")
  globalParams := Y.textMap (t.field "globalParams")
  addons := (elements (t.field "addons")).map (readAddon Y)

/-! The fields that a cluster has here; nothing is in the specs. -/

def emptySpec : Schema := .pointer (.object [])

def writtenCloudProvider : List (String × Schema) :=
  [("external", .bool), ("cloudConfig", .string), ("csiConfig", .string)] ++
    Spec.all.map fun s => (s.name, emptySpec)

def writtenCilium : List (String × Schema) :=
  [("enableHubble", .bool), ("kubeProxyReplacement", .string)]

def writtenCNI : List (String × Schema) :=
  [("canal", emptySpec), ("cilium", .pointer (.object writtenCilium)), ("external", emptySpec)]

def writtenNetwork : List (String × Schema) :=
  [("cni", .pointer (.object writtenCNI)),
   ("kubeProxy", .pointer (.object [("skipInstallation", .bool)]))]

def writtenFeatures : List (String × Schema) :=
  [("encryptionProviders", .pointer (.object [("enable", .bool)])),
   ("coreDNS", .pointer (.object [("deployPodDisruptionBudget", .pointer .bool)]))]

def writtenAddon : List (String × Schema) := [("name", .string), ("params", .map .string)]

def writtenAddons : List (String × Schema) :=
  [("enable", .bool), ("addons", .list (.object writtenAddon))]

def writtenFields : List (String × Schema) :=
  [("apiVersion", .string), ("kind", .string), ("name", .string),
   ("versions", .object [("kubernetes", .string)]),
   ("cloudProvider", .object writtenCloudProvider),
   ("containerRuntime", .object [("containerd", emptySpec)]),
   ("clusterNetwork", .object writtenNetwork), ("features", .object writtenFeatures),
   ("machineController", .pointer (.object [("deploy", .bool)])),
   ("operatingSystemManager", .pointer (.object [("deploy", .bool)])),
   ("addons", .pointer (.object writtenAddons))]

def readCluster (t : Tree) : KubeOneCluster where
  apiVersion := Y.text (t.field "apiVersion")
  kind := Y.text (t.field "kind")
  name := Y.text (t.field "name")
  cloudProvider := readCloudProvider Y (t.field "cloudProvider")
  kubernetes := Y.text ((t.field "versions").field "kubernetes")
  containerd := isSet ((t.field "containerRuntime").field "containerd")
  clusterNetwork := readClusterNetwork Y (t.field "clusterNetwork")
  features := readFeatures Y (t.field "features")
  machineController := optional (readDeploy Y) (t.field "machineController")
  operatingSystemManager := optional (readDeploy Y) (t.field "operatingSystemManager")
  addons := optional (readAddons Y) (t.field "addons")
  others := !accepts F (.object writtenFields) (toNode Y (kubeOneCluster .v1beta2) t)

def decode (text : String) : Option KubeOneCluster :=
  (unmarshalStrict Y F text).map (readCluster Y F)

def genKubeOneClusterYAML (opts : GenerateOpts) : Except GenerateError String := do
  let cluster ← clusterOf opts
  match unmarshalStrict Y F (manifest cluster) with
  | some _ => return manifest cluster
  | none => throw .unmarshal

end Decode

/-- The library for versions. A text is a version only if it consists of numbers and names, with a
`v` before them or not. -/
structure SemverLibrary where
  newVersion : String → Option Semver.Version
  /-- Whether a version satisfies a constraint. -/
  validate : String → Semver.Version → Bool
  newVersion_chars : ∀ text v, newVersion text = some v → ∃ c cs, text.toList = c :: cs ∧
    (c = 'v' ∨ c.isDigit = true) ∧ ∀ d ∈ cs, Yaml.isPlainChar d = true

def minVersionConstraint : String := ">= 1.35"

def maxVersionConstraint : String := "<= 1.37"

def validateVersionConfig (S : SemverLibrary) (kubernetes : String) : Bool :=
  match S.newVersion kubernetes with
  | none => false
  | some v =>
    kubernetes.toList.head? ≠ some 'v' && S.validate minVersionConstraint v &&
      S.validate maxVersionConstraint v

def clusterNameValidator (name : String) : Bool := CloudProvider.validateName name = []

/-- Leading `v`s are not looked at, but they stay in the answer. -/
def kubernetesVersionValidator (S : SemverLibrary) (version : String) : Bool :=
  validateVersionConfig S (.ofList (version.toList.dropWhile (· = 'v')))

/-- The answers that the validators let pass. A password is required. -/
structure Accepted (S : SemverLibrary) (opts : GenerateOpts) : Prop where
  name : clusterNameValidator opts.clusterName = true
  version : kubernetesVersionValidator S opts.kubernetesVersion = true
  password : opts.enableAddonBackups = true → opts.addonBackupsPassword ≠ ""

end KubeOne.Initcmd
