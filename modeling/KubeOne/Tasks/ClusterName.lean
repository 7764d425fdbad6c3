import KubeOne.Text.Path
import Mathlib.Data.List.Infix

/-! The name under which the cloud controller manager of OpenStack knows the cluster. It is read
from the words of the command, which the probes take apart at equal signs, and from the
environment. -/

namespace KubeOne.Tasks.ClusterName

open Text List

/-- A variable with a value, or with one from elsewhere, which the probes do not see. -/
structure EnvVar where
  name : String
  value : String := ""
  valueFrom : Bool := false

structure Container where
  name : String
  command : List String := []
  args : List String := []
  env : List EnvVar := []

inductive Failure
  | listingPods
  | noContainersFound
  | panics
  deriving DecidableEq

def clusterNameFlag : List Char := "--cluster-name".toList

def reference : String := "$(CLUSTER_NAME)"

/-- What the probes take for the value of a flag: the part between the first two equal signs. -/
def value? (word : String) : Option String := (split '=' word.toList)[1]?.map String.ofList

def Passed (word : String) : Prop := clusterNameFlag <+: word.toList → value? word = some reference

/-- The value is that of a flag, not the reference, behind words that are passed. -/
def Finds (words : List String) (value : String) : Prop :=
  ∃ before word after, words = before ++ word :: after ∧ (∀ w ∈ before, Passed w) ∧
    clusterNameFlag <+: word.toList ∧ value? word = some value ∧ value ≠ reference

/-- The name that the probes read from the controller: the first value in its command that is not
the reference, if there is none its first variable of the name, and otherwise the empty name. The
args are not looked at, and a flag without an equal sign is not passed. -/
inductive Reads (c : Container) : String → Prop
  | word {value : String} (found : Finds c.command value) : Reads c value
  | variable {var : EnvVar} (passed : ∀ w ∈ c.command, Passed w)
      (env : c.env.find? (·.name = "CLUSTER_NAME") = some var) : Reads c var.value
  | nothing (passed : ∀ w ∈ c.command, Passed w)
      (env : c.env.find? (·.name = "CLUSTER_NAME") = none) : Reads c ""

end KubeOne.Tasks.ClusterName
