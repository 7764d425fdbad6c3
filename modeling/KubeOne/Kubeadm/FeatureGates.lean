import KubeOne.Collections.Assoc
import KubeOne.Text.Pairs
import Mathlib.Data.List.Sort
import Mathlib.Data.String.Basic

/-! The feature gates of the control plane components. Kubernetes reads any spelling of a truth
value from the flag; the merge with the gates of the configuration keeps those that are spelled
`true` or `false`. -/

namespace KubeOne.Kubeadm

open Collections Text List

abbrev Gates := List (String × Bool)

def trimmed (cs : List Char) : String := String.ofList (trimSpace cs)

def listed (featureGates : Gates) : Gates :=
  ((featureGates.map Prod.fst).insertionSort (· ≤ ·)).map fun k =>
    (k, (featureGates.lookup k).getD false)

def gate (read : String → Option Bool) (s : List Char) : Option (String × Bool) :=
  (cut '=' s).bind fun kv => (read (trimmed kv.2)).map (trimmed kv.1, ·)

def settings (read : String → Option Bool) (value : List Char) : Gates :=
  (value.splitOn ',').filterMap (gate read)

/-- Names of gates are written and read without a change. -/
structure IsName (k : String) : Prop where
  comma : ',' ∉ k.toList
  equals : '=' ∉ k.toList
  trimmed : trimmed k.toList = k

structure WellFormed (m : Gates) : Prop where
  nodup : (m.map Prod.fst).Nodup
  name : ∀ g ∈ m, IsName g.1

variable {m : Gates}

section Print

variable {read : String → Option Bool} (htrue : read "true" = some true)
  (hfalse : read "false" = some false)

include htrue hfalse

end Print

namespace Gate

end Gate

end KubeOne.Kubeadm
