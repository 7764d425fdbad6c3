import Mathlib.Data.String.Basic
import Mathlib.Data.List.Sort

/-! The text of the credentials whose hash restarts pods. Keys and values follow each other without
a separator. -/

namespace KubeOne.Addons

variable (creds creds' : String → String)

/-- What the keys add to the text. -/
def added (keys : List String) : List Char := keys.flatMap fun k => k.toList ++ (creds k).toList

variable {creds creds'}

end KubeOne.Addons
