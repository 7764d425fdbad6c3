import KubeOne.Yamled.Context
import Mathlib.Data.List.Infix

/-! What an edit changes in a document. A value is stored in its parent, and the parent in its own
parent, up to the root. Paths that neither lead to the value nor through it read what they read
before. -/

namespace KubeOne.Yamled

open List Option Node Document

section Items

variable {κ α : Type} [DecidableEq κ] {f : κ → String} {key : κ}

end Items

namespace Document

variable {d d' : Document} {path parent p : Path} {leaf : Step} {target t value : Node}

def fresh : Step → Node
  | .index _ => .seq []
  | _ => .goMap []

end Document

end KubeOne.Yamled
