import LuaBundle.Proofs.Circles
import LuaBundle.Proofs.Discovery

/-! # When a build succeeds

Whether a build succeeds can be told from the files alone: the entry must be one, every literal that
can be reached must lead to one, and no module may reach itself. The tree of a build that succeeded
shows all three. A build that failed stopped at the end of a line of imports, and what it met there
is what is missing; an imported module that cannot be read is not among it, for where files are kept
under normal paths the file that was tested is the file that is read.
-/

namespace LuaBundle.Builder

open Relation (ReflTransGen TransGen)

variable {builder : Builder} {entry : Path} {graph : ModuleGraph} {error : BuildError}
  {start module : String}

end LuaBundle.Builder
