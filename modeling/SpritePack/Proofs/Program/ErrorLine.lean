import SpritePack.Program
import SpritePack.Proofs.Log.Showing

namespace SpritePack.Program

/-!
# Lines besides the output

A record starts a line of its own, and a complaint comes behind the log.  So the
first line that does not start a record is the complaint's, unless a name with a
line feed makes some record go on.
-/

namespace ErrorLine

end ErrorLine

end SpritePack.Program
