/-! What the program tells of itself. A command line may ask for help or for the version
instead of giving a command, and then nothing is run. -/
namespace Fanout

def version : String := "0.1.0"

namespace Console

/-- Why a command line asks for nothing to be run. -/
inductive Stop where
  | help
  | version
  /-- The command line is not understood. -/
  | misuse
  deriving DecidableEq, Repr

/-- The name of the program and its version. -/
def versionLine : String := "gridcast " ++ version ++ "\n"

end Console

end Fanout
