import PolyMatrix.Notice
import PolyMatrix.Text.Blank
import PolyMatrix.Text.LowerCase

/-!
# Verbosity

How much is shown is chosen by the name of a level.  Case and blanks around the
name do not matter.
-/

namespace PolyMatrix
namespace Level

/-- The level that a name in lower case stands for. -/
def ofName? (name : String) : Option Level :=
  if name = "debug" then some debug
  else if name = "info" then some info
  else if name = "warn" then some warning
  else if name = "error" then some error
  else if name = "off" ∨ name = "none" then some off
  else none

/-- Reads the name of a level. -/
def parse (source : String) : Except Fault Level :=
  let name := String.ofList (Text.lower (Text.trim source.toList))
  match ofName? name with
  | some level => .ok level
  | none => .error (.unknownLevel name)

/-- Reads the name of a level if there is one. -/
def parseOrStandard : Option String → Except Fault Level
  | some source => parse source
  | none => .ok info

end Level
end PolyMatrix
