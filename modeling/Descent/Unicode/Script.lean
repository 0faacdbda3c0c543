import Descent.Unicode.Script.AToC
import Descent.Unicode.Script.DToK
import Descent.Unicode.Script.LToO
import Descent.Unicode.Script.PToZ
import Descent.Unicode.Script.Shared

/-!
# Scripts

Every character belongs to one script. The property `Script_Extensions` goes further: a character
that several scripts share has it for each of them.
-/

namespace Descent.Unicode

/-- The table of a script, by one of the script's names. -/
def scriptTable? (name : String) : Option NamedRanges :=
  tableNamed? (scriptsAToC ++ scriptsDToK ++ scriptsLToO ++ scriptsPToZ) name

/-- The characters that belong to the script of a name. -/
def script? (name : String) : Option CharSet :=
  (scriptTable? name).map (·.ranges.toSet)

/-- The characters that are used in the script of a name. -/
def scriptExtension? (name : String) : Option CharSet :=
  (scriptTable? name).map fun t ↦
    let here := sharedCharacters.filter fun shared ↦ shared.2.any t.names.contains
    .union (.diff t.ranges.toSet (Ranges.toSet (sharedCharacters.map (·.1))))
      (Ranges.toSet (here.map (·.1)))

end Descent.Unicode
