import Descent.Unicode.Ranges

/-!
# Sets with names

Sets of characters are asked for by name. A name is written here in lower case, and without spaces,
hyphens and underscores, which do not count in names.
-/

namespace Descent.Unicode

/-- The table of a set of characters, with the names of the set. -/
structure NamedRanges where
  /-- The names, in lower case and without separators. -/
  names : List String
  /-- The code points of the set. -/
  ranges : Ranges

/-- A set of characters with its names. -/
structure NamedSet where
  /-- The names, in lower case and without separators. -/
  names : List String
  /-- The characters. -/
  set : CharSet

/-- The table with the given name. -/
def tableNamed? (tables : List NamedRanges) (name : String) : Option NamedRanges :=
  tables.find? (·.names.contains name)

/-- The set with the given name. -/
def setNamed? (sets : List NamedSet) (name : String) : Option CharSet :=
  (sets.find? (·.names.contains name)).map (·.set)

end Descent.Unicode
