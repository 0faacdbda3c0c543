import Descent.Unicode.Age
import Descent.Unicode.Break

/-!
# Asking for a set of characters

A pattern asks for a set of characters by name, as in `\p{Greek}`, or by a property and its value,
as in `\p{script=Greek}`. A name alone is that of a binary property, a general category or a script,
tried in this order; three short names that properties share with categories mean the category.
-/

namespace Descent.Unicode

/-- A name in lower case, without separators and characters outside of ASCII. -/
def plainLetters (name : List Char) : List Char :=
  (name.filter fun c ↦ c.toNat < 128 && c != ' ' && c != '_' && c != '-').map Char.toLower

/-- A name as it is looked up: a leading `is` does not count either, except in `isc`, which would
become the name of a category. -/
def plainName (name : List Char) : String :=
  match name with
  | i :: s :: rest =>
    if i.toLower = 'i' ∧ s.toLower = 's' then
      let rest := plainLetters rest
      String.ofList (if rest = ['c'] then ['i', 's', 'c'] else rest)
    else String.ofList (plainLetters name)
  | name => String.ofList (plainLetters name)

/-- What a pattern asks for. -/
inductive Query where
  /-- The set of a name. -/
  | name (name : List Char)
  /-- The characters for which a property has a value. -/
  | value (key value : List Char)

/-- Splits a text at the first place where the characters of `mark` stand. -/
def splitAt? (mark : List Char) : List Char → Option (List Char × List Char)
  | [] => none
  | c :: cs =>
    if mark.isPrefixOf (c :: cs) then some ([], (c :: cs).drop mark.length)
    else (splitAt? mark cs).map fun (before, behind) ↦ (c :: before, behind)

/-- The query written as a text: a property and its value have `!=`, `:` or `=` between them, which
all mean the same. -/
def Query.ofText (text : List Char) : Query :=
  match (splitAt? ['!', '='] text).or ((splitAt? [':'] text).or (splitAt? ['='] text)) with
  | some (key, rest) => .value key rest
  | none => .name text

/-- The characters assigned up to the version of a name. -/
def assignedBy? (version : String) : Option CharSet :=
  if ages.any (·.names.contains version) then
    let before := ages.takeWhile fun t ↦ !t.names.contains version
    let there := ages.find? (·.names.contains version)
    some (setOfTables ((before ++ there.toList).map (·.ranges)))
  else none

/-- Whether a name is one of those that mean a general category although a property has it, too. -/
def namesCategoryFirst (name : String) : Bool :=
  name == "cf" || name == "sc" || name == "lc"

/-- The set that a query asks for, if there is one. -/
def Query.set? : Query → Option CharSet
  | name text =>
    let name := plainName text
    if namesCategoryFirst name then setNamed? categories name
    else (property? name).or ((setNamed? categories name).or (script? name))
  | value key text =>
    let name := plainName text
    match plainName key with
    | "gc" | "generalcategory" => setNamed? categories name
    | "sc" | "script" => script? name
    | "scx" | "scriptextensions" => scriptExtension? name
    | "age" => assignedBy? name
    | "gcb" | "graphemeclusterbreak" => setNamed? graphemeBreaks name
    | "wb" | "wordbreak" => setNamed? wordBreaks name
    | "sb" | "sentencebreak" => setNamed? sentenceBreaks name
    | _ => none

end Descent.Unicode
