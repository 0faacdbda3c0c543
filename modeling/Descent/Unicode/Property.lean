import Descent.Unicode.Folding
import Descent.Unicode.Property.AToF
import Descent.Unicode.Property.Casing
import Descent.Unicode.Property.GToZ
import Descent.Unicode.Word

/-!
# Binary properties

The properties that a character has or has not. Some are listed; the others are made of these and of
the general categories.
-/

namespace Descent.Unicode

/-! ### Letters and case -/

/-- Small letters. -/
def lowercase : CharSet :=
  setOfTables [lowercaseLetters, otherLowercase]

/-- Capital letters. -/
def uppercase : CharSet :=
  setOfTables [uppercaseLetters, otherUppercase]

/-- Characters that have a case. -/
def cased : CharSet :=
  .union (.union lowercase uppercase) titlecaseLetters.toSet

/-- Characters that do not separate letters where case depends on what stands around. -/
def caseIgnorable : CharSet :=
  setOfTables [nonspacingMarks, enclosingMarks, formatControls, modifierLetters, modifierSymbols,
    [(0x27, 0x27), (0x2e, 0x2e), (0x3a, 0x3a), (0xb7, 0xb7), (0x387, 0x387), (0x55f, 0x55f),
      (0x5f4, 0x5f4), (0x2018, 0x2019), (0x2024, 0x2024), (0x2027, 0x2027), (0xfe13, 0xfe13),
      (0xfe52, 0xfe52), (0xfe55, 0xfe55), (0xff07, 0xff07), (0xff0e, 0xff0e), (0xff1a, 0xff1a)]]

/-- Characters that are another one in lower case. Cherokee is folded to its capitals. -/
def changesWhenLowercased : CharSet :=
  .union (.inter foldedCharacters (.union uppercase titlecaseLetters.toSet))
    (Ranges.toSet [(0x130, 0x130), (0x13a0, 0x13f5)])

/-- Characters that are another one in upper case. -/
def changesWhenUppercased : CharSet :=
  .union (.diff charactersWithVariants uppercase) expandedByUppercase.toSet

/-- Characters that are another one in title case. -/
def changesWhenTitlecased : CharSet :=
  .union
    (.diff changesWhenUppercased
      (setOfTables [titlecaseLetters, [(0x10d0, 0x10fa), (0x10fd, 0x10ff)]]))
    (Ranges.toSet [(0x1c4, 0x1c4), (0x1c7, 0x1c7), (0x1ca, 0x1ca), (0x1f1, 0x1f1)])

/-- Characters that are another one in some case. -/
def changesWhenCasemapped : CharSet :=
  .union charactersWithVariants (setOfTables [expandedByUppercase, [(0x130, 0x130)]])

/-- Characters that full case folding changes. -/
def changesWhenCasefolded : CharSet :=
  .union
    (.diff foldedCharacters (Ranges.toSet [(0x1fbe, 0x1fbe), (0x1fd3, 0x1fd3), (0x1fe3, 0x1fe3)]))
    expandedByFolding.toSet

/-! ### Identifiers -/

/-- Characters that patterns keep for themselves. -/
def patternCharacters : CharSet :=
  setOfTables [patternSyntax, patternBlanks]

/-- Characters that may begin an identifier. -/
def idStart : CharSet :=
  .diff (.union letters (setOfTables [letterNumbers, otherIdStart])) patternCharacters

/-- Characters that may be part of an identifier. -/
def idContinue : CharSet :=
  .diff
    (.union idStart (setOfTables [nonspacingMarks, spacingMarks, decimalDigits,
      connectorPunctuation, otherIdContinue]))
    patternCharacters

/-- Characters that compatibility mappings turn into something that is no part of an identifier. -/
def mappedOutOfIdentifiers : Ranges := [
  (0x37a, 0x37a), (0x309b, 0x309c), (0xfc5e, 0xfc63), (0xfdfa, 0xfdfb), (0xfe70, 0xfe70),
  (0xfe72, 0xfe72), (0xfe74, 0xfe74), (0xfe76, 0xfe76), (0xfe78, 0xfe78), (0xfe7a, 0xfe7a),
  (0xfe7c, 0xfe7c), (0xfe7e, 0xfe7e)]

/-- Characters that may begin an identifier also after compatibility mappings. -/
def xidStart : CharSet :=
  .diff idStart
    (setOfTables [mappedOutOfIdentifiers, [(0xe33, 0xe33), (0xeb3, 0xeb3), (0xff9e, 0xff9f)]])

/-- Characters that may be part of an identifier also after compatibility mappings. -/
def xidContinue : CharSet :=
  .diff idContinue mappedOutOfIdentifiers.toSet

/-! ### Other properties -/

/-- Characters that belong to the one before them. -/
def graphemeExtend : CharSet :=
  setOfTables [nonspacingMarks, enclosingMarks, otherGraphemeExtend]

/-- Characters that others may belong to. -/
def graphemeBase : CharSet :=
  .diff assigned
    (.union graphemeExtend (.union controlGroup (setOfTables [lineSeparators,
      paragraphSeparators])))

/-- Characters to be ignored where they cannot be shown. -/
def defaultIgnorable : CharSet :=
  .diff (setOfTables [otherDefaultIgnorable, formatControls, variationSelectors])
    (setOfTables [blanks, [(0xfff9, 0xfffb), (0x13430, 0x13440)], prependedMarks])

/-- Mathematical characters. -/
def mathematical : CharSet :=
  setOfTables [mathSymbols, otherMath]

/-! ### Names -/

/-- The properties that are not just listed, by name. -/
def derivedProperties : List NamedSet := [
  ⟨["alpha", "alphabetic"], alphabetic⟩,
  ⟨["cased"], cased⟩,
  ⟨["ci", "caseignorable"], caseIgnorable⟩,
  ⟨["cwcf", "changeswhencasefolded"], changesWhenCasefolded⟩,
  ⟨["cwcm", "changeswhencasemapped"], changesWhenCasemapped⟩,
  ⟨["cwkcf", "changeswhennfkccasefolded"],
    .union changesWhenCasefolded changedByCompatibility.toSet⟩,
  ⟨["cwl", "changeswhenlowercased"], changesWhenLowercased⟩,
  ⟨["cwt", "changeswhentitlecased"], changesWhenTitlecased⟩,
  ⟨["cwu", "changeswhenuppercased"], changesWhenUppercased⟩,
  ⟨["di", "defaultignorablecodepoint"], defaultIgnorable⟩,
  ⟨["grbase", "graphemebase"], graphemeBase⟩,
  ⟨["grext", "graphemeextend"], graphemeExtend⟩,
  ⟨["idc", "idcontinue"], idContinue⟩,
  ⟨["ids", "idstart"], idStart⟩,
  ⟨["lower", "lowercase"], lowercase⟩,
  ⟨["math"], mathematical⟩,
  ⟨["oalpha", "otheralphabetic"], otherAlphabetic.toSet⟩,
  ⟨["odi", "otherdefaultignorablecodepoint"], otherDefaultIgnorable.toSet⟩,
  ⟨["ogrext", "othergraphemeextend"], otherGraphemeExtend.toSet⟩,
  ⟨["oidc", "otheridcontinue"], otherIdContinue.toSet⟩,
  ⟨["oids", "otheridstart"], otherIdStart.toSet⟩,
  ⟨["olower", "otherlowercase"], otherLowercase.toSet⟩,
  ⟨["omath", "othermath"], otherMath.toSet⟩,
  ⟨["oupper", "otheruppercase"], otherUppercase.toSet⟩,
  ⟨["upper", "uppercase"], uppercase⟩,
  ⟨["wspace", "whitespace", "space"], whiteSpace⟩,
  ⟨["xidc", "xidcontinue"], xidContinue⟩,
  ⟨["xids", "xidstart"], xidStart⟩]

/-- The characters with the binary property of a name. -/
def property? (name : String) : Option CharSet :=
  (setNamed? derivedProperties name).or <|
    ((tableNamed? propertiesAToF name).or (tableNamed? propertiesGToZ name)).map (·.ranges.toSet)

end Descent.Unicode
