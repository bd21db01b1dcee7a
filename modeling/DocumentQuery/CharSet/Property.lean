import DocumentQuery.CharSet.Age
import DocumentQuery.CharSet.Casing
import DocumentQuery.CharSet.ScriptExtension
import DocumentQuery.CharSet.Segment

/-! Properties of characters by their names. A name is compared loosely, and stands
for a property by itself or with a value.
-/

set_option autoImplicit false

namespace DocumentQuery.CharSet

/-- A name with only what counts in comparing names of properties: case, blanks, hyphens and
underscores do not, nor does a leading `is`. -/
def looseName (name : String) : String :=
  let isPrefixed := (name.toList.take 2).map Char.toLower == ['i', 's']
  let rest := if isPrefixed then name.toList.drop 2 else name.toList
  let kept := rest.filter fun c => c != ' ' && c != '_' && c != '-' && c.toNat < 128
  let loose := String.ofList (kept.map Char.toLower)
  -- The category `C` is not meant by `isc`, which is a property of its own.
  if isPrefixed && loose == "c" then "isc" else loose

def binary? : String → Option CharSet
  | "alphabetic" | "alpha" => some Trait.alphabetic
  | "asciihexdigit" | "ahex" => some Trait.asciiHexDigit
  | "bidicontrol" | "bidic" => some Trait.bidiControl
  | "bidimirrored" | "bidim" => some Trait.bidiMirrored
  | "caseignorable" | "ci" => some (unions [Category.nonspacingMark, Category.enclosingMark,
      Category.format, Category.modifierLetter, Category.modifierSymbol, Word.midLetter,
      Word.midLetterNumber, spans "27"])
  | "cased" => some Casing.cased
  | "changeswhencasefolded" | "cwcf" => some Casing.changesCasefolded
  | "changeswhencasemapped" | "cwcm" => some Casing.changesCasemapped
  | "changeswhenlowercased" | "cwl" => some Casing.changesLowercased
  | "changeswhentitlecased" | "cwt" => some Casing.changesTitlecased
  | "changeswhenuppercased" | "cwu" => some Casing.changesUppercased
  | "dash" => some Trait.dash
  | "defaultignorablecodepoint" | "di" => some Trait.defaultIgnorable
  | "deprecated" | "dep" => some Trait.deprecated
  | "diacritic" | "dia" => some Trait.diacritic
  | "emoji" => some Emoji.emoji
  | "emojicomponent" | "ecomp" => some Emoji.component
  | "emojimodifier" | "emod" => some Emoji.modifier
  | "emojimodifierbase" | "ebase" => some Emoji.modifierBase
  | "emojipresentation" | "epres" => some Emoji.presentation
  | "extendedpictographic" | "extpict" => some Emoji.pictographic
  | "extender" | "ext" => some Trait.extender
  | "graphemebase" | "grbase" => some Trait.graphemeBase
  | "graphemeextend" | "grext" => some Trait.graphemeExtend
  | "graphemelink" | "grlink" => some Trait.graphemeLink
  | "hexdigit" | "hex" => some Trait.hexDigit
  | "hyphen" => some Trait.hyphen
  | "idcompatmathcontinue" => some Trait.compatMathContinue
  | "idcompatmathstart" => some Trait.compatMathStart
  | "idcontinue" | "idc" => some Trait.idContinue
  | "ideographic" | "ideo" => some Trait.ideographic
  | "idstart" | "ids" => some Trait.idStart
  | "idsbinaryoperator" | "idsb" => some Trait.binaryDescription
  | "idstrinaryoperator" | "idst" => some Trait.trinaryDescription
  | "idsunaryoperator" | "idsu" => some Trait.unaryDescription
  | "joincontrol" | "joinc" => some Trait.joinControl
  | "logicalorderexception" | "loe" => some Trait.logicalOrderException
  | "lowercase" | "lower" => some Trait.lowercase
  | "math" => some Trait.math
  | "modifiercombiningmark" | "mcm" => some Trait.modifierCombiningMark
  | "noncharactercodepoint" | "nchar" => some Trait.noncharacter
  | "otheralphabetic" | "oalpha" => some Trait.otherAlphabetic
  | "otherdefaultignorablecodepoint" | "odi" => some Trait.otherDefaultIgnorable
  | "othergraphemeextend" | "ogrext" => some Trait.otherGraphemeExtend
  | "otheridcontinue" | "oidc" => some Trait.otherIdContinue
  | "otheridstart" | "oids" => some Trait.otherIdStart
  | "otherlowercase" | "olower" => some Trait.otherLowercase
  | "othermath" | "omath" => some Trait.otherMath
  | "otheruppercase" | "oupper" => some Trait.otherUppercase
  | "patternsyntax" | "patsyn" => some Trait.patternSyntax
  | "patternwhitespace" | "patws" => some Trait.patternWhiteSpace
  | "prependedconcatenationmark" | "pcm" => some Trait.prependedConcatenationMark
  | "quotationmark" | "qmark" => some Trait.quotationMark
  | "radical" => some Trait.radical
  | "regionalindicator" | "ri" => some Trait.regionalIndicator
  | "sentenceterminal" | "sterm" => some Trait.sentenceTerminal
  | "softdotted" | "sd" => some Trait.softDotted
  | "terminalpunctuation" | "term" => some Trait.terminalPunctuation
  | "unifiedideograph" | "uideo" => some Trait.unifiedIdeograph
  | "uppercase" | "upper" => some Trait.uppercase
  | "variationselector" | "vs" => some Trait.variationSelector
  | "whitespace" | "wspace" | "space" => some Trait.whiteSpace
  | "xidcontinue" | "xidc" => some Trait.xidContinue
  | "xidstart" | "xids" => some Trait.xidStart
  | _ => none

/-- The characters of a property, category or script given by its name alone. -/
def named? (name : String) : Option CharSet :=
  let loose := looseName name
  binary? loose <|> Category.find? loose <|> Script.find? loose

/-- The characters of a property given by a name and a value. -/
def valued? (name value : String) : Option CharSet :=
  let value := looseName value
  match looseName name with
  | "age" => Age.find? value
  | "gc" | "generalcategory" => Category.find? value
  | "gcb" | "graphemeclusterbreak" => Grapheme.find? value
  | "sb" | "sentencebreak" => Sentence.find? value
  | "sc" | "script" => Script.find? value
  | "scx" | "scriptextensions" => ScriptExtension.find? value
  | "wb" | "wordbreak" => Word.find? value
  | _ => none

end DocumentQuery.CharSet
