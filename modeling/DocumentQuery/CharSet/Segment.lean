import DocumentQuery.CharSet.Emoji
import DocumentQuery.CharSet.Trait

/-! How texts divide into what a reader takes for characters, into words and into
sentences: the classes of characters by which Unicode 16.0 tells where they end.
-/

set_option autoImplicit false

namespace DocumentQuery.CharSet

namespace Grapheme

def extend : CharSet := Trait.graphemeExtend.union Emoji.modifier

def prepend : CharSet := .ofLines [
  "600-605 6DD 70F 890-891 8E2 D4E 110BD 110CD 111C2-111C3 113D1 1193F 11941 11A3A 11A84-11A89",
  "11D46 11F02"]

def spacingMarkApart : CharSet := .ofLines [
  "102B-102C 1038 1062-1064 1067-106D 1083 1087-108C 108F 109A-109C 1A61 1A63-1A64 AA7B AA7D",
  "11720-11721"]

def spacingMark : CharSet :=
  (Category.spacingMark.union (spans "E33 EB3")).difference (extend.union spacingMarkApart)

def control : CharSet :=
  (unions [Category.lineSeparator, Category.paragraphSeparator, Category.control, Category.format,
    Category.assigned.complement.intersection Trait.defaultIgnorable]).difference
    (unions [spans "A D 200C-200D E0020-E007F", Trait.prependedConcatenationMark])

def openSyllable : CharSet := spans "AC00-D788/28"

def closedSyllable : CharSet := (interval 0xAC00 0xD7A3).difference openSyllable

def find? : String → Option CharSet
  | "cr" => some (spans "D")
  | "lf" => some (spans "A")
  | "control" | "cn" => some control
  | "extend" | "ex" => some extend
  | "l" => some (spans "1100-115F A960-A97C")
  | "v" => some (spans "1160-11A7 D7B0-D7C6 16D63 16D67-16D6A")
  | "t" => some (spans "11A8-11FF D7CB-D7FB")
  | "lv" => some openSyllable
  | "lvt" => some closedSyllable
  | "prepend" | "pp" => some prepend
  | "regionalindicator" | "ri" => some Trait.regionalIndicator
  | "spacingmark" | "sm" => some spacingMark
  | "zwj" => some (spans "200D")
  | _ => none

end Grapheme

namespace Word

def extend : CharSet :=
  (unions [Trait.graphemeExtend, Category.spacingMark, Emoji.modifier]).difference (spans "200D")

def format : CharSet := .ofLines [
  "AD 61C 180E 200E-200F 202A-202E 2060-2064 2066-206F FEFF FFF9-FFFB 13430-1343F 1BCA0-1BCA3",
  "1D173-1D17A E0001"]

def hebrewLetter : CharSet := .ofLines [
  "5D0-5EA 5EF-5F2 FB1D FB1F-FB28 FB2A-FB36 FB38-FB3C FB3E FB40-FB41 FB43-FB44 FB46-FB4F"]

def katakana : CharSet := .ofLines [
  "3031-3035 309B-309C 30A0-30FA 30FC-30FF 31F0-31FF 32D0-32FE 3300-3357 FF66-FF9D 1AFF0-1AFF3",
  "1AFF5-1AFFB 1AFFD-1AFFE 1B000 1B120-1B122 1B155 1B164-1B167"]

def midLetter : CharSet := .ofLines [
  "3A B7 387 55F 5F4 2027 FE13 FE55 FF1A"]

def midNumber : CharSet := .ofLines [
  "2C 3B 37E 589 60C-60D 66C 7F8 2044 FE50 FE54 FF0C FF1B"]

def midLetterNumber : CharSet := .ofLines [
  "2E 2018-2019 2024 FE52 FF07 FF0E"]

def unspaced : CharSet := .ofLines [
  "E01-E30 E32-E33 E40-E46 E81-E82 E84 E86-E8A E8C-EA3 EA5 EA7-EB0 EB2-EB3 EBD EC0-EC4 EC6",
  "EDC-EDF 1000-102A 103F 1050-1055 105A-105D 1061 1065-1066 106E-1070 1075-1081 108E 1780-17B3",
  "17D7 17DC 1950-196D 1970-1974 1980-19AB 19B0-19C9 1A20-1A54 1AA7 3041-3096 309D-309F A9E0-A9E4",
  "A9E6-A9EF A9FA-A9FE AA60-AA76 AA7A AA7E-AAAF AAB1 AAB5-AAB6 AAB9-AABD AAC0 AAC2 AADB-AADD",
  "11700-1171A 11740-11746 1B001-1B11F 1B132 1B150-1B152"]

def letter : CharSet :=
  (Trait.alphabetic.difference
    (unions [Trait.ideographic, katakana, hebrewLetter, extend, unspaced])).union
    (ofLines ["B8 2C2-2C5 2D2-2D7 2DE-2DF 2E5-2EB 2ED 2EF-2FF 55A-55C 55E 58A 5F3 70F A708-A716",
      "A720-A721 A789-A78A AB5B"])

def numeric : CharSet :=
  Category.decimalNumber.union (spans "600-605 66B 6DD 890-891 8E2 19DA 110BD 110CD")

def find? : String → Option CharSet
  | "cr" => some (spans "D")
  | "lf" => some (spans "A")
  | "newline" | "nl" => some (spans "B-C 85 2028-2029")
  | "aletter" | "le" => some letter
  | "doublequote" | "dq" => some (spans "22")
  | "singlequote" | "sq" => some (spans "27")
  | "extend" => some extend
  | "extendnumlet" | "ex" => some (spans "5F 202F 203F-2040 2054 FE33-FE34 FE4D-FE4F FF3F")
  | "format" | "fo" => some format
  | "hebrewletter" | "hl" => some hebrewLetter
  | "katakana" | "ka" => some katakana
  | "midletter" | "ml" => some midLetter
  | "midnum" | "mn" => some midNumber
  | "midnumlet" | "mb" => some midLetterNumber
  | "numeric" | "nu" => some numeric
  | "regionalindicator" | "ri" => some Trait.regionalIndicator
  | "wsegspace" => some (spans "20 1680 2000-2006 2008-200A 205F 3000")
  | "zwj" => some (spans "200D")
  | _ => none

end Word

namespace Sentence

def extend : CharSet := unions [Trait.graphemeExtend, Category.spacingMark, spans "200D"]

def upper : CharSet :=
  (Trait.uppercase.union Category.titlecaseLetter).difference (spans "1C90-1CBA 1CBD-1CBF")

def lower : CharSet :=
  Trait.lowercase.difference (Trait.graphemeExtend.union (spans "10D0-10FA 10FD-10FF"))

def otherLetter : CharSet :=
  (Trait.alphabetic.union (spans "5F3")).difference (unions [lower, upper, extend])

def ambiguousTerminal : CharSet := spans "2E 2024 FE52 FF0E"

def close : CharSet :=
  unions [Category.openPunctuation, Category.closePunctuation, Category.initialPunctuation,
    Category.finalPunctuation, spans "22 27 275B-2760 2E00-2E01 2E06-2E08 2E0B 1F676-1F678"]

def continuation : CharSet := .ofLines [
  "2C-2D 3A-3B 37E 55D 60C-60D 7F8 1802 1808 2013-2014 3001 FE10-FE11 FE13-FE14 FE31-FE32",
  "FE50-FE51 FE54-FE55 FE58 FE63 FF0C-FF0D FF1A-FF1B FF64"]

def find? : String → Option CharSet
  | "cr" => some (spans "D")
  | "lf" => some (spans "A")
  | "aterm" | "at" => some ambiguousTerminal
  | "close" | "cl" => some close
  | "extend" | "ex" => some extend
  | "format" | "fo" => some (Word.format.union (spans "70F 200B"))
  | "lower" | "lo" => some lower
  | "numeric" | "nu" => some (Word.numeric.union (spans "66C"))
  | "oletter" | "le" => some otherLetter
  | "scontinue" | "sc" => some continuation
  | "sep" | "se" => some (spans "85 2028-2029")
  | "sp" => some (spans "9 B-C 20 A0 1680 2000-200A 202F 205F 3000")
  | "sterm" | "st" => some (Trait.sentenceTerminal.difference ambiguousTerminal)
  | "upper" | "up" => some upper
  | _ => none

end Sentence

end DocumentQuery.CharSet
