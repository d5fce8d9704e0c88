import TestExclusions.Text.Property
import TestExclusions.Text.Script

/-! How characters behave where a text is cut into graphemes, words and sentences, as version 16 of
the Unicode standard gives it. Each of the three properties sorts the characters into classes; what
is left over belongs to no class here. -/
namespace TestExclusions.Text.CharSet

def newlines : CharSet := [(0xa, 0xa), (0xd, 0xd)]

/-- The zero-width joiner. -/
def joiner : CharSet := single 0x200d

/-- Marks of all kinds, which belong to what stands before them. -/
def attached : CharSet := graphemeExtend ++ categoryMc.ranges

/-! ## Graphemes -/

/-- Continues a grapheme: marks and skin tones. -/
def graphemeExtending : CharSet := graphemeExtend ++ emojiModifier

/-- Spacing marks that do not join the grapheme before them. -/
def looseMark : CharSet := tableRanges [
  "102b-102c 1038 1062-1064 1067-106d 1083 1087-108c 108f 109a-109c 1a61 1a63-1a64 aa7b aa7d",
  "11720-11721"]

/-- Spacing marks that join the grapheme before them. -/
def spacingMark : CharSet :=
  diff (categoryMc.ranges ++ [(0xe33, 0xe33), (0xeb3, 0xeb3)]) (graphemeExtending ++ looseMark)

/-- Stands for itself between line ends, controls and ignorable places. -/
def graphemeControl : CharSet :=
  diff (ofCategories ["zl", "zp", "cc", "cf"] ++ inter unassigned defaultIgnorable)
    (newlines ++ joinControl ++ prependedConcatenationMark ++ graphemeExtending)

/-- Letters that join the grapheme behind them. -/
def prepended : CharSet := tableRanges [
  "d4e 111c2-111c3 113d1 1193f 11941 11a3a 11a84-11a89 11d46 11f02"]

def leadingJamo : CharSet := [(0x1100, 0x115f), (0xa960, 0xa97c)]

def vowelJamo : CharSet :=
  [(0x1160, 0x11a7), (0xd7b0, 0xd7c6), (0x16d63, 0x16d63), (0x16d67, 0x16d6a)]

def trailingJamo : CharSet := [(0x11a8, 0x11ff), (0xd7cb, 0xd7fb)]

/-- Hangul syllables of two parts, one before every 27 syllables of three parts. -/
def openSyllables : CharSet := (List.range 399).map fun i => (0xac00 + 28 * i, 0xac00 + 28 * i)

def closedSyllables : CharSet :=
  (List.range 399).map fun i => (0xac01 + 28 * i, 0xac1b + 28 * i)

/-- The set of a class of the property Grapheme_Cluster_Break. -/
def graphemeBreak? : String → Option CharSet
  | "cn" | "control" => some graphemeControl
  | "cr" => some (single 0xd)
  | "lf" => some (single 0xa)
  | "ex" | "extend" => some graphemeExtending
  | "l" => some leadingJamo
  | "v" => some vowelJamo
  | "t" => some trailingJamo
  | "lv" => some openSyllables
  | "lvt" => some closedSyllables
  | "pp" | "prepend" => some (prepended ++ prependedConcatenationMark)
  | "ri" | "regionalindicator" => some regionalIndicator
  | "sm" | "spacingmark" => some spacingMark
  | "zwj" => some joiner
  | _ => none

/-! ## Words -/

/-- Signs that words may hold although they are no letters. -/
def wordLike : CharSet := tableRanges [
  "b8 2c2-2c5 2d2-2d7 2de-2df 2e5-2eb 2ed 2ef-2ff 55a-55c 55e 58a 5f3 70f a708-a716 a720-a721",
  "a789-a78a ab5b"]

/-- Letters of scripts that put no space between words. -/
def unspaced : CharSet := tableRanges [
  "e01-e30 e32-e33 e40-e46 e81-e82 e84 e86-e8a e8c-ea3 ea5 ea7-eb0 eb2-eb3 ebd ec0-ec4 ec6",
  "edc-edf 1000-102a 103f 1050-1055 105a-105d 1061 1065-1066 106e-1070 1075-1081 108e",
  "1780-17b3 17d7 17dc 1950-196d 1970-1974 1980-19ab 19b0-19c9 1a20-1a54 1aa7 a9e0-a9e4",
  "a9e6-a9ef a9fa-a9fe aa60-aa76 aa7a aa7e-aaaf aab1 aab5-aab6 aab9-aabd aac0 aac2 aadb-aadd",
  "11700-1171a 11740-11746"]

/-- Marks that stand before a number and belong to it. -/
def countMark : CharSet := tableRanges [
  "600-605 6dd 890-891 8e2 110bd 110cd"]

def katakana : CharSet :=
  (script? "kana").getD [] ++
    [(0x3031, 0x3035), (0x309b, 0x309c), (0x30a0, 0x30a0), (0x30fc, 0x30fc), (0xff70, 0xff70)]

def hebrewLetters : CharSet := inter ((script? "hebr").getD []) categoryLo.ranges

/-- Marks and skin tones, which no word boundary parts from what stands before them. -/
def wordExtending : CharSet := diff (attached ++ emojiModifier) joiner

/-- Letters of scripts that put spaces between words. -/
def wordLetters : CharSet :=
  diff (alphabetic ++ wordLike)
    (ideographic ++ katakana ++ (script? "hira").getD [] ++ wordExtending ++ hebrewLetters ++
      unspaced)

/-- The Arabic signs between parts of a number. -/
def numberMark : CharSet := [(0x66b, 0x66c)]

/-- Underscores and their like, which join words and numbers. -/
def extendNumberLetter : CharSet := tableRanges [
  "5f 202f 203f-2040 2054 fe33-fe34 fe4d-fe4f ff3f"]

/-- Signs that do not end a number between digits. -/
def midNumber : CharSet := tableRanges [
  "2c 3b 37e 589 60c-60d 66c 7f8 2044 fe10 fe14 fe50 fe54 ff0c ff1b"]

def wordSpace : CharSet := tableRanges [
  "20 1680 2000-2006 2008-200a 205f 3000"]

def wordNewline : CharSet := [(0xb, 0xc), (0x85, 0x85), (0x2028, 0x2029)]

/-- The set of a class of the property Word_Break. -/
def wordBreak? : String → Option CharSet
  | "cr" => some (single 0xd)
  | "lf" => some (single 0xa)
  | "nl" | "newline" => some wordNewline
  | "dq" | "doublequote" => some (single 0x22)
  | "sq" | "singlequote" => some (single 0x27)
  | "extend" => some wordExtending
  | "ex" | "extendnumlet" => some extendNumberLetter
  | "fo" | "format" =>
    some (diff categoryCf.ranges
      (single 0x200b ++ joinControl ++ prependedConcatenationMark ++ wordExtending))
  | "hl" | "hebrewletter" => some hebrewLetters
  | "ka" | "katakana" => some (diff katakana wordExtending)
  | "le" | "aletter" => some wordLetters
  | "mb" | "midnumlet" => some midNumberLetter
  | "ml" | "midletter" => some midLetter
  | "mn" | "midnum" => some midNumber
  | "nu" | "numeric" => some (digits ++ single 0x66b ++ countMark)
  | "ri" | "regionalindicator" => some regionalIndicator
  | "wsegspace" => some wordSpace
  | "zwj" => some joiner
  | _ => none

/-! ## Sentences -/

/-- Georgian letters, which tell nothing about where a sentence begins. -/
def georgianLetters : CharSet :=
  [(0x10d0, 0x10fa), (0x10fd, 0x10ff), (0x1c90, 0x1cba), (0x1cbd, 0x1cbf)]

def sentenceLower : CharSet := diff lowercase (graphemeExtend ++ georgianLetters)

def sentenceUpper : CharSet := diff (categoryLt.ranges ++ uppercase) georgianLetters

/-- The full stops, which also end abbreviations. -/
def fullStops : CharSet := [(0x2e, 0x2e), (0x2024, 0x2024), (0xfe52, 0xfe52), (0xff0e, 0xff0e)]

def sentenceSpace : CharSet := tableRanges [
  "9 b-c 20 a0 1680 2000-200a 202f 205f 3000"]

/-- Signs that continue a sentence. -/
def sentenceContinue : CharSet := tableRanges [
  "2c-2d 3a-3b 37e 55d 60c-60d 7f8 1802 1808 2013-2014 3001 fe10-fe11 fe13-fe14 fe31-fe32",
  "fe50-fe51 fe54-fe55 fe58 fe63 ff0c-ff0d ff1a-ff1b ff64"]

/-- Quotation marks that are neither opening nor closing ones. -/
def otherClose : CharSet := tableRanges [
  "22 27 275b-2760 2e00-2e01 2e06-2e08 2e0b 1f676-1f678"]

/-- The set of a class of the property Sentence_Break. -/
def sentenceBreak? : String → Option CharSet
  | "cr" => some (single 0xd)
  | "lf" => some (single 0xa)
  | "se" | "sep" => some [(0x85, 0x85), (0x2028, 0x2029)]
  | "sp" => some sentenceSpace
  | "ex" | "extend" => some (attached ++ joiner)
  | "fo" | "format" =>
    some (diff categoryCf.ranges (joinControl ++ countMark ++ attached))
  | "lo" | "lower" => some sentenceLower
  | "up" | "upper" => some sentenceUpper
  | "le" | "oletter" =>
    some (diff (alphabetic ++ single 0x5f3 ++ georgianLetters)
      (sentenceLower ++ sentenceUpper ++ attached))
  | "nu" | "numeric" => some (digits ++ numberMark ++ countMark)
  | "at" | "aterm" => some fullStops
  | "st" | "sterm" => some (diff sentenceTerminal fullStops)
  | "sc" | "scontinue" => some sentenceContinue
  | "cl" | "close" => some (ofCategories ["ps", "pe", "pi", "pf"] ++ otherClose)
  | _ => none

end TestExclusions.Text.CharSet
