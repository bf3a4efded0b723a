/-
# Reckon.Pattern.Database.Break — sets of characters by how they break text

Text is broken into graphemes, words and sentences by rules on classes of characters. Each
of the three kinds of break sorts all characters into its own classes; the class of what no
rule mentions has no name that a pattern could use.
-/
import Reckon.Pattern.Database.Binary
import Reckon.Pattern.Database.Script

namespace Reckon.Pattern.Database

open CharSet

/-! ## Classes that several kinds of break share -/

/-- The characters of a category less those of some sets. -/
def categoryWithout (members : List Text.Category) (sets : List CharSet) : CharSet :=
  sets.foldl difference (ofCategories members)

/-- The characters of a script, by its long name. -/
def scriptNamed (name : String) : CharSet :=
  match scripts.find? fun (names, _) => names.contains name with
  | none => empty
  | some (_, ranges) => ofText ranges

/-- What extends the character before it. -/
def extendsBefore : CharSet := (graphemeExtend.union (ofCategories [.mc])).union emojiModifier

/-- The joiner that makes one emoji of two. -/
def joiner : CharSet := range 0x200D 0x200D

/-! ## Graphemes -/

/-- Controls, and code points that are left undrawn and unassigned. -/
def graphemeControl : CharSet :=
  (((ofCategories [.zl, .zp, .cc, .cf]).union
    ((ofCategories [.cn]).intersection defaultIgnorable)).difference
      (ofText ["A D 200D"])).difference (prependedConcatenationMark.union graphemeExtend)

/-- What extends a grapheme to the right. -/
def graphemeExtended : CharSet :=
  graphemeExtend.union emojiModifier

/-- Letters that join the grapheme after them. -/
def prependedLetters : CharSet :=
  ofText ["D4E 111C2-111C3 113D1 1193F 11941 11A84-11A89 11D46 11F02"]

/-- Spacing marks that a grapheme does not include. -/
def apartMarks : CharSet :=
  ofText ["102B-102C 1038 1062-1064 1067-106D 1083 1087-108C 108F 109A-109C 1A61 1A63-1A64 AA7B",
          "AA7D 11720-11721"]

/-- Marks with a width of their own that join the grapheme before them. -/
def graphemeSpacingMark : CharSet :=
  (categoryWithout [.mc] [graphemeExtend, apartMarks]).union (ofText ["E33 EB3"])

/-- Consonants that start a Hangul syllable. -/
def leadingJamo : CharSet :=
  ofText ["1100-115F A960-A97C"]

/-- Vowels of a Hangul syllable. -/
def vowelJamo : CharSet :=
  ofText ["1160-11A7 D7B0-D7C6 16D63 16D67-16D6A"]

/-- Consonants that end a Hangul syllable. -/
def trailingJamo : CharSet :=
  ofText ["11A8-11FF D7CB-D7FB"]

/-- Hangul syllables of a consonant and a vowel: every twenty-eighth. -/
def openSyllables : CharSet :=
  ofRanges ((List.range 399).map fun k => (0xAC00 + 28 * k, 0xAC00 + 28 * k))

/-- Hangul syllables with a consonant at the end. -/
def closedSyllables : CharSet :=
  (range 0xAC00 0xD7A3).difference openSyllables

/-- The classes of grapheme breaks. -/
def graphemeBreaks : List (List String × CharSet) :=
  [
    (["CR"], range 0xD 0xD),
    (["LF"], range 0xA 0xA),
    (["Control", "CN"], graphemeControl),
    (["Extend", "EX"], graphemeExtended),
    (["ZWJ"], joiner),
    (["Regional_Indicator", "RI"], regionalIndicator),
    (["Prepend", "PP"], prependedConcatenationMark.union prependedLetters),
    (["SpacingMark", "SM"], graphemeSpacingMark),
    (["L"], leadingJamo),
    (["V"], vowelJamo),
    (["T"], trailingJamo),
    (["LV"], openSyllables),
    (["LVT"], closedSyllables)
  ]

/-! ## Words -/

/-- The letters of Hebrew. -/
def hebrewLetter : CharSet :=
  ofText ["5D0-5EA 5EF-5F2 FB1D FB1F-FB28 FB2A-FB36 FB38-FB3C FB3E FB40-FB41 FB43-FB44",
          "FB46-FB4F"]

/-- Katakana, and what counts with it. -/
def wordKatakana : CharSet :=
  ofText ["3031-3035 309B-309C 30A0-30FA 30FC-30FF 31F0-31FF 32D0-32FE 3300-3357 FF66-FF9D",
          "1AFF0-1AFF3 1AFF5-1AFFB 1AFFD-1AFFE 1B000 1B120-1B122 1B155 1B164-1B167"]

/-- Signs that count as letters within words. -/
def extraLetters : CharSet :=
  ofText ["B8 2C2-2C5 2D2-2D7 2DE-2DF 2E5-2EB 2ED 2EF-2FF 55A-55C 55E 58A 5F3 70F A708-A716",
          "A720-A721 A789-A78A AB5B"]

/-- Letters of scripts whose words only a dictionary can tell apart. -/
def complexContext : CharSet :=
  ofText ["E01-E30 E32-E33 E40-E46 E81-E82 E84 E86-E8A E8C-EA3 EA5 EA7-EB0 EB2-EB3 EBD EC0-EC4",
          "EC6 EDC-EDF 1000-102A 103F 1050-1055 105A-105D 1061 1065-1066 106E-1070 1075-1081",
          "108E 1780-17B3 17D7 17DC 1950-196D 1970-1974 1980-19AB 19B0-19C9 1A20-1A54 1AA7",
          "A9E0-A9E4 A9E6-A9EF A9FA-A9FE AA60-AA76 AA7A AA7E-AAAF AAB1 AAB5-AAB6 AAB9-AABD AAC0",
          "AAC2 AADB-AADD 11700-1171A 11740-11746"]

/-- The letters of words. -/
def wordLetter : CharSet :=
  [ideographic, wordKatakana, scriptNamed "Hiragana", extendsBefore, hebrewLetter,
    complexContext].foldl difference alphabetic |>.union extraLetters

/-- Digits, and what counts with them. -/
def wordNumeric : CharSet :=
  digits.union (ofText ["600-605 66B 6DD 890-891 8E2 19DA 110BD 110CD"])

/-- What may stand within a number. -/
def midNum : CharSet :=
  ofText ["2C 3B 37E 589 60C-60D 66C 7F8 2044 FE50 FE54 FF0C FF1B"]

/-- Connecting marks of words and numbers. -/
def extendNumLet : CharSet :=
  ofText ["5F 202F 203F-2040 2054 FE33-FE34 FE4D-FE4F FF3F"]

/-- Format characters within words. -/
def wordFormat : CharSet :=
  categoryWithout [.cf]
    [ofText ["200B 200D"], prependedConcatenationMark, graphemeExtend]

/-- Spaces that stay together. -/
def wordSpace : CharSet :=
  ofText ["20 1680 2000-2006 2008-200A 205F 3000"]

/-- The classes of word breaks. -/
def wordBreaks : List (List String × CharSet) :=
  [
    (["CR"], range 0xD 0xD),
    (["LF"], range 0xA 0xA),
    (["Newline", "NL"], ofText ["B-C 85 2028-2029"]),
    (["Extend"], extendsBefore),
    (["ZWJ"], joiner),
    (["Format", "FO"], wordFormat),
    (["Regional_Indicator", "RI"], regionalIndicator),
    (["Katakana", "KA"], wordKatakana),
    (["Hebrew_Letter", "HL"], hebrewLetter),
    (["ALetter", "LE"], wordLetter),
    (["Single_Quote", "SQ"], single '\''),
    (["Double_Quote", "DQ"], single '"'),
    (["MidNumLet", "MB"], midNumLet),
    (["MidLetter", "ML"], midLetter),
    (["MidNum", "MN"], midNum),
    (["Numeric", "NU"], wordNumeric),
    (["ExtendNumLet", "EX"], extendNumLet),
    (["WSegSpace"], wordSpace)
  ]

/-! ## Sentences -/

/-- The small letters of Georgian, which do not say whether a sentence starts. -/
def georgianSmall : CharSet := ofText ["10D0-10FA 10FD-10FF"]

/-- The capital letters of Georgian, which are not used to start a sentence. -/
def georgianCapital : CharSet := ofText ["1C90-1CBA 1CBD-1CBF"]

/-- What a sentence does not start with. -/
def sentenceLower : CharSet :=
  (lowercase.difference graphemeExtend).difference georgianSmall

/-- What a sentence starts with. -/
def sentenceUpper : CharSet :=
  (uppercase.union (ofCategories [.lt])).difference georgianCapital

/-- What extends the character before it within a sentence. -/
def sentenceExtend : CharSet :=
  ((graphemeExtend.union (ofCategories [.mc])).union joiner)

/-- Letters of which one cannot say whether they start a sentence. -/
def sentenceLetter : CharSet :=
  [sentenceLower, sentenceUpper, sentenceExtend].foldl difference
    (alphabetic.union (range 0x5F3 0x5F3))

/-- Spaces after a sentence. -/
def sentenceSpace : CharSet :=
  ofText ["9 B-C 20 A0 1680 2000-200A 202F 205F 3000"]

/-- Punctuation within a sentence. -/
def sentenceContinue : CharSet :=
  ofText ["2C-2D 3A-3B 37E 55D 60C-60D 7F8 1802 1808 2013-2014 3001 FE10-FE11 FE13-FE14",
          "FE31-FE32 FE50-FE51 FE54-FE55 FE58 FE63 FF0C-FF0D FF1A-FF1B FF64"]

/-- Full stops, which may belong to an abbreviation. -/
def ambiguousStop : CharSet :=
  ofText ["2E 2024 FE52 FF0E"]

/-- Brackets and quotation marks. -/
def sentenceClose : CharSet :=
  (ofCategories [.ps, .pe, .pi, .pf]).union
    (ofText ["22 27 275B-2760 2E00-2E01 2E06-2E08 2E0B 1F676-1F678"])

/-- Format characters within sentences. -/
def sentenceFormat : CharSet :=
  categoryWithout [.cf]
    [joiner, graphemeExtend, prependedConcatenationMark.difference (range 0x70F 0x70F)]

/-- The classes of sentence breaks. -/
def sentenceBreaks : List (List String × CharSet) :=
  [
    (["CR"], range 0xD 0xD),
    (["LF"], range 0xA 0xA),
    (["Extend", "EX"], sentenceExtend),
    (["Sep", "SE"], ofText ["85 2028-2029"]),
    (["Format", "FO"], sentenceFormat),
    (["Sp", "SP"], sentenceSpace),
    (["Lower", "LO"], sentenceLower),
    (["Upper", "UP"], sentenceUpper),
    (["OLetter", "LE"], sentenceLetter),
    (["Numeric", "NU"], wordNumeric.union (range 0x66C 0x66C)),
    (["ATerm", "AT"], ambiguousStop),
    (["SContinue", "SC"], sentenceContinue),
    (["STerm", "ST"], sentenceTerminal.difference ambiguousStop),
    (["Close", "CL"], sentenceClose)
  ]

end Reckon.Pattern.Database
