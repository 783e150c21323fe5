import Deobfuscation.Unicode.Property
import Deobfuscation.Unicode.Script

/-!
# Segmentation

Texts are divided into graphemes, words and sentences by rules that look at the kinds of
neighbouring characters.  Each of the three divisions has kinds of its own.

* `graphemeBreaks`, `wordBreaks`, `sentenceBreaks` — the kinds by name.
-/

namespace Deobfuscation.Unicode

/-! ### Shared kinds -/

/-- The carriage return. -/
def carriageReturn : Repertoire := .listed "D"

/-- The line feed. -/
def lineFeed : Repertoire := .listed "A"

/-- The zero width joiner. -/
def joiner : Repertoire := .listed "200D"

/-- The digits, the decimal point of the Arabs, and the marks around numbers. -/
def numeric : Repertoire :=
  decimalNumber ∪ .listed "600-605 66B 6DD 890-891 8E2 110BD 110CD"

/-- The characters of a script. -/
def scriptMembers (name : String) : Repertoire :=
  (findNamed? scripts (looseName name.toList)).getD .nothing

/-! ### Graphemes -/

/-- The letters that are prepended to the next, and the marks in front of others. -/
def prepended : Repertoire :=
  prependedMark ∪
    .listed "D4E 111C2-111C3 113D1 1193F 11941 11A3A 11A84-11A89 11D46 11F02"

/-- The spacing marks that do not extend what is before them. -/
def unspaced : Repertoire :=
  .listed "102B-102C 1038 1062-1064 1067-106D 1083 1087-108C 108F 109A-109C 1A61 1A63-1A64 AA7B
    AA7D 11720-11721"

/-- The spacing marks that extend what is before them. -/
def spacingExtension : Repertoire :=
  (spacingMark \ (graphemeExtend ∪ unspaced)) ∪ .listed "E33 EB3"

/-- The controls that stand alone. -/
def lonelyControl : Repertoire :=
  (lineSeparator ∪ paragraphSeparator ∪ control ∪ format ∪ (defaultIgnorable \ assigned)) \
    (prependedMark ∪ graphemeExtend ∪ .listed "A D 200C-200D")

/-- The syllables that end in a vowel. -/
def openSyllable : Repertoire := .listed "AC00-D788/1C"

/-- The kinds of characters in graphemes. -/
def graphemeBreaks : List NamedSet :=
  [⟨["CN", "Control"], lonelyControl⟩,
    ⟨["CR"], carriageReturn⟩,
    ⟨["EX", "Extend"], graphemeExtend ∪ emojiModifier⟩,
    ⟨["L"], .listed "1100-115F A960-A97C"⟩,
    ⟨["LF"], lineFeed⟩,
    ⟨["LV"], openSyllable⟩,
    ⟨["LVT"], .listed "AC00-D7A3" \ openSyllable⟩,
    ⟨["PP", "Prepend"], prepended⟩,
    ⟨["RI", "Regional_Indicator"], regionalIndicator⟩,
    ⟨["SM", "SpacingMark"], spacingExtension⟩,
    ⟨["T"], .listed "11A8-11FF D7CB-D7FB"⟩,
    ⟨["V"], .listed "1160-11A7 D7B0-D7C6 16D63 16D67-16D6A"⟩,
    ⟨["ZWJ"], joiner⟩]

/-! ### Words -/

/-- The syllables that are not divided from each other. -/
def katakana : Repertoire :=
  .listed "3031-3035 309B-309C 30A0-30FA 30FC-30FF 31F0-31FF 32D0-32FE 3300-3357 FF66-FF9D
    1AFF0-1AFF3 1AFF5-1AFFB 1AFFD-1AFFE 1B000 1B120-1B122 1B155 1B164-1B167"

/-- The scripts that are written without blanks. -/
def unsegmented : Repertoire :=
  .listed "E01-E3A E40-E4E E81-E82 E84 E86-E8A E8C-EA3 EA5 EA7-EBD EC0-EC4 EC6 EC8-ECE EDC-EDF
    1000-103F 1050-108F 109A-109F 1780-17D3 17D7 17DC-17DD 1950-196D 1970-1974 1980-19AB 19B0-19C9
    19DA 19DE-19DF 1A20-1A5E 1A60-1A7C 1AA0-1AAD A9E0-A9EF A9FA-A9FE AA60-AAC2 AADB-AADF
    11700-1171A 1171D-1172B 1173A-1173B 1173F-11746"

/-- The signs that count as letters. -/
def wordLike : Repertoire :=
  .listed "2C2-2C5 2D2-2D7 2DE-2DF 2E5-2EB 2ED 2EF-2FF 55A-55C 55E 58A 5F3 70F A708-A716 A720-A721
    A789-A78A AB5B"

/-- The characters that extend words. -/
def wordExtension : Repertoire :=
  (graphemeExtend ∪ spacingMark ∪ emojiModifier) \ joiner

/-- The letters of Hebrew. -/
def hebrewLetter : Repertoire := otherLetter \ (letter \ scriptMembers "Hebrew")

/-- The letters of words. -/
def wordLetter : Repertoire :=
  (alphabetic ∪ wordLike) \
    (ideographic ∪ katakana ∪ unsegmented ∪ scriptMembers "Hiragana" ∪ wordExtension ∪
      hebrewLetter ∪ numeric)

/-- The kinds of characters in words. -/
def wordBreaks : List NamedSet :=
  [⟨["LE", "ALetter"], wordLetter⟩,
    ⟨["CR"], carriageReturn⟩,
    ⟨["DQ", "Double_Quote"], .listed "22"⟩,
    ⟨["Extend"], wordExtension⟩,
    ⟨["EX", "ExtendNumLet"], .listed "5F 202F 203F-2040 2054 FE33-FE34 FE4D-FE4F FF3F"⟩,
    ⟨["FO", "Format"], format \
        (wordExtension ∪ numeric ∪ .listed "70F 200B-200D E0020-E007F")⟩,
    ⟨["HL", "Hebrew_Letter"], hebrewLetter⟩,
    ⟨["KA", "Katakana"], katakana⟩,
    ⟨["LF"], lineFeed⟩,
    ⟨["ML", "MidLetter"], .listed "3A B7 387 55F 5F4 2027 FE13 FE55 FF1A"⟩,
    ⟨["MN", "MidNum"], .listed "2C 3B 37E 589 60C-60D 66C 7F8 2044 FE50 FE54 FF0C FF1B"⟩,
    ⟨["MB", "MidNumLet"], .listed "2E 2018-2019 2024 FE52 FF07 FF0E"⟩,
    ⟨["NL", "Newline"], .listed "B-C 85 2028-2029"⟩,
    ⟨["NU", "Numeric"], numeric⟩,
    ⟨["RI", "Regional_Indicator"], regionalIndicator⟩,
    ⟨["SQ", "Single_Quote"], .listed "27"⟩,
    ⟨["WSegSpace"], .listed "20 1680 2000-2006 2008-200A 205F 3000"⟩,
    ⟨["ZWJ"], joiner⟩]

/-! ### Sentences -/

/-- The characters that extend sentences. -/
def sentenceExtension : Repertoire := graphemeExtend ∪ spacingMark ∪ joiner

/-- The lowercase letters of sentences. -/
def sentenceLower : Repertoire := lowercase \ (graphemeExtend ∪ .listed "10D0-10FA 10FD-10FF")

/-- The uppercase letters of sentences. -/
def sentenceUpper : Repertoire :=
  (titlecaseLetter ∪ uppercase) \ .listed "1C90-1CBA 1CBD-1CBF"

/-- The numbers of sentences. -/
def sentenceNumeric : Repertoire := numeric ∪ .listed "66C"

/-- The full stops, which may end a sentence or an abbreviation. -/
def fullStop : Repertoire := .listed "2E 2024 FE52 FF0E"

/-- The brackets and quotation marks. -/
def closing : Repertoire :=
  openPunctuation ∪ closePunctuation ∪ initialPunctuation ∪ finalPunctuation ∪
    .listed "22 27 275B-2760 2E00-2E01 2E06-2E08 2E0B 1F676-1F678"

/-- The kinds of characters in sentences. -/
def sentenceBreaks : List NamedSet :=
  [⟨["AT", "ATerm"], fullStop⟩,
    ⟨["CL", "Close"], closing⟩,
    ⟨["CR"], carriageReturn⟩,
    ⟨["EX", "Extend"], sentenceExtension⟩,
    ⟨["FO", "Format"], format \
        (graphemeExtend ∪ sentenceNumeric ∪ .listed "200C-200D E0020-E007F")⟩,
    ⟨["LF"], lineFeed⟩,
    ⟨["LO", "Lower"], sentenceLower⟩,
    ⟨["NU", "Numeric"], sentenceNumeric⟩,
    ⟨["LE", "OLetter"], (alphabetic ∪ .listed "5F3") \
        (sentenceLower ∪ sentenceUpper ∪ sentenceExtension ∪ sentenceNumeric)⟩,
    ⟨["SC", "SContinue"],
      .listed "2C-2D 3A-3B 37E 55D 60C-60D 7F8 1802 1808 2013-2014 3001 FE10-FE11 FE13-FE14
        FE31-FE32 FE50-FE51 FE54-FE55 FE58 FE63 FF0C-FF0D FF1A-FF1B FF64"⟩,
    ⟨["SE", "Sep"], .listed "85 2028-2029"⟩,
    ⟨["SP", "Sp"], .listed "9 B-C 20 A0 1680 2000-200A 202F 205F 3000"⟩,
    ⟨["ST", "STerm"], sentenceEnd \ fullStop⟩,
    ⟨["UP", "Upper"], sentenceUpper⟩]

end Deobfuscation.Unicode
