import Changelog.Text.Alphabet
import Changelog.Text.Emoji
import Changelog.Text.Ideograph
import Changelog.Text.Script

/-!
# Boundaries between words

The property Word_Break of Unicode 16.0: how a character takes part in the words of a text.
-/

namespace Changelog.Text.WordBreak

def extend : CodePoints :=
  .unionAll [graphemeExtend, GeneralCategory.spacingMark.ranges, emojiModifier]

/-- Format controls within a word. -/
def format : CodePoints := GeneralCategory.format.ranges.diff (.ofText "200b-200d e0020-e007f")

/-- Signs of the Katakana syllabary, also those that it shares. -/
def katakana : CodePoints :=
  (Script.rangesOf "katakana").union (.ofText "3031-3035 309b-309c 30a0 30fc ff70")

def hebrewLetter : CodePoints :=
  (Script.rangesOf "hebrew").inter GeneralCategory.otherLetter.ranges

/-- Letters of scripts that are written without blanks between words. -/
def spacelessLetters : CodePoints := .ofText
  "e01-e30 e32-e33 e40-e46 e81-e82 e84 e86-e8a e8c-ea3 ea5 ea7-eb0 eb2-eb3 ebd ec0-ec4 ec6 edc-edf
   1000-102a 103f 1050-1055 105a-105d 1061 1065-1066 106e-1070 1075-1081 108e 1780-17b3 17d7 17dc
   1950-196d 1970-1974 1980-19ab 19b0-19c9 1a20-1a54 1aa7 a9e0-a9e4 a9e6-a9ef a9fa-a9fe aa60-aa76
   aa7a aa7e-aaaf aab1 aab5-aab6 aab9-aabd aac0 aac2 aadb-aadd 11700-1171a 11740-11746"

/-- Code points that count as letters of words without being alphabetic. -/
def otherLetters : CodePoints := .ofText
  "2c2-2c5 2d2-2d7 2de-2df 2e5-2eb 2ed 2ef-2ff 55a-55c 55e 58a 5f3 a708-a716 a720-a721 a789-a78a
   ab5b"

/-- Digits of numbers, with the Arabic decimal sign. -/
def numeric : CodePoints := GeneralCategory.decimalNumber.ranges.union (.single 0x66b)

/-- Letters of words between blanks. -/
def letter : CodePoints :=
  (alphabetic.union otherLetters).diff
    (.unionAll
      [ideographic, katakana, Script.rangesOf "hiragana", extend, hebrewLetter, numeric,
       spacelessLetters])

def midLetter : CodePoints := .ofText "3a b7 387 55f 5f4 2027 fe13 fe55 ff1a"

def midNum : CodePoints := .ofText
  "2c 3b 37e 589 60c-60d 66c 7f8 2044 fe10 fe14 fe50 fe54 ff0c ff1b"

def midNumLet : CodePoints := .ofText "2e 2018-2019 2024 fe52 ff07 ff0e"

def segmentSpace : CodePoints := GeneralCategory.spaceSeparator.ranges.diff (.ofText "a0 2007 202f")

def table : List (List String × CodePoints) :=
  [(["cr"], .single 0xd),
   (["lf"], .single 0xa),
   (["newline", "nl"], .ofText "b-c 85 2028-2029"),
   (["doublequote", "dq"], .single 0x22),
   (["singlequote", "sq"], .single 0x27),
   (["extend"], extend),
   (["format", "fo"], format),
   (["zwj"], .single 0x200d),
   (["regionalindicator", "ri"], regionalIndicator),
   (["katakana", "ka"], katakana),
   (["hebrewletter", "hl"], hebrewLetter),
   (["aletter", "le"], letter),
   (["midletter", "ml"], midLetter),
   (["midnum", "mn"], midNum),
   (["midnumlet", "mb"], midNumLet),
   (["numeric", "nu"], numeric),
   (["extendnumlet", "ex"],
     GeneralCategory.connectorPunctuation.ranges.union (.single 0x202f)),
   (["wsegspace"], segmentSpace)]

def ranges? (name : String) : Option CodePoints :=
  (table.find? fun entry => entry.1.contains name).map Prod.snd

end Changelog.Text.WordBreak
