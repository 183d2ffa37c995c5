import Changelog.Text.Alphabet
import Changelog.Text.Punctuation

/-!
# Boundaries between sentences

The property Sentence_Break of Unicode 16.0: how a character takes part in the sentences of a text.
-/

namespace Changelog.Text.SentenceBreak

def extend : CodePoints :=
  .unionAll [graphemeExtend, GeneralCategory.spacingMark.ranges, .single 0x200d]

def paragraphEnd : CodePoints := .ofText "85 2028-2029"

/-- Blanks within a paragraph. -/
def space : CodePoints := blankRanges.diff (paragraphEnd.union (.ofText "a d"))

/-- Small letters; Georgian letters have no case in sentences. -/
def lower : CodePoints := lowercase.diff (graphemeExtend.union (.ofText "10d0-10fa 10fd-10ff"))

/-- Capitals that may start a sentence. -/
def upper : CodePoints :=
  (uppercase.union GeneralCategory.titlecaseLetter.ranges).diff (.ofText "1c90-1cba 1cbd-1cbf")

def otherLetter : CodePoints :=
  (alphabetic.union (.single 0x5f3)).diff (.unionAll [lower, upper, extend])

/-- Full stops that need not end a sentence. -/
def ambiguousStop : CodePoints := .ofText "2e 2024 fe52 ff0e"

def continuation : CodePoints := .ofText
  "2c-2d 3a-3b 37e 55d 60c-60d 7f8 1802 1808 2013-2014 3001 fe10-fe11 fe13-fe14 fe31-fe32
   fe50-fe51 fe54-fe55 fe58 fe63 ff0c-ff0d ff1a-ff1b ff64"

def close : CodePoints :=
  (GeneralCategory.unionOf
    [.openPunctuation, .closePunctuation, .initialPunctuation, .finalPunctuation]).union
    (.ofText "22 27 275b-2760 2e00-2e01 2e06-2e08 2e0b 1f676-1f678")

def table : List (List String × CodePoints) :=
  [(["cr"], .single 0xd),
   (["lf"], .single 0xa),
   (["sep", "se"], paragraphEnd),
   (["extend", "ex"], extend),
   (["format", "fo"], GeneralCategory.format.ranges.diff (.ofText "200c-200d e0020-e007f")),
   (["sp"], space),
   (["lower", "lo"], lower),
   (["upper", "up"], upper),
   (["oletter", "le"], otherLetter),
   (["numeric", "nu"], GeneralCategory.decimalNumber.ranges.union (.ofText "66b-66c")),
   (["aterm", "at"], ambiguousStop),
   (["sterm", "st"], sentenceTerminal.diff ambiguousStop),
   (["scontinue", "sc"], continuation),
   (["close", "cl"], close)]

def ranges? (name : String) : Option CodePoints :=
  (table.find? fun entry => entry.1.contains name).map Prod.snd

end Changelog.Text.SentenceBreak
