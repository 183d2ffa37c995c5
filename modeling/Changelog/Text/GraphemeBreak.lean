import Changelog.Text.Grapheme
import Changelog.Text.Emoji

/-!
# Boundaries between graphemes

The property Grapheme_Cluster_Break of Unicode 16.0: how a character takes part in the signs that a
reader sees as one.
-/

namespace Changelog.Text.GraphemeBreak

def prepend : CodePoints := .ofText
  "600-605 6dd 70f 890-891 8e2 d4e 110bd 110cd 111c2-111c3 113d1 1193f 11941 11a3a 11a84-11a89
   11d46 11f02"

def extend : CodePoints := graphemeExtend.union emojiModifier

/-- Spacing marks that do not belong to the sign before them. -/
def freeSpacingMarks : CodePoints := .ofText
  "102b-102c 1038 1062-1064 1067-106d 1083 1087-108c 108f 109a-109c 1a61 1a63-1a64 aa7b aa7d
   11720-11721"

/-- Spacing marks, and two vowels, that belong to the sign before them. -/
def spacingMark : CodePoints :=
  (GeneralCategory.spacingMark.ranges.union (.ofText "e33 eb3")).diff (extend.union freeSpacingMarks)

/-- Controls and code points to be ignored that are assigned no character. -/
def control : CodePoints :=
  (CodePoints.unionAll
    [GeneralCategory.unionOf [.lineSeparator, .paragraphSeparator, .control, .format],
     GeneralCategory.unassigned.codePoints.inter defaultIgnorable]).diff
    (CodePoints.unionAll
      [.ofText "a d e0020-e007f", joinControl, prependedConcatenationMark])

/-- The first syllables of the blocks of 28 that differ in the last consonant only, which they lack. -/
def openSyllables : CodePoints :=
  (List.range 399).map fun n => (0xac00 + 28 * n, 0xac00 + 28 * n)

def table : List (List String × CodePoints) :=
  [(["cr"], .single 0xd),
   (["lf"], .single 0xa),
   (["control", "cn"], control),
   (["extend", "ex"], extend),
   (["prepend", "pp"], prepend),
   (["spacingmark", "sm"], spacingMark),
   (["regionalindicator", "ri"], regionalIndicator),
   (["zwj"], .single 0x200d),
   (["l"], .ofText "1100-115f a960-a97c"),
   (["v"], .ofText "1160-11a7 d7b0-d7c6 16d63 16d67-16d6a"),
   (["t"], .ofText "11a8-11ff d7cb-d7fb"),
   (["lv"], openSyllables),
   (["lvt"], .diff [(0xac00, 0xd7a3)] openSyllables)]

def ranges? (name : String) : Option CodePoints :=
  (table.find? fun entry => entry.1.contains name).map Prod.snd

end Changelog.Text.GraphemeBreak
