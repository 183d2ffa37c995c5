import Changelog.Text.CodePoints

namespace Changelog.Text

/-- The code points with the property White_Space. -/
def blankRanges : CodePoints :=
  [(0x09, 0x0D), (0x20, 0x20), (0x85, 0x85), (0xA0, 0xA0), (0x1680, 0x1680), (0x2000, 0x200A),
   (0x2028, 0x2029), (0x202F, 0x202F), (0x205F, 0x205F), (0x3000, 0x3000)]

def isBlank (c : Char) : Bool := blankRanges.contains c.toNat

def trimStart (s : List Char) : List Char := s.dropWhile isBlank

def trimEnd (s : List Char) : List Char := (s.reverse.dropWhile isBlank).reverse

def trim (s : List Char) : List Char := trimEnd (trimStart s)

/-- The maximal runs of characters that are not white space. -/
def words (s : List Char) : List (List Char) := (s.splitOnP isBlank).filter (!·.isEmpty)

example : trim " a b ".toList = "a b".toList := by decide

end Changelog.Text
