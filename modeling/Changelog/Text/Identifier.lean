import Changelog.Text.Alphabet
import Changelog.Text.Punctuation

/-!
# Identifiers

The characters of names in the sense of Unicode 16.0.  In the stable forms a character stays a part
of names when a name is brought into a normal form.
-/

namespace Changelog.Text

def otherIdStart : CodePoints := .ofText
  "1885-1886 2118 212e 309b-309c"

/-- Code points that continue names and are neither letters, marks, digits nor connectors. -/
def otherIdContinue : CodePoints := .ofText
  "b7 387 1369-1371 19da 200c-200d 30fb ff65"

def idStart : CodePoints :=
  ((GeneralCategory.unionOf (.letterNumber :: GeneralCategory.letters)).union otherIdStart).diff
    (patternSyntax.union patternWhiteSpace)

def idContinue : CodePoints :=
  (CodePoints.unionAll
    [idStart, GeneralCategory.unionOf [.nonspacingMark, .spacingMark],
     GeneralCategory.unionOf [.decimalNumber, .connectorPunctuation], otherIdContinue]).diff
    (patternSyntax.union patternWhiteSpace)

/-- Characters of names that fall apart into others in a normal form. -/
def unstableIdContinue : CodePoints := .ofText
  "37a 309b-309c fc5e-fc63 fdfa-fdfb fe70 fe72 fe74 fe76 fe78 fe7a fe7c fe7e"

/-- Characters that only there turn out not to start a name. -/
def unstableIdStart : CodePoints := .ofText
  "e33 eb3 ff9e-ff9f"

def xidStart : CodePoints :=
  (idStart.diff unstableIdContinue).diff unstableIdStart

def xidContinue : CodePoints :=
  idContinue.diff unstableIdContinue

def idCompatMathStart : CodePoints := .ofText
  "2202 2207 221e 1d6c1 1d6db 1d6fb 1d715 1d735 1d74f 1d76f 1d789 1d7a9 1d7c3"

/-- The property ID_Compat_Math_Continue, with superscript and subscript digits and signs. -/
def idCompatMathContinue : CodePoints :=
  idCompatMathStart.union (.ofText "b2-b3 b9 2070 2074-207e 2080-208e")

end Changelog.Text
