import Changelog.Text.Age
import Changelog.Text.CaseChange
import Changelog.Text.GraphemeBreak
import Changelog.Text.Identifier
import Changelog.Text.ScriptExtension
import Changelog.Text.SentenceBreak

/-!
# Character properties by name

Sets of characters by the names that Unicode gives them: binary properties, general categories and
scripts by a name alone, properties with several values by their own name and that of the value.
Names are written loosely: case, blanks, underscores and hyphens do not matter.
-/

namespace Changelog.Pattern

open Changelog.Text

/-- A name in the form that names are compared in.  The text may begin with `is`, which is left out,
except in `isc`, the name of another property than `c`. -/
def looseName (text : List Char) : String :=
  let kept (s : List Char) : List Char :=
    (s.filter fun c => c.toNat < 128 && c != ' ' && c != '_' && c != '-').map Char.toLower
  match text with
  | c :: d :: rest =>
    if c.toLower = 'i' ∧ d.toLower = 's' then
      (if kept rest = ['c'] then "isc" else String.ofList (kept rest))
    else String.ofList (kept text)
  | _ => String.ofList (kept text)

def binaryProperties : List (List String × CodePoints) :=
  [(["alphabetic", "alpha"], alphabetic),
   (["asciihexdigit", "ahex"], asciiHexDigits),
   (["bidicontrol", "bidic"], bidiControl),
   (["bidimirrored", "bidim"], bidiMirrored),
   (["cased"], cased),
   (["caseignorable", "ci"], caseIgnorable),
   (["changeswhencasefolded", "cwcf"], changesWhenCasefolded),
   (["changeswhencasemapped", "cwcm"], changesWhenCasemapped),
   (["changeswhenlowercased", "cwl"], changesWhenLowercased),
   (["changeswhentitlecased", "cwt"], changesWhenTitlecased),
   (["changeswhenuppercased", "cwu"], changesWhenUppercased),
   (["dash"], dash),
   (["defaultignorablecodepoint", "di"], defaultIgnorable),
   (["deprecated", "dep"], deprecated),
   (["diacritic", "dia"], diacritic),
   (["emoji"], emoji),
   (["emojicomponent", "ecomp"], emojiComponent),
   (["emojimodifier", "emod"], emojiModifier),
   (["emojimodifierbase", "ebase"], emojiModifierBase),
   (["emojipresentation", "epres"], emojiPresentation),
   (["extendedpictographic", "extpict"], extendedPictographic),
   (["extender", "ext"], extender),
   (["graphemebase", "grbase"], graphemeBase),
   (["graphemeextend", "grext"], graphemeExtend),
   (["graphemelink", "grlink"], graphemeLink),
   (["hexdigit", "hex"], hexDigits),
   (["hyphen"], hyphen),
   (["idcompatmathcontinue"], idCompatMathContinue),
   (["idcompatmathstart"], idCompatMathStart),
   (["idcontinue", "idc"], idContinue),
   (["ideographic", "ideo"], ideographic),
   (["idsbinaryoperator", "idsb"], idsBinaryOperator),
   (["idstart", "ids"], idStart),
   (["idstrinaryoperator", "idst"], idsTrinaryOperator),
   (["idsunaryoperator", "idsu"], idsUnaryOperator),
   (["joincontrol", "joinc"], joinControl),
   (["logicalorderexception", "loe"], logicalOrderException),
   (["lowercase", "lower"], lowercase),
   (["math"], math),
   (["modifiercombiningmark", "mcm"], modifierCombiningMark),
   (["noncharactercodepoint", "nchar"], noncharacter),
   (["otheralphabetic", "oalpha"], otherAlphabetic),
   (["otherdefaultignorablecodepoint", "odi"], otherDefaultIgnorable),
   (["othergraphemeextend", "ogrext"], otherGraphemeExtend),
   (["otheridcontinue", "oidc"], otherIdContinue),
   (["otheridstart", "oids"], otherIdStart),
   (["otherlowercase", "olower"], otherLowercase),
   (["othermath", "omath"], otherMath),
   (["otheruppercase", "oupper"], otherUppercase),
   (["patternsyntax", "patsyn"], patternSyntax),
   (["patternwhitespace", "patws"], patternWhiteSpace),
   (["prependedconcatenationmark", "pcm"], prependedConcatenationMark),
   (["quotationmark", "qmark"], quotationMark),
   (["radical"], radical),
   (["regionalindicator", "ri"], regionalIndicator),
   (["sentenceterminal", "sterm"], sentenceTerminal),
   (["softdotted", "sd"], softDotted),
   (["terminalpunctuation", "term"], terminalPunctuation),
   (["unifiedideograph", "uideo"], unifiedIdeograph),
   (["uppercase", "upper"], uppercase),
   (["variationselector", "vs"], variationSelector),
   (["whitespace", "wspace", "space"], blankRanges),
   (["xidcontinue", "xidc"], xidContinue),
   (["xidstart", "xids"], xidStart)]

def binaryNamed? (name : String) : Option CodePoints :=
  (binaryProperties.find? fun entry => entry.1.contains name).map Prod.snd

def categoryGroups : List (List String × List GeneralCategory) :=
  [(["l", "letter"], GeneralCategory.letters),
   (["lc", "casedletter"], [.uppercaseLetter, .lowercaseLetter, .titlecaseLetter]),
   (["m", "mark", "combiningmark"], GeneralCategory.marks),
   (["n", "number"], GeneralCategory.numbers),
   (["p", "punctuation", "punct"], GeneralCategory.punctuation),
   (["s", "symbol"], GeneralCategory.symbols),
   (["z", "separator"], GeneralCategory.separators),
   (["c", "other"], GeneralCategory.others)]

/-- The general category, or group of them, with a name.  No character is a surrogate, and that category
is not to be asked for. -/
def categoryNamed? (name : String) : Option CodePoints :=
  if name = "any" then some .full
  else if name = "assigned" then some GeneralCategory.unassigned.codePoints.complement
  else if name = "ascii" then some .ascii
  else
    match categoryGroups.find? fun entry => entry.1.contains name with
    | some entry => some (GeneralCategory.unionOf entry.2)
    | none =>
      let categories := (GeneralCategory.unassigned :: GeneralCategory.assigned).filter (· ≠ .surrogate)
      (categories.find? fun k => k.names.contains name).map (·.codePoints)

def propertyNamed? (name : List Char) : Option CodePoints :=
  let loose := looseName name
  binaryNamed? loose <|> categoryNamed? loose <|> Script.ranges? loose

/-- The properties with several values: their names, and how the code points with a value are found by
its name. -/
def valuedProperties : List (List String × (String → Option CodePoints)) :=
  [(["generalcategory", "gc"], categoryNamed?),
   (["script", "sc"], Script.ranges?),
   (["scriptextensions", "scx"], Script.extended?),
   (["age"], Age.ranges?),
   (["graphemeclusterbreak", "gcb"], GraphemeBreak.ranges?),
   (["wordbreak", "wb"], WordBreak.ranges?),
   (["sentencebreak", "sb"], SentenceBreak.ranges?)]

def propertyValue? (name value : List Char) : Option CodePoints := do
  let property ← valuedProperties.find? fun entry => entry.1.contains (looseName name)
  property.2 (looseName value)

end Changelog.Pattern
