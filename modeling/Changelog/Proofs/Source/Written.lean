import Changelog.Source.Document
import Changelog.Proofs.Value.Attributes
import Mathlib.Data.Nat.Digits.Defs

/-!
# Source texts with their layout

A source text as an author lays it out: the elements with every choice that has no meaning, such as
the blanks between constructs, the quotes and escapes of a text, the parentheses around arguments and
the commas before closing brackets.  `text` writes such a tree down; `value`, `argument` and `element`
say what it means, which is all that may depend on it.
-/

namespace Changelog.Written

open Changelog.Source

/-- What may stand wherever the grammar has blanks: separators and comments that are well ended. -/
inductive Blank
  | space
  | tab
  | lineFeed
  | carriageReturn
  | semicolon
  | lineComment (inside : List Char) (oneLine : '\n' ∉ inside ∧ '\r' ∉ inside)
  | blockComment (inside : List Char) (open_ : ¬['*', '/'] <:+: inside)

def Blank.text : Blank → List Char
  | .space => [' ']
  | .tab => ['\t']
  | .lineFeed => ['\n']
  | .carriageReturn => ['\r']
  | .semicolon => [';']
  | .lineComment inside _ => '/' :: '/' :: (inside ++ ['\n'])
  | .blockComment inside _ => '/' :: '*' :: (inside ++ ['*', '/'])

abbrev Filler := List Blank

def Filler.text (f : Filler) : List Char := f.flatMap Blank.text

/-- The blanks between two siblings, which begin with a line feed or a semicolon. -/
structure Separator where
  newLine : Bool
  more : Filler

def Separator.filler (s : Separator) : Filler :=
  (if s.newLine then .lineFeed else .semicolon) :: s.more

/-- Spaces and tabs, the blanks that stay on the line; `true` stands for a tab. -/
abbrev Gap := List Bool

def Gap.text (g : Gap) : List Char := g.map fun tab => if tab then '\t' else ' '

/-- A name: not empty, of name characters only, and not begun with a digit. -/
structure Name where
  first : Char
  more : List Char
  first_ok : isNameChar first = true ∧ Text.isAsciiDigit first = false
  more_ok : more.all isNameChar = true

def Name.text (n : Name) : List Char := n.first :: n.more

/-- The name that a text is, or `x` where it is none. -/
def Name.ofString (text : String) : Name :=
  match text.toList with
  | [] => ⟨'x', [], by decide, rfl⟩
  | first :: more =>
    if h : (isNameChar first = true ∧ Text.isAsciiDigit first = false) ∧ more.all isNameChar = true then
      ⟨first, more, h.1, h.2⟩
    else ⟨'x', [], by decide, rfl⟩

/-- An integer in decimal digits, with any number of zeros before it. -/
structure Numeral where
  negative : Bool
  first : Fin 10
  more : List (Fin 10)

def digitChar (d : Fin 10) : Char := Char.ofNat (48 + d)

def Numeral.digits (n : Numeral) : List (Fin 10) := n.first :: n.more

def Numeral.text (n : Numeral) : List Char :=
  (if n.negative then ['-'] else []) ++ n.digits.map digitChar

def Numeral.value (n : Numeral) : Int :=
  let size : Nat := Nat.ofDigits 10 (n.digits.reverse.map Fin.val)
  if n.negative then -size else size

def Numeral.fits (n : Numeral) : Bool := -2 ^ 63 ≤ n.value && n.value < 2 ^ 63

inductive Quote
  | double
  | single
deriving DecidableEq

def Quote.char : Quote → Char
  | .double => '"'
  | .single => '\''

/-- The six escapes, by what they stand for. -/
inductive Escape
  | backslash
  | doubleQuote
  | singleQuote
  | lineFeed
  | tab
  | carriageReturn

def Escape.letter : Escape → Char
  | .backslash => '\\'
  | .doubleQuote => '"'
  | .singleQuote => '\''
  | .lineFeed => 'n'
  | .tab => 't'
  | .carriageReturn => 'r'

def Escape.char : Escape → Char
  | .backslash => '\\'
  | .doubleQuote => '"'
  | .singleQuote => '\''
  | .lineFeed => '\n'
  | .tab => '\t'
  | .carriageReturn => '\r'

inductive QuotedChar (q : Quote)
  | plain (c : Char) (free : c ≠ q.char ∧ c ≠ '\\')
  | escaped (e : Escape)

def QuotedChar.text {q : Quote} : QuotedChar q → List Char
  | .plain c _ => [c]
  | .escaped e => ['\\', e.letter]

def QuotedChar.char {q : Quote} : QuotedChar q → Char
  | .plain c _ => c
  | .escaped e => e.char

def tripleQuote : List Char := ['"', '"', '"']

/-- A text in quotes of either kind, or as it stands between three double quotes. -/
inductive Quoted
  | short (q : Quote) (chars : List (QuotedChar q))
  | long (inside : List Char) (free : ¬tripleQuote <:+: inside) (last : inside.getLast? ≠ some '"')

def Quoted.text : Quoted → List Char
  | .short q chars => q.char :: (chars.flatMap QuotedChar.text ++ [q.char])
  | .long inside _ _ => tripleQuote ++ inside ++ tripleQuote

def Quoted.chars : Quoted → List Char
  | .short _ chars => chars.map QuotedChar.char
  | .long inside _ _ => inside

/-! ### Literals -/

/-- What stands before a closing bracket: blanks, and a last comma if one is written. -/
structure Ending where
  comma : Option Filler
  last : Filler

def Ending.text (e : Ending) : List Char :=
  (match e.comma with
    | some before => before.text ++ [',']
    | none => []) ++ e.last.text

mutual

inductive Literal
  | null
  | bool (b : Bool)
  | int (n : Numeral)
  | string (t : Quoted)
  | list (items : Items) (ending : Ending)

inductive Items
  | nil
  | cons (before : Filler) (v : Literal) (after : Filler) (more : Items)

end

mutual

def Literal.text : Literal → List Char
  | .null => ['n', 'u', 'l', 'l']
  | .bool true => ['t', 'r', 'u', 'e']
  | .bool false => ['f', 'a', 'l', 's', 'e']
  | .int n => n.text
  | .string t => t.text
  | .list items ending => '[' :: (items.text ++ (ending.text ++ [']']))

def Items.text : Items → List Char
  | .nil => []
  | .cons before v after more => before.text ++ (v.text ++ (after.text ++ more.textAfter))

def Items.textAfter : Items → List Char
  | .nil => []
  | .cons before v after more =>
    ',' :: (before.text ++ (v.text ++ (after.text ++ more.textAfter)))

end

mutual

def Literal.value : Literal → Value
  | .null => .null
  | .bool b => .bool b
  | .int n => .int (Int64.ofInt n.value)
  | .string t => .string (String.ofList t.chars)
  | .list items _ => .list items.values

def Items.values : Items → List Value
  | .nil => []
  | .cons _ v _ more => v.value :: more.values

end

mutual

def Literal.fits : Literal → Bool
  | .int n => n.fits
  | .list items _ => items.fits
  | _ => true

def Items.fits : Items → Bool
  | .nil => true
  | .cons _ v _ more => v.fits && more.fits

end

/-! ### Arguments -/

inductive Argument
  | named (key : Name) (gap : Gap) (before : Filler) (v : Literal)
  | positional (v : Literal)

namespace Argument

def text : Argument → List Char
  | named key gap before v => key.text ++ (gap.text ++ ':' :: (before.text ++ v.text))
  | positional v => v.text

def entry? : Argument → Option (String × Value)
  | named key _ _ v => some (String.ofList key.text, v.value)
  | positional _ => none

def positional? : Argument → Option Value
  | named _ _ _ _ => none
  | positional v => some v.value

def fits : Argument → Bool
  | named _ _ _ v => v.fits
  | positional v => v.fits

end Argument

structure Slot where
  before : Filler
  argument : Argument
  after : Filler

def Slot.text (s : Slot) : List Char := s.before.text ++ (s.argument.text ++ s.after.text)

def slotsAfter (slots : List Slot) : List Char := slots.flatMap fun s => ',' :: s.text

def slotsText : List Slot → List Char
  | [] => []
  | s :: more => s.text ++ slotsAfter more

structure BareSlot where
  gap : Gap
  before : Filler
  argument : Argument

def BareSlot.text (s : BareSlot) : List Char := s.gap.text ++ ',' :: (s.before.text ++ s.argument.text)

/-- The arguments of an element: none, in parentheses, or bare on the line of the name. -/
inductive Arguments
  | none
  | parens (gap : Gap) (slots : List Slot) (ending : Ending)
  | bare (tab : Bool) (gap : Gap) (first : Argument) (more : List BareSlot)

namespace Arguments

def text : Arguments → List Char
  | none => []
  | parens gap slots ending => gap.text ++ '(' :: (slotsText slots ++ (ending.text ++ [')']))
  | bare tab gap first more =>
    Gap.text (tab :: gap) ++ (first.text ++ more.flatMap BareSlot.text)

def list : Arguments → List Argument
  | none => []
  | parens _ slots _ => slots.map Slot.argument
  | bare _ _ first more => first :: more.map BareSlot.argument

def named (args : Arguments) : List (String × Value) := args.list.filterMap Argument.entry?

def positional (args : Arguments) : List Value := args.list.filterMap Argument.positional?

def fits (args : Arguments) : Bool := args.list.all Argument.fits

end Arguments

/-! ### Elements -/

mutual

inductive Element
  | node (name : Name) (args : Arguments) (block : Block)

inductive Block
  | none
  | braces (gap : Gap) (before : Filler) (inside : Forest) (after : Filler)

inductive Forest
  | nil
  | last (e : Element)
  | cons (e : Element) (apart : Separator) (more : Forest)

end

mutual

def Element.text : Element → List Char
  | .node name args block => name.text ++ (args.text ++ block.text)

def Block.text : Block → List Char
  | .none => []
  | .braces gap before inside after =>
    gap.text ++ '\x7b' :: (before.text ++ (inside.text ++ (after.text ++ ['\x7d'])))

def Forest.text : Forest → List Char
  | .nil => []
  | .last e => e.text
  | .cons e apart more => e.text ++ (apart.filler.text ++ more.text)

end

mutual

/-- The element that is meant, when it begins on the given line. -/
def Element.element (line : Nat) : Element → Changelog.Element
  | .node name args block => {
      name := String.ofList name.text
      attributes := .merged args.named
      args := args.positional
      children := block.elements (line + args.text.count '\n')
      line := line }

def Block.elements (line : Nat) : Block → List Changelog.Element
  | .none => []
  | .braces _ before inside _ => inside.elements (line + before.text.count '\n')

def Forest.elements (line : Nat) : Forest → List Changelog.Element
  | .nil => []
  | .last e => [e.element line]
  | .cons e apart more =>
    e.element line :: more.elements (line + e.text.count '\n' + apart.filler.text.count '\n')

end

mutual

def Element.fits : Element → Bool
  | .node _ args block => args.fits && block.fits

def Block.fits : Block → Bool
  | .none => true
  | .braces _ _ inside _ => inside.fits

def Forest.fits : Forest → Bool
  | .nil => true
  | .last e => e.fits
  | .cons e _ more => e.fits && more.fits

end

structure Document where
  before : Filler
  inside : Forest
  after : Filler

namespace Document

def text (d : Document) : List Char := d.before.text ++ (d.inside.text ++ d.after.text)

/-- The elements that are meant; the first line has the number one. -/
def elements (d : Document) : List Changelog.Element := d.inside.elements (1 + d.before.text.count '\n')

def fits (d : Document) : Bool := d.inside.fits

end Document

end Changelog.Written
