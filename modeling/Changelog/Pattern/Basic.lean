import Changelog.Text.Alphabet

/-!
# Patterns

A pattern describes pieces of text: characters of a set, conditions on a place, and groups, sequences,
alternatives and repetitions of patterns.
-/

namespace Changelog.Pattern

/-- A condition on a place between two characters.  The word conditions ask for ASCII words or for
words of any script. -/
inductive Anchor
  | textStart
  | textEnd
  | lineStart
  | lineEnd
  | lineStartCrlf
  | lineEndCrlf
  | wordBoundary (ascii : Bool)
  | notWordBoundary (ascii : Bool)
  | wordStart (ascii : Bool)
  | wordEnd (ascii : Bool)
  | wordStartHalf (ascii : Bool)
  | wordEndHalf (ascii : Bool)
deriving DecidableEq

def isWordAt (ascii : Bool) : Option Char → Bool
  | none => false
  | some c => Text.isWordChar c && (!ascii || c.toNat < 128)

/-- Whether the condition holds between two neighbours; at an end of the text there is none. -/
def Anchor.holds (before after : Option Char) : Anchor → Bool
  | .textStart => before.isNone
  | .textEnd => after.isNone
  | .lineStart => before.isNone || before == some '\n'
  | .lineEnd => after.isNone || after == some '\n'
  | .lineStartCrlf => before.isNone || before == some '\n' || (before == some '\r' && after != some '\n')
  | .lineEndCrlf => after.isNone || after == some '\r' || (after == some '\n' && before != some '\r')
  | .wordBoundary ascii => isWordAt ascii before != isWordAt ascii after
  | .notWordBoundary ascii => isWordAt ascii before == isWordAt ascii after
  | .wordStart ascii => !isWordAt ascii before && isWordAt ascii after
  | .wordEnd ascii => isWordAt ascii before && !isWordAt ascii after
  | .wordStartHalf ascii => !isWordAt ascii before
  | .wordEndHalf ascii => !isWordAt ascii after

end Changelog.Pattern

namespace Changelog

inductive Pattern
  | empty
  | one (set : Text.CodePoints)
  | anchor (a : Pattern.Anchor)
  /-- A pattern whose piece of the text is to be remembered. -/
  | group (p : Pattern)
  | seq (p q : Pattern)
  | either (p q : Pattern)
  | times (p : Pattern) (least : Nat) (most : Option Nat)
deriving DecidableEq

namespace Pattern

def seqAll : List Pattern → Pattern
  | [] => .empty
  | [p] => p
  | p :: rest => .seq p (seqAll rest)

/-- Whether the pattern matches nothing but the empty text. -/
def isVoid : Pattern → Bool
  | .empty => true
  | .one _ => false
  | .anchor _ => true
  | .group p => p.isVoid
  | .seq p q => p.isVoid && q.isVoid
  | .either p q => p.isVoid && q.isVoid
  | .times p _ most => most = some 0 || p.isVoid

def eitherAll : List Pattern → Pattern
  | [] => .empty
  | [p] => p
  | p :: rest => .either p (eitherAll rest)

end Pattern

end Changelog
