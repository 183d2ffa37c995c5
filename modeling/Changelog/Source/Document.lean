import Changelog.Source.Argument
import Changelog.Element
import Changelog.Text.Lines

/-!
# Reading a source text

A source text is a sequence of elements with blanks around them.  An element is a name, arguments, and a
block of elements in braces.  `readElements` reads a whole text or says at which line it stops making
sense.
-/

namespace Changelog.Source

/-- The line on which `rest` begins, in a text that has `total` line feeds. -/
def lineAt (total : Nat) (rest : List Char) : Nat := total - Text.lineEnds rest + 1

def elementOf (name : String) (args : List Argument) (children : List Element) (line : Nat) :
    Element where
  name := name
  attributes := .ofList (namedOf args)
  args := positionalOf args
  children := children
  line := line

def afterOpening? (s : List Char) : Option (List Char) :=
  match skipSpaces s with
  | '{' :: inside => some inside
  | _ => none

theorem afterOpening?_length {s inside : List Char} (h : afterOpening? s = some inside) :
    inside.length < s.length := by
  have hle := skipSpaces_length s
  unfold afterOpening? at h
  split at h
  · next hs =>
    injection h with h
    subst h
    rw [hs] at hle
    exact hle
  · nomatch h

def afterClosing? : List Char → Option (List Char)
  | '}' :: rest => some rest
  | _ => none

theorem afterClosing?_length {s rest : List Char} (h : afterClosing? s = some rest) :
    rest.length < s.length := by
  unfold afterClosing? at h
  split at h
  · injection h with h
    subst h
    exact Nat.lt_succ_self _
  · nomatch h

mutual

def element (total : Nat) (s : List Char) : Reading Element s :=
  match name s with
  | .absent => .absent
  | .fault f => .fault f
  | .found nm afterName hn =>
    match arguments afterName with
    | .fault f => .fault f
    | .read args afterArgs ha =>
      match hb : afterOpening? afterArgs with
      | some inside =>
        match elements total (skipBlanks inside) with
        | .fault f => .fault f
        | .read children afterChildren hc =>
          match he : afterClosing? afterChildren with
          | some rest => .found (elementOf nm args children (lineAt total s)) rest (by
              have h1 := afterOpening?_length hb
              have h2 := skipBlanks_length inside
              have h3 := afterClosing?_length he
              omega)
          | none => .fault (.unexpected afterChildren)
      | none => .found (elementOf nm args [] (lineAt total s)) afterArgs (by omega)
termination_by (s.length, 0)
decreasing_by
  have h1 := afterOpening?_length hb
  have h2 := skipBlanks_length inside
  exact .left _ _ (by omega)

def elements (total : Nat) (s : List Char) : Run (List Element) s :=
  match element total s with
  | .absent => .read [] s (Nat.le_refl _)
  | .fault f => .fault f
  | .found e rest h =>
    match elements total (skipBlanks rest) with
    | .fault f => .fault f
    | .read es rest' h' => .read (e :: es) rest' (by
        have := skipBlanks_length rest
        omega)
termination_by (s.length, 1)
decreasing_by
  · exact .right _ (by decide)
  · have := skipBlanks_length rest
    exact .left _ _ (by omega)

end

inductive SyntaxCause
  /-- Something else has to stand where `near` does. -/
  | unexpected (near : String)
  /-- The text ends, or its line does, where something has to stand. -/
  | unexpectedEnd
  | outOfRange (literal : String)
deriving DecidableEq, Repr

structure SyntaxError where
  line : Nat
  cause : SyntaxCause
deriving DecidableEq, Repr

def SyntaxCause.message : SyntaxCause → String
  | .unexpected near => "unexpected input near '" ++ near ++ "'"
  | .unexpectedEnd => "unexpected end of input"
  | .outOfRange literal => "integer literal '" ++ literal ++ "' is out of range"

def SyntaxError.text (e : SyntaxError) : String :=
  "line " ++ toString e.line ++ ": " ++ e.cause.message

/-- What is shown of a text that should not be there: the first characters of its first line. -/
def excerpt (rest : List Char) : List Char :=
  (Text.trim ((Text.lines rest).head?.getD [])).take 24

def integerText (rest : List Char) : List Char :=
  (if (splitSign rest).1 then ['-'] else []) ++ (splitSign rest).2.takeWhile Text.isAsciiDigit

def Fault.toError (total : Nat) : Fault → SyntaxError
  | .unexpected rest =>
    ⟨lineAt total rest,
      if excerpt rest = [] then .unexpectedEnd else .unexpected (String.ofList (excerpt rest))⟩
  | .outOfRange rest => ⟨lineAt total rest, .outOfRange (String.ofList (integerText rest))⟩

def readChars (s : List Char) : Except SyntaxError (List Element) :=
  let total := Text.lineEnds s
  match elements total (skipBlanks s) with
  | .read es [] _ => .ok es
  | .read _ rest _ => .error ((Fault.unexpected rest).toError total)
  | .fault f => .error (f.toError total)

def readElements (source : String) : Except SyntaxError (List Element) := readChars source.toList

end Changelog.Source
