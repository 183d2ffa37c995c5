import Changelog.Source.Literal

/-!
# Arguments

The values of an element follow its name: in parentheses, or bare after spaces on the same line.  Inside
parentheses nothing but arguments may stand, so whatever else does is a fault at its place.
-/

namespace Changelog.Source

inductive Argument
  | named (key : String) (value : Value)
  | positional (value : Value)

def namedArgument (s : List Char) : Reading Argument s :=
  match name s with
  | .found key rest h =>
    match hc : skipSpaces rest with
    | ':' :: r =>
      match literal (skipBlanks r) with
      | .found v rest' h' => .found (.named key v) rest' (by
          have h1 := skipSpaces_length rest
          have h2 := skipBlanks_length r
          rw [hc] at h1
          simp only [List.length_cons] at h1
          omega)
      | .fault f => .fault f
      | .absent => .absent
    | _ => .absent
  | .fault f => .fault f
  | .absent => .absent

def argument (s : List Char) : Reading Argument s :=
  match namedArgument s with
  | .found a rest h => .found a rest h
  | .fault f => .fault f
  | .absent =>
    match literal s with
    | .found v rest h => .found (.positional v) rest h
    | .fault f => .fault f
    | .absent => .absent

/-- The text after the closing parenthesis, which has to stand here. -/
def closeArguments (s : List Char) : Run (List Argument) s :=
  match h : closingPlace s with
  | ')' :: rest => .read [] rest (by
      have := closingPlace_length s
      rw [h] at this
      simp only [List.length_cons] at this
      omega)
  | _ => .fault (.unexpected (closingPlace s))

/-- Reads what follows an argument in parentheses: more of them after commas, and the end. -/
def moreArguments (s : List Char) : Run (List Argument) s :=
  match hs : skipBlanks s with
  | ',' :: r =>
    match argument (skipBlanks r) with
    | .found a rest h =>
      match moreArguments rest with
      | .read as rest' h' => .read (a :: as) rest' (by
          have h1 := skipBlanks_length s
          have h2 := skipBlanks_length r
          rw [hs] at h1
          simp only [List.length_cons] at h1
          omega)
      | .fault f => .fault f
    | .fault f => .fault f
    | .absent => closeArguments s
  | _ => closeArguments s
termination_by s.length
decreasing_by
  have h1 := skipBlanks_length s
  have h2 := skipBlanks_length r
  rw [hs] at h1
  simp only [List.length_cons] at h1
  omega

def argumentsInParens (s : List Char) : Run (List Argument) s :=
  match argument s with
  | .found a rest h =>
    match moreArguments rest with
    | .read as rest' h' => .read (a :: as) rest' (by omega)
    | .fault f => .fault f
  | .fault f => .fault f
  | .absent => closeArguments s

/-- Reads more bare arguments, each after a comma on the line where the one before it ends. -/
def moreBareArguments (s : List Char) : Run (List Argument) s :=
  match hs : skipSpaces s with
  | ',' :: r =>
    match argument (skipBlanks r) with
    | .found a rest h =>
      match moreBareArguments rest with
      | .read as rest' h' => .read (a :: as) rest' (by
          have h1 := skipSpaces_length s
          have h2 := skipBlanks_length r
          rw [hs] at h1
          simp only [List.length_cons] at h1
          omega)
      | .fault f => .fault f
    | .fault f => .fault f
    | .absent => .read [] s (Nat.le_refl _)
  | _ => .read [] s (Nat.le_refl _)
termination_by s.length
decreasing_by
  have h1 := skipSpaces_length s
  have h2 := skipBlanks_length r
  rw [hs] at h1
  simp only [List.length_cons] at h1
  omega

def startsWithSpace : List Char → Bool
  | [] => false
  | c :: _ => isSpace c

def bareArguments (s : List Char) : Run (List Argument) s :=
  if startsWithSpace s then
    match argument (skipSpaces s) with
    | .found a rest h =>
      match moreBareArguments rest with
      | .read as rest' h' => .read (a :: as) rest' (by
          have := skipSpaces_length s
          omega)
      | .fault f => .fault f
    | .fault f => .fault f
    | .absent => .read [] s (Nat.le_refl _)
  else .read [] s (Nat.le_refl _)

def arguments (s : List Char) : Run (List Argument) s :=
  match hs : skipSpaces s with
  | '(' :: r =>
    match argumentsInParens (skipBlanks r) with
    | .read as rest h => .read as rest (by
        have h1 := skipSpaces_length s
        have h2 := skipBlanks_length r
        rw [hs] at h1
        simp only [List.length_cons] at h1
        omega)
    | .fault f => .fault f
  | _ => bareArguments s

def namedOf (args : List Argument) : List (String × Value) :=
  args.filterMap fun
    | .named key value => some (key, value)
    | .positional _ => none

def positionalOf (args : List Argument) : List Value :=
  args.filterMap fun
    | .named _ _ => none
    | .positional value => some value

end Changelog.Source
