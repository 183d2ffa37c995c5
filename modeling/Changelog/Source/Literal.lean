import Changelog.Source.Reading
import Changelog.Source.Blanks
import Changelog.Value.Basic

/-!
# Names and literals

A name is a run of name characters that does not begin with a digit.  A literal is a text in quotes, a
number, one of the words `true`, `false` and `null`, or a list of literals.
-/

namespace Changelog.Source

open Changelog.Text (isAsciiDigit)

def name (s : List Char) : Reading String s :=
  match s with
  | [] => .absent
  | c :: rest =>
    if isNameChar c && !isAsciiDigit c then
      .found (String.ofList (c :: rest.takeWhile isNameChar)) (rest.dropWhile isNameChar)
        (length_dropWhile_lt_cons isNameChar c rest)
    else .absent

/-! ### Texts in quotes -/

def unescape? : Char → Option Char
  | '\\' => some '\\'
  | '"' => some '"'
  | '\'' => some '\''
  | 'n' => some '\n'
  | 't' => some '\t'
  | 'r' => some '\r'
  | _ => none

/-- The text up to the closing quote, its escapes replaced, and what follows the quote. -/
def quotedText? (quote : Char) : List Char → Option (List Char × List Char)
  | [] => none
  | c :: rest =>
    if c = quote then some ([], rest)
    else if c = '\\' then
      match rest with
      | [] => none
      | e :: rest =>
        match unescape? e with
        | none => none
        | some x => (quotedText? quote rest).map fun p => (x :: p.1, p.2)
    else (quotedText? quote rest).map fun p => (c :: p.1, p.2)

/-- The text up to three double quotes, as it stands, and what follows them. -/
def longText? : List Char → Option (List Char × List Char)
  | [] => none
  | '"' :: '"' :: '"' :: rest => some ([], rest)
  | c :: rest => (longText? rest).map fun p => (c :: p.1, p.2)

def longQuoted? : List Char → Option (List Char × List Char)
  | '"' :: '"' :: '"' :: rest => longText? rest
  | _ => none

def shortQuoted? : List Char → Option (List Char × List Char)
  | '"' :: rest => quotedText? '"' rest
  | '\'' :: rest => quotedText? '\'' rest
  | _ => none

/-- A text in quotes; three double quotes that nothing closes begin with an empty text. -/
def quoted? (s : List Char) : Option (List Char × List Char) :=
  match longQuoted? s with
  | some p => some p
  | none => shortQuoted? s

theorem quotedText?_length {quote : Char} {s : List Char} {p : List Char × List Char}
    (h : quotedText? quote s = some p) : p.2.length < s.length := by
  fun_induction quotedText? quote s generalizing p with
  | case1 => simp at h
  | case2 rest =>
    injection h with h
    subst h
    simp
  | case3 => simp at h
  | case4 => simp at h
  | case5 e rest x _ _ ih =>
    obtain ⟨q, hq, rfl⟩ := Option.map_eq_some_iff.1 h
    have := ih hq
    simp only [List.length_cons]
    omega
  | case6 c rest _ _ ih =>
    obtain ⟨q, hq, rfl⟩ := Option.map_eq_some_iff.1 h
    have := ih hq
    simp only [List.length_cons]
    omega

theorem longText?_length {s : List Char} {p : List Char × List Char}
    (h : longText? s = some p) : p.2.length < s.length := by
  fun_induction longText? s generalizing p with
  | case1 => simp at h
  | case2 rest =>
    injection h with h
    subst h
    simp only [List.length_cons]
    omega
  | case3 c rest _ ih =>
    obtain ⟨q, hq, rfl⟩ := Option.map_eq_some_iff.1 h
    have := ih hq
    simp only [List.length_cons]
    omega

theorem longQuoted?_length {s : List Char} {p : List Char × List Char}
    (h : longQuoted? s = some p) : p.2.length < s.length := by
  unfold longQuoted? at h
  split at h
  · have := longText?_length h
    simp only [List.length_cons]
    omega
  · simp at h

theorem shortQuoted?_length {s : List Char} {p : List Char × List Char}
    (h : shortQuoted? s = some p) : p.2.length < s.length := by
  unfold shortQuoted? at h
  split at h
  · have := quotedText?_length h
    simp only [List.length_cons]
    omega
  · have := quotedText?_length h
    simp only [List.length_cons]
    omega
  · simp at h

theorem quoted?_length {s : List Char} {p : List Char × List Char}
    (h : quoted? s = some p) : p.2.length < s.length := by
  unfold quoted? at h
  split at h
  · next hl =>
    injection h with h
    subst h
    exact longQuoted?_length hl
  · exact shortQuoted?_length h

/-! ### Numbers -/

def decimalValue (digits : List Char) : Nat :=
  digits.foldl (fun n c => 10 * n + (c.toNat - 48)) 0

def splitSign : List Char → Bool × List Char
  | '-' :: rest => (true, rest)
  | s => (false, s)

def floatValue (negative : Bool) (whole fraction : List Char) : Float :=
  let x := Float.ofScientific (decimalValue (whole ++ fraction)) true fraction.length
  if negative then -x else x

def intValue (negative : Bool) (digits : List Char) : Int :=
  if negative then -(decimalValue digits : Int) else decimalValue digits

def fitsInt64 (i : Int) : Bool := -0x8000000000000000 ≤ i && i < 0x8000000000000000

theorem splitSign_length (s : List Char) : (splitSign s).2.length ≤ s.length := by
  unfold splitSign
  split <;> simp

theorem length_dropWhile_lt {α : Type} {p : α → Bool} {s : List α} (h : s.takeWhile p ≠ []) :
    (s.dropWhile p).length < s.length := by
  cases s with
  | nil => simp at h
  | cons c rest =>
    by_cases hc : p c
    · have := length_dropWhile_le p rest
      simp only [List.dropWhile_cons, hc, List.length_cons, if_true]
      omega
    · simp [hc] at h

/-- Reads a number: digits with a point and more digits, or an integer.  A name may not follow, and an
integer has to fit 64 bits. -/
def number (s : List Char) : Reading Value s :=
  let body := (splitSign s).2
  let whole := body.takeWhile isAsciiDigit
  let rest := body.dropWhile isAsciiDigit
  if hw : whole = [] then .absent
  else
    have hrest : rest.length < s.length :=
      Nat.lt_of_lt_of_le (length_dropWhile_lt hw) (splitSign_length s)
    let afterPoint := rest.drop 1
    let fraction := afterPoint.takeWhile isAsciiDigit
    if rest.head? = some '.' ∧ fraction ≠ [] then
      let after := afterPoint.dropWhile isAsciiDigit
      if nameGoesOn after then .absent
      else .found (.float (floatValue (splitSign s).1 whole fraction)) after (by
        have h1 := length_dropWhile_le isAsciiDigit afterPoint
        have h2 : afterPoint.length ≤ rest.length := by simp [afterPoint]
        show (afterPoint.dropWhile isAsciiDigit).length < s.length
        omega)
    else
      let i := intValue (splitSign s).1 whole
      if !fitsInt64 i then .fault (.outOfRange s)
      else if nameGoesOn rest then .absent
      else .found (.int (Int64.ofInt i)) rest hrest

/-! ### Words and lists -/

/-- The text after a word, where no name goes on. -/
def afterWord? (word s : List Char) : Option (List Char) :=
  if word.isPrefixOf s && !nameGoesOn (s.drop word.length) then some (s.drop word.length) else none

def wordLiteral? (s : List Char) : Option (Value × List Char) :=
  match afterWord? ['t', 'r', 'u', 'e'] s with
  | some rest => some (.bool true, rest)
  | none =>
    match afterWord? ['f', 'a', 'l', 's', 'e'] s with
    | some rest => some (.bool false, rest)
    | none =>
      match afterWord? ['n', 'u', 'l', 'l'] s with
      | some rest => some (.null, rest)
      | none => none

theorem afterWord?_length {word s rest : List Char} (hw : word ≠ [])
    (h : afterWord? word s = some rest) : rest.length < s.length := by
  unfold afterWord? at h
  split at h
  · next hc =>
    injection h with h
    subst h
    have hp : word <+: s := List.isPrefixOf_iff_prefix.1 (by simp_all)
    have hl := hp.length_le
    have h0 : 0 < word.length := List.length_pos_iff.2 hw
    rw [List.length_drop]
    omega
  · simp at h

theorem wordLiteral?_length {s : List Char} {p : Value × List Char}
    (h : wordLiteral? s = some p) : p.2.length < s.length := by
  unfold wordLiteral? at h
  split at h
  · next hr =>
    injection h with h
    subst h
    exact afterWord?_length (by simp) hr
  · split at h
    · next hr =>
      injection h with h
      subst h
      exact afterWord?_length (by simp) hr
    · split at h
      · next hr =>
        injection h with h
        subst h
        exact afterWord?_length (by simp) hr
      · simp at h

def scalar (s : List Char) : Reading Value s :=
  match h : quoted? s with
  | some (text, rest) => .found (.string (String.ofList text)) rest (quoted?_length h)
  | none =>
    match number s with
    | .found v rest h => .found v rest h
    | .fault f => .fault f
    | .absent =>
      match h : wordLiteral? s with
      | some (v, rest) => .found v rest (wordLiteral?_length h)
      | none => .absent

/-- Where a closing bracket has to stand: after blanks, or after a last comma between blanks. -/
def closingPlace (s : List Char) : List Char :=
  match skipBlanks s with
  | ',' :: rest => skipBlanks rest
  | rest => rest

theorem closingPlace_length (s : List Char) : (closingPlace s).length ≤ s.length := by
  have h1 := skipBlanks_length s
  unfold closingPlace
  split
  · next rest h =>
    have h2 := skipBlanks_length rest
    rw [h] at h1
    simp only [List.length_cons] at h1
    omega
  · next h => exact h1

def closeList (s : List Char) : Reading (List Value) s :=
  match h : closingPlace s with
  | ']' :: rest => .found [] rest (by
      have := closingPlace_length s
      rw [h] at this
      simp only [List.length_cons] at this
      omega)
  | _ => .absent

mutual

def literal (s : List Char) : Reading Value s :=
  match scalar s with
  | .found v rest h => .found v rest h
  | .fault f => .fault f
  | .absent =>
    match s with
    | '[' :: r =>
      match items (skipBlanks r) with
      | .found vs rest h => .found (.list vs) rest (by
          have := skipBlanks_length r
          simp only [List.length_cons]
          omega)
      | .fault f => .fault f
      | .absent => .absent
    | _ => .absent
termination_by (s.length, 0)
decreasing_by
  have := skipBlanks_length r
  exact .left _ _ (by simp only [List.length_cons]; omega)

/-- Reads the literals of a list, from the first on, and the bracket that closes it. -/
def items (s : List Char) : Reading (List Value) s :=
  match literal s with
  | .found v rest h =>
    match moreItems rest with
    | .found vs rest' h' => .found (v :: vs) rest' (by omega)
    | .fault f => .fault f
    | .absent => .absent
  | .fault f => .fault f
  | .absent => closeList s
termination_by (s.length, 1)
decreasing_by
  · exact .right _ (by decide)
  · exact .left _ _ h

/-- Reads what follows a literal of a list: more of them after commas, and the closing bracket. -/
def moreItems (s : List Char) : Reading (List Value) s :=
  match hs : skipBlanks s with
  | ',' :: r =>
    match literal (skipBlanks r) with
    | .found v rest h =>
      match moreItems rest with
      | .found vs rest' h' => .found (v :: vs) rest' (by
          have h1 := skipBlanks_length s
          have h2 := skipBlanks_length r
          rw [hs] at h1
          simp only [List.length_cons] at h1
          omega)
      | .fault f => .fault f
      | .absent => .absent
    | .fault f => .fault f
    | .absent => closeList s
  | _ => closeList s
termination_by (s.length, 0)
decreasing_by
  · have h1 := skipBlanks_length s
    have h2 := skipBlanks_length r
    rw [hs] at h1
    simp only [List.length_cons] at h1
    exact .left _ _ (by omega)
  · have h1 := skipBlanks_length s
    have h2 := skipBlanks_length r
    rw [hs] at h1
    simp only [List.length_cons] at h1
    exact .left _ _ (by omega)

end

end Changelog.Source
