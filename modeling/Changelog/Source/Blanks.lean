import Changelog.Text.Alphabet

/-!
# What may stand between constructs

White space, separators (`;`) and comments may stand wherever the grammar allows blanks.  A comment that
is not well ended is none.
-/

namespace Changelog.Source

def isSpace (c : Char) : Bool := c == ' ' || c == '\t'

def skipSpaces (s : List Char) : List Char := s.dropWhile isSpace

/-- The white space of the grammar, and the separator. -/
def isSeparator (c : Char) : Bool := c == ' ' || c == '\t' || c == '\r' || c == '\n' || c == ';'

/-- The text from the end of the line on; none if a carriage return stands there alone. -/
def atLineEnd? (s : List Char) : Option (List Char) :=
  match s.dropWhile fun c => c != '\n' && c != '\r' with
  | [] => some []
  | '\n' :: rest => some ('\n' :: rest)
  | '\r' :: '\n' :: rest => some ('\r' :: '\n' :: rest)
  | _ => none

def afterCommentEnd? : List Char → Option (List Char)
  | [] => none
  | c :: rest =>
    match c, rest with
    | '*', '/' :: rest => some rest
    | _, rest => afterCommentEnd? rest

theorem length_dropWhile_le {α : Type} (p : α → Bool) (s : List α) :
    (s.dropWhile p).length ≤ s.length :=
  (List.dropWhile_sublist p).length_le

theorem length_dropWhile_lt_cons {α : Type} (p : α → Bool) (a : α) (s : List α) :
    (s.dropWhile p).length < (a :: s).length :=
  Nat.lt_succ_of_le (length_dropWhile_le p s)

theorem atLineEnd?_length {s rest : List Char} (h : atLineEnd? s = some rest) :
    rest.length ≤ s.length := by
  have hle := length_dropWhile_le (fun c => c != '\n' && c != '\r') s
  unfold atLineEnd? at h
  split at h <;> simp_all <;> subst h <;> simp <;> omega

theorem afterCommentEnd?_length {s rest : List Char} (h : afterCommentEnd? s = some rest) :
    rest.length ≤ s.length := by
  induction s with
  | nil => simp [afterCommentEnd?] at h
  | cons c t ih =>
    unfold afterCommentEnd? at h
    split at h
    · injection h with h
      subst h
      simp only [List.length_cons]
      omega
    · have := ih h
      simp only [List.length_cons]
      omega

theorem skipSpaces_length (s : List Char) : (skipSpaces s).length ≤ s.length :=
  length_dropWhile_le isSpace s

/-- The text after blanks: separators and well ended comments. -/
def skipBlanks (s : List Char) : List Char :=
  match s with
  | [] => []
  | '/' :: '/' :: rest =>
    match _h : atLineEnd? rest with
    | some after => skipBlanks after
    | none => '/' :: '/' :: rest
  | '/' :: '*' :: rest =>
    match _h : afterCommentEnd? rest with
    | some after => skipBlanks after
    | none => '/' :: '*' :: rest
  | c :: rest => if isSeparator c then skipBlanks rest else c :: rest
termination_by s.length
decreasing_by
  · have := atLineEnd?_length _h
    simp only [List.length_cons]
    omega
  · have := afterCommentEnd?_length _h
    simp only [List.length_cons]
    omega
  · simp

theorem skipBlanks_length (s : List Char) : (skipBlanks s).length ≤ s.length := by
  fun_induction skipBlanks s with
  | case1 => simp
  | case2 rest after h ih =>
    have := atLineEnd?_length h
    simp only [List.length_cons]
    omega
  | case3 => simp
  | case4 rest after h ih =>
    have := afterCommentEnd?_length h
    simp only [List.length_cons]
    omega
  | case5 => simp
  | case6 c rest _ _ _ ih =>
    simp only [List.length_cons]
    omega
  | case7 => simp

/-- A character of names: a letter or number of any script, or an underscore. -/
def isNameChar (c : Char) : Bool := Text.isAlphanumeric c || c == '_'

def nameGoesOn : List Char → Bool
  | [] => false
  | c :: _ => isNameChar c

end Changelog.Source
