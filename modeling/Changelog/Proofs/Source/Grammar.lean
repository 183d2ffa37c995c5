import Changelog.Proofs.Source.Written

/-!
# The grammar of source texts

What a source text is, as a grammar: `P s value rest` says that the text `s` begins with a `P` that means
`value`, and that `rest` follows it.  Each production names every character that it takes from the text,
so a derivation leaves out none.

    document  := blanks (node blanks)*
    node      := name arguments block
    arguments := ( spaces '(' listed(argument) ')' | space spaces argument (spaces ',' blanks argument)* )?
    block     := ( spaces '{' blanks (node blanks)* '}' )?
    argument  := name spaces ':' blanks literal | literal
    literal   := scalar | '[' listed(literal) ']'
    scalar    := text | integer | decimal | true | false | null
    listed(p) := ( blanks p (blanks ',' blanks p)* )? ( blanks ',' )? blanks
-/

namespace Changelog.Grammar

open Changelog.Source

inductive LineEnd : List Char → Prop
  | text : LineEnd []
  | lineFeed (rest : List Char) : LineEnd ('\n' :: rest)
  | carriageReturn (rest : List Char) : LineEnd ('\r' :: '\n' :: rest)

/-- White space, separators, and comments that are well ended. -/
inductive Blanks : List Char → List Char → Prop
  | nil (s : List Char) : Blanks s s
  | separator {c : Char} {s rest : List Char} (hc : isSeparator c = true) (h : Blanks s rest) :
      Blanks (c :: s) rest
  | lineComment {inside s rest : List Char} (oneLine : '\n' ∉ inside ∧ '\r' ∉ inside) (hend : LineEnd s)
      (h : Blanks s rest) : Blanks ('/' :: '/' :: (inside ++ s)) rest
  | blockComment {inside s rest : List Char} (open_ : ¬['*', '/'] <:+: inside) (h : Blanks s rest) :
      Blanks ('/' :: '*' :: (inside ++ '*' :: '/' :: s)) rest

inductive Spaces : List Char → List Char → Prop
  | nil (s : List Char) : Spaces s s
  | cons {c : Char} {s rest : List Char} (hc : isSpace c = true) (h : Spaces s rest) :
      Spaces (c :: s) rest

/-- The end of a list: its closing bracket, before which a comma may stand. -/
inductive Closing (bracket : Char) : List Char → List Char → Prop
  | plain {s rest : List Char} (h : Blanks s (bracket :: rest)) : Closing bracket s rest
  | comma {s after rest : List Char} (hcomma : Blanks s (',' :: after))
      (h : Blanks after (bracket :: rest)) : Closing bracket s rest

variable {α : Type}

/-- What follows an item of a list: more items, each after a comma, and the closing bracket. -/
inductive More (Item : List Char → α → List Char → Prop) (bracket : Char) :
    List Char → List α → List Char → Prop
  | close {s rest : List Char} (h : Closing bracket s rest) : More Item bracket s [] rest
  | cons {s after next last rest : List Char} {a : α} {as : List α} (hcomma : Blanks s (',' :: after))
      (hblanks : Blanks after next) (h : Item next a last) (hmore : More Item bracket last as rest) :
      More Item bracket s (a :: as) rest

inductive Listed (Item : List Char → α → List Char → Prop) (opening closing : Char) :
    List Char → List α → List Char → Prop
  | close {inside rest : List Char} (h : Closing closing inside rest) :
      Listed Item opening closing (opening :: inside) [] rest
  | cons {inside first last rest : List Char} {a : α} {as : List α} (hblanks : Blanks inside first)
      (h : Item first a last) (hmore : More Item closing last as rest) :
      Listed Item opening closing (opening :: inside) (a :: as) rest

/-- A name, with all its characters. -/
inductive Name : List Char → String → List Char → Prop
  | mk (n : Written.Name) {rest : List Char} (hend : nameGoesOn rest = false) :
      Name (n.text ++ rest) (String.ofList n.text) rest

def Digits (s : List Char) : Prop := s ≠ [] ∧ ∀ c ∈ s, Text.isAsciiDigit c = true

def FractionFollows (s : List Char) : Prop := ∃ c rest, s = '.' :: c :: rest ∧ Text.isAsciiDigit c = true

def signText (negative : Bool) : List Char := if negative then ['-'] else []

/-- A literal that is no list.  An integer fits 64 bits; a text has one of the six escapes after each
backslash, or it stands between three double quotes as it is. -/
inductive Scalar : List Char → Value → List Char → Prop
  | text (t : Written.Quoted) (rest : List Char) :
      Scalar (t.text ++ rest) (.string (String.ofList t.chars)) rest
  | integer (n : Written.Numeral) {rest : List Char} (fits : n.fits = true)
      (hwhole : ¬FractionFollows rest) (hend : nameGoesOn rest = false) :
      Scalar (n.text ++ rest) (.int (Int64.ofInt n.value)) rest
  | decimal (negative : Bool) {whole fraction rest : List Char} (hwhole : Digits whole)
      (hfraction : Digits fraction) (hend : nameGoesOn rest = false) :
      Scalar (signText negative ++ (whole ++ '.' :: (fraction ++ rest)))
        (.float (floatValue negative whole fraction)) rest
  | bool (b : Bool) {rest : List Char} (hend : nameGoesOn rest = false) :
      Scalar ((if b then ['t', 'r', 'u', 'e'] else ['f', 'a', 'l', 's', 'e']) ++ rest) (.bool b) rest
  | null {rest : List Char} (hend : nameGoesOn rest = false) :
      Scalar (['n', 'u', 'l', 'l'] ++ rest) .null rest

inductive Literal : List Char → Value → List Char → Prop
  | scalar {s rest : List Char} {v : Value} (h : Scalar s v rest) : Literal s v rest
  | list {s rest : List Char} {values : List Value} (h : Listed Literal '[' ']' s values rest) :
      Literal s (.list values) rest

inductive Argument : List Char → Source.Argument → List Char → Prop
  | named {s afterName afterColon first rest : List Char} {key : String} {v : Value}
      (hkey : Name s key afterName) (hcolon : Spaces afterName (':' :: afterColon))
      (hblanks : Blanks afterColon first) (h : Literal first v rest) : Argument s (.named key v) rest
  | positional {s rest : List Char} {v : Value} (h : Literal s v rest) : Argument s (.positional v) rest

/-- More bare arguments, each after a comma on the line where the one before it ends. -/
inductive MoreBare : List Char → List Source.Argument → List Char → Prop
  | nil (s : List Char) : MoreBare s [] s
  | cons {s after next last rest : List Char} {a : Source.Argument} {as : List Source.Argument}
      (hcomma : Spaces s (',' :: after)) (hblanks : Blanks after next) (h : Argument next a last)
      (hmore : MoreBare last as rest) : MoreBare s (a :: as) rest

/-- The arguments after a name: in parentheses, or bare from the line of the name on, or none. -/
inductive Arguments : List Char → List Source.Argument → List Char → Prop
  | none (s : List Char) : Arguments s [] s
  | parens {s bracket rest : List Char} {args : List Source.Argument} (hspaces : Spaces s bracket)
      (h : Listed Argument '(' ')' bracket args rest) : Arguments s args rest
  | bare {c : Char} {s first last rest : List Char} {a : Source.Argument}
      {as : List Source.Argument} (hc : isSpace c = true) (hspaces : Spaces s first)
      (h : Argument first a last) (hmore : MoreBare last as rest) : Arguments (c :: s) (a :: as) rest

/-! ### Nodes -/

/-- The number of the line of the source on which a part of it begins. -/
def OnLine (source s : List Char) (line : Nat) : Prop :=
  ∃ before, source = before ++ s ∧ line = before.count '\n' + 1

/-- The element that a node means: a name written again keeps its place and takes the later value. -/
def elementOf (name : String) (args : List Source.Argument) (children : List Element) (line : Nat) :
    Element where
  name := name
  attributes := .merged (namedOf args)
  args := positionalOf args
  children := children
  line := line

mutual

inductive Node (source : List Char) : List Char → Element → List Char → Prop
  | mk {s afterName afterArgs rest : List Char} {name : String} {args : List Source.Argument}
      {children : List Element} {line : Nat} (hline : OnLine source s line)
      (hname : Name s name afterName) (hargs : Arguments afterName args afterArgs)
      (hblock : Block source afterArgs children rest) :
      Node source s (elementOf name args children line) rest

inductive Block (source : List Char) : List Char → List Element → List Char → Prop
  | none (s : List Char) : Block source s [] s
  | braces {s inside first rest : List Char} {children : List Element}
      (hopen : Spaces s ('\x7b' :: inside)) (hblanks : Blanks inside first)
      (h : Nodes source first children ('\x7d' :: rest)) : Block source s children rest

inductive Nodes (source : List Char) : List Char → List Element → List Char → Prop
  | nil (s : List Char) : Nodes source s [] s
  | cons {s last next rest : List Char} {e : Element} {es : List Element} (h : Node source s e last)
      (hblanks : Blanks last next) (hmore : Nodes source next es rest) : Nodes source s (e :: es) rest

end

/-- A whole source text and the elements that it means. -/
def Document (source : List Char) (elements : List Element) : Prop :=
  ∃ first, Blanks source first ∧ Nodes source first elements []

mutual

theorem Literal.induct {P : List Char → Value → List Char → Prop}
    (scalar : ∀ s v rest, Scalar s v rest → P s v rest)
    (list : ∀ s vs rest, Listed P '[' ']' s vs rest → P s (.list vs) rest) :
    ∀ {s v rest}, Literal s v rest → P s v rest
  | _, _, _, .scalar h => scalar _ _ _ h
  | _, _, _, .list h => list _ _ _ (listed_induct scalar list h)

theorem listed_induct {P : List Char → Value → List Char → Prop}
    (scalar : ∀ s v rest, Scalar s v rest → P s v rest)
    (list : ∀ s vs rest, Listed P '[' ']' s vs rest → P s (.list vs) rest) :
    ∀ {s vs rest}, Listed Literal '[' ']' s vs rest → Listed P '[' ']' s vs rest
  | _, _, _, .close h => .close h
  | _, _, _, .cons hblanks h hmore =>
    .cons hblanks (Literal.induct scalar list h) (more_induct scalar list hmore)

theorem more_induct {P : List Char → Value → List Char → Prop}
    (scalar : ∀ s v rest, Scalar s v rest → P s v rest)
    (list : ∀ s vs rest, Listed P '[' ']' s vs rest → P s (.list vs) rest) :
    ∀ {s vs rest}, More Literal ']' s vs rest → More P ']' s vs rest
  | _, _, _, .close h => .close h
  | _, _, _, .cons hcomma hblanks h hmore =>
    .cons hcomma hblanks (Literal.induct scalar list h) (more_induct scalar list hmore)

end

/-! ### What is left of a text -/

theorem Blanks.suffix {s rest : List Char} (h : Blanks s rest) : rest <:+ s := by
  induction h with
  | nil s => exact List.suffix_refl s
  | separator _ _ ih => exact ih.trans (List.suffix_cons _ _)
  | @lineComment inside _ _ _ _ _ ih => exact ih.trans ⟨'/' :: '/' :: inside, rfl⟩
  | @blockComment inside _ _ _ _ ih => exact ih.trans ⟨'/' :: '*' :: (inside ++ ['*', '/']), by simp⟩

theorem Spaces.suffix {s rest : List Char} (h : Spaces s rest) : rest <:+ s := by
  induction h with
  | nil s => exact List.suffix_refl s
  | cons _ _ ih => exact ih.trans (List.suffix_cons _ _)

theorem Closing.suffix {bracket : Char} {s rest : List Char} (h : Closing bracket s rest) :
    rest <:+ s := by
  cases h with
  | plain h => exact (List.suffix_cons _ _).trans h.suffix
  | comma hcomma h =>
    exact ((List.suffix_cons _ _).trans h.suffix).trans ((List.suffix_cons _ _).trans hcomma.suffix)

section Lists

variable {Item : List Char → α → List Char → Prop} {s rest : List Char} {as : List α}

theorem More.suffix {bracket : Char} (hitem : ∀ {s a rest}, Item s a rest → rest <:+ s)
    (h : More Item bracket s as rest) : rest <:+ s := by
  induction h with
  | close h => exact h.suffix
  | cons hcomma hblanks h _ ih =>
    exact ((ih.trans (hitem h)).trans hblanks.suffix).trans
      ((List.suffix_cons _ _).trans hcomma.suffix)

theorem Listed.suffix {opening closing : Char} (hitem : ∀ {s a rest}, Item s a rest → rest <:+ s)
    (h : Listed Item opening closing s as rest) : rest <:+ s := by
  cases h with
  | close h => exact h.suffix.trans (List.suffix_cons _ _)
  | cons hblanks h hmore =>
    exact (((hmore.suffix hitem).trans (hitem h)).trans hblanks.suffix).trans (List.suffix_cons _ _)

end Lists

theorem Name.suffix {s rest : List Char} {key : String} (h : Name s key rest) : rest <:+ s := by
  cases h with
  | mk n => exact List.suffix_append _ _

theorem Literal.suffix {s rest : List Char} {v : Value} (h : Literal s v rest) : rest <:+ s := by
  refine Literal.induct (P := fun s _ rest => rest <:+ s) ?_ ?_ h
  · intro s v rest h
    cases h with
    | @decimal negative whole fraction =>
      exact ⟨signText negative ++ (whole ++ '.' :: fraction), by simp⟩
    | _ => exact List.suffix_append _ _
  · exact fun _ _ _ h => h.suffix id

theorem Argument.suffix {s rest : List Char} {a : Source.Argument} (h : Argument s a rest) :
    rest <:+ s := by
  cases h with
  | named hkey hcolon hblanks h =>
    exact (h.suffix.trans hblanks.suffix).trans
      (((List.suffix_cons _ _).trans hcolon.suffix).trans hkey.suffix)
  | positional h => exact h.suffix

theorem MoreBare.suffix {s rest : List Char} {args : List Source.Argument}
    (h : MoreBare s args rest) : rest <:+ s := by
  induction h with
  | nil s => exact List.suffix_refl s
  | cons hcomma hblanks h _ ih =>
    exact ((ih.trans h.suffix).trans hblanks.suffix).trans
      ((List.suffix_cons _ _).trans hcomma.suffix)

theorem Arguments.suffix {s rest : List Char} {args : List Source.Argument}
    (h : Arguments s args rest) : rest <:+ s := by
  cases h with
  | none s => exact List.suffix_refl s
  | parens hspaces h => exact (h.suffix Argument.suffix).trans hspaces.suffix
  | bare hc hspaces h hmore =>
    exact ((hmore.suffix.trans h.suffix).trans hspaces.suffix).trans (List.suffix_cons _ _)

mutual

theorem Node.suffix {source : List Char} : ∀ {s e rest}, Node source s e rest → rest <:+ s
  | _, _, _, .mk _ hname hargs hblock => (hblock.suffix.trans hargs.suffix).trans hname.suffix

theorem Block.suffix {source : List Char} : ∀ {s es rest}, Block source s es rest → rest <:+ s
  | _, _, _, .none s => List.suffix_refl s
  | _, _, _, .braces hopen hblanks h =>
    (((List.suffix_cons _ _).trans h.suffix).trans hblanks.suffix).trans
      ((List.suffix_cons _ _).trans hopen.suffix)

theorem Nodes.suffix {source : List Char} : ∀ {s es rest}, Nodes source s es rest → rest <:+ s
  | _, _, _, .nil s => List.suffix_refl s
  | _, _, _, .cons h hblanks hmore => (hmore.suffix.trans hblanks.suffix).trans h.suffix

end

end Changelog.Grammar
