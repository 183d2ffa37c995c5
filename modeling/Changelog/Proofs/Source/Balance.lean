import Changelog.Proofs.Source.Derivation
import Changelog.Proofs.Source.Document

/-!
# What is accepted

The reader accepts nothing but documents of the grammar.  The brackets of a document match, outside
comments and texts in quotes, and each of these is ended: `balanced` decides so character by character,
with no look at the grammar, and every production of the grammar leaves its answer as it is.
-/

namespace Changelog.Grammar

open Changelog.Source
open Changelog.Written (QuotedChar Quoted Quote Numeral digitChar tripleQuote)

/-- What the characters of a text are part of. -/
inductive Mode
  | code
  | lineComment
  | blockComment
  | short (q : Quote)
  | long
  /-- The next character belongs to the one before it. -/
  | skip (next : Mode)

/-- What the text after its first character is part of, if that character is in code. -/
def Mode.ofCode : List Char → Mode
  | '/' :: '/' :: _ => .skip .lineComment
  | '/' :: '*' :: _ => .skip .blockComment
  | '"' :: '"' :: '"' :: _ => .skip (.skip .long)
  | '"' :: _ => .short .double
  | '\'' :: _ => .short .single
  | _ => .code

def escapeLetters : List Char := ['\\', '"', '\'', 'n', 't', 'r']

def closingOf? : Char → Option Char
  | '(' => some ')'
  | '[' => some ']'
  | '\x7b' => some '\x7d'
  | _ => none

def isClosing (c : Char) : Bool := c == ')' || c == ']' || c == '\x7d'

/-- Whether a text goes on as it must after brackets that the given ones close, the innermost first.
Brackets count in code only.  The text must not end inside a block comment or in quotes. -/
def balancedFrom : Mode → List Char → List Char → Bool
  | .code, expected, [] => expected.isEmpty
  | .lineComment, expected, [] => expected.isEmpty
  | _, _, [] => false
  | mode, expected, c :: s =>
    match mode with
    | .code =>
      match closingOf? c with
      | some closing => balancedFrom .code (closing :: expected) s
      | none =>
        if isClosing c then expected.head? == some c && balancedFrom .code expected.tail s
        else balancedFrom (.ofCode (c :: s)) expected s
    | .lineComment => balancedFrom (if c = '\n' then .code else .lineComment) expected s
    | .blockComment =>
      balancedFrom (if ['*', '/'] <+: c :: s then .skip .code else .blockComment) expected s
    | .short q =>
      if c = '\\' then s.head?.any escapeLetters.contains && balancedFrom (.skip (.short q)) expected s
      else balancedFrom (if c = q.char then .code else .short q) expected s
    | .long =>
      balancedFrom (if tripleQuote <+: c :: s then .skip (.skip .code) else .long) expected s
    | .skip next => balancedFrom next expected s

/-- Whether every bracket outside comments and quotes has its counterpart, every block comment and every
text in quotes is ended, and nothing but the six escapes follows a backslash in a text. -/
def balanced (s : List Char) : Bool := balancedFrom .code [] s

def special : List Char := ['/', '"', '\'', '(', ')', '[', ']', '\x7b', '\x7d']

theorem not_special {p : Char → Bool} {c : Char} (hc : p c = true)
    (hp : ∀ d ∈ special, p d = false) : c ∉ special := by
  intro hmem
  rw [hp c hmem] at hc
  cases hc

theorem balancedFrom_plain {c : Char} (hc : c ∉ special) (expected s : List Char) :
    balancedFrom .code expected (c :: s) = balancedFrom .code expected s := by
  simp only [special, List.mem_cons, List.not_mem_nil, or_false, not_or] at hc
  obtain ⟨hslash, hdouble, hsingle, hround, hround', hsquare, hsquare', hbrace, hbrace'⟩ := hc
  have hopen : closingOf? c = none := by simp [closingOf?]
  have hclose : isClosing c = false := by simp [isClosing, hround', hsquare', hbrace']
  have hmode : Mode.ofCode (c :: s) = .code := by
    unfold Mode.ofCode
    split <;> simp_all
  simp only [balancedFrom, hopen, hclose, hmode, Bool.false_eq_true, if_false]

theorem balancedFrom_open {opening closing : Char} (h : closingOf? opening = some closing)
    (expected s : List Char) :
    balancedFrom .code expected (opening :: s) = balancedFrom .code (closing :: expected) s := by
  unfold closingOf? at h
  split at h <;> cases h <;> rfl

theorem balancedFrom_close {opening closing : Char} (h : closingOf? opening = some closing)
    (expected s : List Char) :
    balancedFrom .code (closing :: expected) (closing :: s) = balancedFrom .code expected s := by
  unfold closingOf? at h
  split at h <;> cases h <;> rfl

/-! ### Comments and texts -/

theorem balancedFrom_lineComment {inside s : List Char} (oneLine : '\n' ∉ inside) (hend : LineEnd s)
    (expected : List Char) :
    balancedFrom .lineComment expected (inside ++ s) = balancedFrom .code expected s := by
  induction inside with
  | nil =>
    cases hend with
    | text => rfl
    | lineFeed rest => rfl
    | carriageReturn rest => rfl
  | cons c inside ih =>
    rw [List.mem_cons, not_or] at oneLine
    show balancedFrom (if c = '\n' then .code else .lineComment) expected (inside ++ s) = _
    rw [if_neg (Ne.symm oneLine.1)]
    exact ih oneLine.2

theorem balancedFrom_blockComment {inside : List Char} (hopen : ¬['*', '/'] <:+: inside)
    (expected s : List Char) :
    balancedFrom .blockComment expected (inside ++ '*' :: '/' :: s) = balancedFrom .code expected s := by
  induction inside with
  | nil =>
    show balancedFrom (if ['*', '/'] <+: '*' :: '/' :: s then _ else _) expected ('/' :: s) = _
    rw [if_pos ⟨s, rfl⟩]
    rfl
  | cons c inside ih =>
    have hnot : ¬['*', '/'] <+: c :: (inside ++ '*' :: '/' :: s) := by
      rintro ⟨after, hprefix⟩
      obtain ⟨rfl, hafter⟩ := List.cons.inj hprefix
      cases inside with
      | nil => simp at hafter
      | cons d more =>
        obtain ⟨rfl, -⟩ := List.cons.inj hafter
        exact hopen ⟨[], more, rfl⟩
    show balancedFrom (if ['*', '/'] <+: c :: (inside ++ '*' :: '/' :: s) then _ else _) expected _ = _
    rw [if_neg hnot]
    exact ih fun h => hopen (List.infix_cons h)

theorem balancedFrom_short {q : Quote} (chars : List (QuotedChar q)) (expected s : List Char) :
    balancedFrom (.short q) expected (chars.flatMap QuotedChar.text ++ q.char :: s) =
      balancedFrom .code expected s := by
  induction chars with
  | nil => cases q <;> rfl
  | cons x chars ih =>
    rw [List.flatMap_cons, List.append_assoc]
    cases x with
    | plain c free =>
      show (if c = '\\' then _ else balancedFrom (if c = q.char then .code else .short q) expected _) = _
      rw [if_neg free.2, if_neg free.1]
      exact ih
    | escaped e =>
      have hletter : escapeLetters.contains e.letter = true := by cases e <;> rfl
      show (escapeLetters.contains e.letter && balancedFrom (.short q) expected _) = _
      rw [hletter, Bool.true_and]
      exact ih

theorem balancedFrom_long {inside : List Char} (free : ¬tripleQuote <:+: inside)
    (last : inside.getLast? ≠ some '"') (expected s : List Char) :
    balancedFrom .long expected (inside ++ (tripleQuote ++ s)) = balancedFrom .code expected s := by
  induction inside with
  | nil =>
    show balancedFrom (if tripleQuote <+: tripleQuote ++ s then _ else _) expected ('"' :: '"' :: s) = _
    rw [if_pos (List.prefix_append _ _)]
    rfl
  | cons c inside ih =>
    have hnot : ¬tripleQuote <+: c :: (inside ++ (tripleQuote ++ s)) := by
      rintro ⟨after, hprefix⟩
      obtain ⟨rfl, hafter⟩ := List.cons.inj hprefix
      cases inside with
      | nil => exact last rfl
      | cons d more =>
        obtain ⟨rfl, hmore⟩ := List.cons.inj hafter
        cases more with
        | nil => exact last rfl
        | cons d more =>
          obtain ⟨rfl, -⟩ := List.cons.inj hmore
          exact free ⟨[], more, rfl⟩
    have hlast : inside.getLast? ≠ some '"' := by
      cases inside with
      | nil => simp
      | cons d more => simpa using last
    show balancedFrom (if tripleQuote <+: c :: (inside ++ (tripleQuote ++ s)) then _ else _) expected _ = _
    rw [if_neg hnot]
    exact ih (fun h => free (List.infix_cons h)) hlast

def Passes (s rest : List Char) : Prop :=
  ∀ expected, balancedFrom .code expected s = balancedFrom .code expected rest

/-- What stands between the two places is balanced, but for a bracket that it closes. -/
def Closes (bracket : Char) (s rest : List Char) : Prop :=
  ∀ expected, balancedFrom .code (bracket :: expected) s = balancedFrom .code expected rest

section Parts

variable {s middle rest : List Char}

theorem Passes.refl (s : List Char) : Passes s s := fun _ => rfl

theorem Passes.trans (h : Passes s middle) (h' : Passes middle rest) : Passes s rest :=
  fun expected => (h expected).trans (h' expected)

theorem Passes.closes {bracket : Char} (h : Passes s middle) (h' : Closes bracket middle rest) :
    Closes bracket s rest :=
  fun expected => (h (bracket :: expected)).trans (h' expected)

theorem passes_cons {c : Char} (hc : c ∉ special) : Passes (c :: s) s :=
  fun expected => balancedFrom_plain hc expected s

theorem passes_append {inside : List Char} (h : ∀ c ∈ inside, c ∉ special) :
    Passes (inside ++ s) s := by
  induction inside with
  | nil => exact .refl s
  | cons c inside ih =>
    exact (passes_cons (h c List.mem_cons_self)).trans (ih fun d hd => h d (List.mem_cons_of_mem c hd))

theorem closes_bracket {opening closing : Char} (h : closingOf? opening = some closing) :
    Closes closing (closing :: s) s :=
  fun expected => balancedFrom_close h expected s

theorem passes_brackets {opening closing : Char} (h : closingOf? opening = some closing)
    (hinside : Closes closing s rest) : Passes (opening :: s) rest :=
  fun expected => (balancedFrom_open h expected s).trans (hinside expected)

end Parts

theorem Blanks.passes {s rest : List Char} (h : Blanks s rest) : Passes s rest := by
  induction h with
  | nil s => exact .refl s
  | separator hc _ ih =>
    exact (passes_cons (not_special hc (Text.forall_mem_of_all (by decide)))).trans ih
  | lineComment oneLine hend _ ih =>
    exact Passes.trans (balancedFrom_lineComment oneLine.1 hend) ih
  | blockComment hopen _ ih =>
    exact Passes.trans (fun expected => balancedFrom_blockComment hopen expected _) ih

theorem Spaces.passes {s rest : List Char} (h : Spaces s rest) : Passes s rest := by
  induction h with
  | nil s => exact .refl s
  | cons hc _ ih =>
    exact (passes_cons (not_special hc (Text.forall_mem_of_all (by decide)))).trans ih

theorem name_not_special {c : Char} (hc : isNameChar c = true) : c ∉ special :=
  not_special hc (Text.forall_mem_of_all (by decide))

theorem Name.passes {s rest : List Char} {key : String} (h : Name s key rest) : Passes s rest := by
  cases h with
  | mk n =>
    refine passes_append fun c hc => ?_
    obtain rfl | hmore := List.mem_cons.1 hc
    · exact name_not_special n.first_ok.1
    · exact name_not_special (List.all_eq_true.1 n.more_ok c hmore)

/-! ### What follows a literal -/

/-- No double quote stands at the start.  After an empty text a double quote would begin a long one. -/
def Unquoted (s : List Char) : Prop := s.head? ≠ some '"'

theorem unquoted_nil : Unquoted [] := by
  simp [Unquoted]

theorem unquoted_cons {c : Char} (hc : c ≠ '"') (s : List Char) : Unquoted (c :: s) := by
  simpa [Unquoted] using hc

theorem Blanks.unquoted {s rest : List Char} (h : Blanks s rest) (hrest : Unquoted rest) :
    Unquoted s := by
  cases h with
  | nil => exact hrest
  | separator hc _ => exact unquoted_cons (by rintro rfl; cases hc) _
  | lineComment _ _ _ => exact unquoted_cons (by decide) _
  | blockComment _ _ => exact unquoted_cons (by decide) _

theorem Spaces.unquoted {s rest : List Char} (h : Spaces s rest) (hrest : Unquoted rest) :
    Unquoted s := by
  cases h with
  | nil => exact hrest
  | cons hc _ => exact unquoted_cons (by rintro rfl; cases hc) _

theorem closing_ne_quote {opening closing : Char} (h : closingOf? opening = some closing) :
    closing ≠ '"' := by
  unfold closingOf? at h
  split at h <;> cases h <;> decide

theorem Closing.unquoted {opening bracket : Char} (hbracket : closingOf? opening = some bracket)
    {s rest : List Char} (h : Closing bracket s rest) : Unquoted s := by
  cases h with
  | plain h => exact h.unquoted (unquoted_cons (closing_ne_quote hbracket) _)
  | comma hcomma _ => exact hcomma.unquoted (unquoted_cons (by decide) _)

theorem More.unquoted {α : Type} {Item : List Char → α → List Char → Prop} {opening bracket : Char}
    (hbracket : closingOf? opening = some bracket) {s rest : List Char} {as : List α}
    (h : More Item bracket s as rest) : Unquoted s := by
  cases h with
  | close h => exact h.unquoted hbracket
  | cons hcomma _ _ _ => exact hcomma.unquoted (unquoted_cons (by decide) _)

theorem MoreBare.unquoted {s rest : List Char} {args : List Source.Argument}
    (h : MoreBare s args rest) (hrest : Unquoted rest) : Unquoted s := by
  cases h with
  | nil => exact hrest
  | cons hcomma _ _ _ => exact hcomma.unquoted (unquoted_cons (by decide) _)

theorem Name.unquoted {s rest : List Char} {key : String} (h : Name s key rest) : Unquoted s := by
  cases h with
  | mk n =>
    refine unquoted_cons (fun hquote => ?_) _
    have hfirst := name_not_special n.first_ok.1
    rw [hquote] at hfirst
    exact hfirst (by decide)

theorem Block.unquoted {source s rest : List Char} {es : List Element} (h : Block source s es rest)
    (hrest : Unquoted rest) : Unquoted s := by
  cases h with
  | none => exact hrest
  | braces hopen _ _ => exact hopen.unquoted (unquoted_cons (by decide) _)

theorem Nodes.unquoted {source s rest : List Char} {es : List Element} (h : Nodes source s es rest)
    (hrest : Unquoted rest) : Unquoted s := by
  cases h with
  | nil => exact hrest
  | cons h _ _ =>
    cases h with
    | mk _ hname _ _ => exact hname.unquoted

/-! ### Literals -/

theorem balancedFrom_double {s : List Char} (h : ¬['"', '"'] <+: s) (expected : List Char) :
    balancedFrom .code expected ('"' :: s) = balancedFrom (.short .double) expected s := by
  have hmode : Mode.ofCode ('"' :: s) = .short .double := by
    rw [Mode.ofCode]
    rintro after rfl
    exact h ⟨after, rfl⟩
  show balancedFrom (.ofCode ('"' :: s)) expected s = _
  rw [hmode]

theorem no_quotes_ahead (chars : List (QuotedChar .double)) {rest : List Char}
    (hrest : Unquoted rest) : ¬['"', '"'] <+: chars.flatMap QuotedChar.text ++ '"' :: rest := by
  rintro ⟨after, hafter⟩
  cases chars with
  | nil =>
    obtain ⟨-, hafter⟩ := List.cons.inj hafter
    exact hrest (by rw [← hafter]; rfl)
  | cons x chars =>
    cases x with
    | plain c free => exact free.1 (List.cons.inj hafter).1.symm
    | escaped e =>
      have hbackslash : '"' = '\\' := (List.cons.inj hafter).1
      revert hbackslash
      decide

theorem text_passes (t : Quoted) {rest : List Char} (hrest : Unquoted rest) :
    Passes (t.text ++ rest) rest := by
  intro expected
  cases t with
  | long inside free last =>
    have htext : Quoted.text (.long inside free last) ++ rest =
        '"' :: '"' :: '"' :: (inside ++ (tripleQuote ++ rest)) := by
      simp [Quoted.text, tripleQuote]
    rw [htext]
    exact balancedFrom_long free last expected rest
  | short q chars =>
    have htext : Quoted.text (.short q chars) ++ rest =
        q.char :: (chars.flatMap QuotedChar.text ++ q.char :: rest) := by
      simp [Quoted.text]
    rw [htext]
    cases q with
    | single => exact balancedFrom_short chars expected rest
    | double =>
      rw [Quote.char, balancedFrom_double (no_quotes_ahead chars hrest)]
      exact balancedFrom_short chars expected rest

theorem digits_not_special {s : List Char} (h : ∀ c ∈ s, Text.isAsciiDigit c = true) :
    ∀ c ∈ s, c ∉ special :=
  fun c hc => not_special (h c hc) (Text.forall_mem_of_all (by decide))

theorem sign_not_special (negative : Bool) : ∀ c ∈ signText negative, c ∉ special := by
  cases negative <;> exact Text.forall_mem_of_all (by decide)

theorem numeral_not_special (n : Numeral) : ∀ c ∈ n.text, c ∉ special := by
  have hdigit : ∀ d : Fin 10, digitChar d ∉ special := by decide
  intro c hc
  obtain hsign | hdigits := List.mem_append.1 hc
  · exact sign_not_special n.negative c hsign
  · obtain ⟨d, -, rfl⟩ := List.mem_map.1 hdigits
    exact hdigit d

theorem Scalar.passes {s rest : List Char} {v : Value} (h : Scalar s v rest)
    (hrest : Unquoted rest) : Passes s rest := by
  cases h with
  | text t => exact text_passes t hrest
  | integer n _ _ _ => exact passes_append (numeral_not_special n)
  | decimal negative hwhole hfraction _ =>
    exact (passes_append (sign_not_special negative)).trans
      ((passes_append (digits_not_special hwhole.2)).trans
        ((passes_cons (by decide)).trans (passes_append (digits_not_special hfraction.2))))
  | bool b _ =>
    refine passes_append ?_
    cases b <;> exact Text.forall_mem_of_all (by decide)
  | null _ => exact passes_append (Text.forall_mem_of_all (by decide))

section Lists

variable {α : Type} {Item : List Char → α → List Char → Prop} {opening closing : Char}
variable {s rest : List Char} {as : List α}

theorem Closing.closes (hclosing : closingOf? opening = some closing) (h : Closing closing s rest) :
    Closes closing s rest := by
  cases h with
  | plain h => exact h.passes.closes (closes_bracket hclosing)
  | comma hcomma h =>
    exact (hcomma.passes.trans (passes_cons (by decide))).closes
      (h.passes.closes (closes_bracket hclosing))

theorem More.closes (hclosing : closingOf? opening = some closing)
    (hitem : ∀ {s a rest}, Item s a rest → Unquoted rest → Passes s rest)
    (h : More Item closing s as rest) : Closes closing s rest := by
  induction h with
  | close h => exact h.closes hclosing
  | cons hcomma hblanks h hmore ih =>
    have hbefore := (hcomma.passes.trans (passes_cons (by decide))).trans hblanks.passes
    exact (hbefore.trans (hitem h (hmore.unquoted hclosing))).closes ih

theorem Listed.passes (hclosing : closingOf? opening = some closing)
    (hitem : ∀ {s a rest}, Item s a rest → Unquoted rest → Passes s rest)
    (h : Listed Item opening closing s as rest) : Passes s rest := by
  cases h with
  | close h => exact passes_brackets hclosing (h.closes hclosing)
  | cons hblanks h hmore =>
    have hfirst := hblanks.passes.trans (hitem h (hmore.unquoted hclosing))
    exact passes_brackets hclosing (hfirst.closes (hmore.closes hclosing hitem))

end Lists

theorem Literal.passes {s rest : List Char} {v : Value} (h : Literal s v rest)
    (hrest : Unquoted rest) : Passes s rest := by
  revert hrest
  refine Literal.induct (P := fun s _ rest => Unquoted rest → Passes s rest) ?_ ?_ h
  · exact fun _ _ _ h => h.passes
  · exact fun _ _ _ h _ => h.passes rfl id

/-! ### Arguments and nodes -/

theorem Argument.passes {s rest : List Char} {a : Source.Argument} (h : Argument s a rest)
    (hrest : Unquoted rest) : Passes s rest := by
  cases h with
  | named hkey hcolon hblanks h =>
    have hbefore := (hkey.passes.trans hcolon.passes).trans (passes_cons (by decide))
    exact (hbefore.trans hblanks.passes).trans (h.passes hrest)
  | positional h => exact h.passes hrest

theorem MoreBare.passes {s rest : List Char} {args : List Source.Argument}
    (h : MoreBare s args rest) (hrest : Unquoted rest) : Passes s rest := by
  induction h with
  | nil s => exact .refl s
  | cons hcomma hblanks h hmore ih =>
    have hbefore := (hcomma.passes.trans (passes_cons (by decide))).trans hblanks.passes
    exact (hbefore.trans (h.passes (hmore.unquoted hrest))).trans (ih hrest)

theorem Arguments.passes {s rest : List Char} {args : List Source.Argument}
    (h : Arguments s args rest) (hrest : Unquoted rest) : Passes s rest := by
  cases h with
  | none s => exact .refl s
  | parens hspaces h => exact hspaces.passes.trans (h.passes rfl Argument.passes)
  | bare hc hspaces h hmore =>
    have hbefore := (Spaces.cons hc hspaces).passes
    exact (hbefore.trans (h.passes (hmore.unquoted hrest))).trans (hmore.passes hrest)

mutual

theorem Node.passes {source : List Char} :
    ∀ {s e rest}, Node source s e rest → Unquoted rest → Passes s rest
  | _, _, _, .mk _ hname hargs hblock, hrest =>
    (hname.passes.trans (hargs.passes (hblock.unquoted hrest))).trans (hblock.passes hrest)

theorem Block.passes {source : List Char} :
    ∀ {s es rest}, Block source s es rest → Unquoted rest → Passes s rest
  | _, _, _, .none s, _ => .refl s
  | _, _, _, .braces hopen hblanks h, _ =>
    have hbrace : closingOf? '\x7b' = some '\x7d' := rfl
    have hinside := hblanks.passes.trans (h.passes (unquoted_cons (by decide) _))
    hopen.passes.trans (passes_brackets hbrace (hinside.closes (closes_bracket hbrace)))

theorem Nodes.passes {source : List Char} :
    ∀ {s es rest}, Nodes source s es rest → Unquoted rest → Passes s rest
  | _, _, _, .nil s, _ => .refl s
  | _, _, _, .cons h hblanks hmore, hrest =>
    have hafter := hblanks.unquoted (hmore.unquoted hrest)
    ((h.passes hafter).trans hblanks.passes).trans (hmore.passes hrest)

end

theorem Document.balanced {source : List Char} {es : List Element} (h : Document source es) :
    balanced source = true := by
  obtain ⟨first, hblanks, hnodes⟩ := h
  exact (hblanks.passes.trans (hnodes.passes unquoted_nil)) []

example : balanced "a(\"b)\") \x7b c [1, /* ] */ 2] \x7d".toList = true := by decide

example : balanced "a(b] // )".toList = false := by decide

/-- Only documents of the grammar are accepted, with just the elements that they mean; none of them has
a bracket without its counterpart, a text or a block comment without its end, or a false escape. -/
theorem document_of_readElements {source : String} {es : List Element}
    (h : readElements source = .ok es) :
    Document source.toList es ∧ balanced source.toList = true := by
  have hdocument := readChars_derives h
  exact ⟨hdocument, hdocument.balanced⟩

theorem document_of_readElements_nested :
    readElements (String.ofList Written.nestedDocument.text) = .ok Written.nestedDocument.elements ∧
      Document (String.ofList Written.nestedDocument.text).toList Written.nestedDocument.elements ∧
      balanced (String.ofList Written.nestedDocument.text).toList = true := by
  have hread : readElements (String.ofList Written.nestedDocument.text) =
      .ok Written.nestedDocument.elements :=
    Written.readElements_of_text String.toList_ofList.symm (by decide)
  exact ⟨hread, document_of_readElements hread⟩

end Changelog.Grammar
