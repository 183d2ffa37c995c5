import Changelog.Proofs.Source.Blanks
import Mathlib.Data.List.Induction

namespace Changelog.Written

open Changelog.Source

/-- The text begins with a character that is no blank and opens no parenthesis. -/
def Solid (s : List Char) : Prop :=
  ∃ c more, s = c :: more ∧ isSeparator c = false ∧ c ≠ '/' ∧ c ≠ '('

namespace Solid

variable {s : List Char}

theorem append (h : Solid s) (rest : List Char) : Solid (s ++ rest) := by
  obtain ⟨c, more, rfl, hc⟩ := h
  exact ⟨c, more ++ rest, rfl, hc⟩

theorem skipBlanks_eq (h : Solid s) : skipBlanks s = s := by
  obtain ⟨c, more, rfl, hsep, hslash, -⟩ := h
  exact skipBlanks_of_not_separator hsep hslash more

theorem skipSpaces_eq (h : Solid s) : skipSpaces s = s := by
  obtain ⟨c, more, rfl, hsep, -⟩ := h
  have hspace : isSpace c = false := by
    simp only [isSeparator, Bool.or_eq_false_iff] at hsep
    simp only [isSpace, Bool.or_eq_false_iff]
    exact ⟨hsep.1.1.1.1, hsep.1.1.1.2⟩
  exact skipSpaces_of_not_space hspace more

theorem skipBlanks_filler_append (h : Solid s) (f : Filler) : skipBlanks (f.text ++ s) = s := by
  rw [skipBlanks_filler, h.skipBlanks_eq]

end Solid

theorem solid_of_isNameChar {c : Char} (h : isNameChar c = true) (more : List Char) :
    Solid (c :: more) := by
  have hall : ∀ d ∈ [' ', '\t', '\r', '\n', ';', '/', '('], isNameChar d = false :=
    Text.forall_mem_of_all (by decide)
  have hne : c ∉ [' ', '\t', '\r', '\n', ';', '/', '('] := by
    intro hc
    rw [hall c hc] at h
    exact Bool.false_ne_true h
  simp only [List.mem_cons, List.not_mem_nil, or_false, not_or] at hne
  exact ⟨c, more, rfl, by simp [isSeparator, hne], hne.2.2.2.2.2.1, hne.2.2.2.2.2.2⟩

theorem solid_name (n : Name) : Solid n.text := solid_of_isNameChar n.first_ok.1 n.more

theorem isNameChar_of_mem (n : Name) {c : Char} (hc : c ∈ n.text) : isNameChar c = true := by
  rcases List.mem_cons.1 hc with rfl | hc
  · exact n.first_ok.1
  · exact List.all_eq_true.1 n.more_ok c hc

theorem isNameChar_of_nameGoesOn {rest : List Char} (h : nameGoesOn rest = false) (c : Char)
    (hc : rest.head? = some c) : isNameChar c = false := by
  cases rest with
  | nil => simp at hc
  | cons d more =>
    simp only [List.head?_cons, Option.some.injEq] at hc
    exact hc ▸ h

theorem name_text (n : Name) {rest : List Char} (h : nameGoesOn rest = false) :
    ∃ hlt, name (n.text ++ rest) = .found (String.ofList n.text) rest hlt := by
  obtain ⟨htake, hdrop⟩ := Text.takeWhile_append_of_head (List.all_eq_true.1 n.more_ok)
    (isNameChar_of_nameGoesOn h)
  have hlt : rest.length < (n.text ++ rest).length := by
    simp only [Name.text, List.cons_append, List.length_cons, List.length_append]
    omega
  refine ⟨hlt, ?_⟩
  simp only [Name.text, List.cons_append, name, n.first_ok.1, n.first_ok.2, Bool.not_false,
    Bool.and_self, if_true, htake, hdrop]

theorem name_absent {s : List Char}
    (h : ∀ c, s.head? = some c → isNameChar c = false ∨ Text.isAsciiDigit c = true) :
    name s = .absent := by
  cases s with
  | nil => rfl
  | cons c more =>
    rcases h c rfl with hc | hc <;> simp [name, hc]

/-! ### Texts in quotes -/

theorem unescape?_letter (e : Escape) : unescape? e.letter = some e.char := by
  cases e <;> rfl

theorem quotedText?_quote (quote : Char) (rest : List Char) :
    quotedText? quote (quote :: rest) = some ([], rest) := by
  unfold quotedText?
  rw [if_pos rfl]

theorem quotedText?_plain {quote c : Char} (h : c ≠ quote ∧ c ≠ '\\') (rest : List Char) :
    quotedText? quote (c :: rest) = (quotedText? quote rest).map fun p => (c :: p.1, p.2) := by
  rw [quotedText?.eq_def]
  simp only [if_neg h.1, if_neg h.2]

theorem quotedText?_escape {quote : Char} (h : quote ≠ '\\') (e : Escape) (rest : List Char) :
    quotedText? quote ('\\' :: e.letter :: rest) =
      (quotedText? quote rest).map fun p => (e.char :: p.1, p.2) := by
  rw [quotedText?.eq_def]
  simp only [if_neg h.symm, if_true, unescape?_letter]

theorem quotedText?_chars {q : Quote} (chars : List (QuotedChar q)) (rest : List Char) :
    quotedText? q.char (chars.flatMap QuotedChar.text ++ q.char :: rest) =
      some (chars.map QuotedChar.char, rest) := by
  have hquote : q.char ≠ '\\' := by cases q <;> decide
  induction chars with
  | nil => exact quotedText?_quote q.char rest
  | cons c chars ih =>
    rw [List.flatMap_cons, List.append_assoc]
    cases c with
    | plain c free =>
      rw [QuotedChar.text, List.singleton_append, quotedText?_plain free, ih]
      rfl
    | escaped e =>
      rw [QuotedChar.text, List.cons_append, List.singleton_append, quotedText?_escape hquote, ih]
      rfl

/-- Between the quotes of a long text no three double quotes stand in a row, the closing ones apart. -/
theorem longText?_inside {inside : List Char} (free : ¬tripleQuote <:+: inside)
    (last : inside.getLast? ≠ some '"') (rest : List Char) :
    longText? (inside ++ '"' :: '"' :: '"' :: rest) = some (inside, rest) := by
  induction inside with
  | nil => simp [longText?]
  | cons c inside ih =>
    have hfree : ¬tripleQuote <:+: inside := fun h => free (List.infix_cons h)
    have hlast : inside.getLast? ≠ some '"' := by
      cases inside with
      | nil => simp
      | cons d more => simpa using last
    rw [List.cons_append, longText?, ih hfree hlast]
    · rfl
    · -- three quotes at this place would lie in the text, or the text would end in a quote
      intro after hc heq
      match inside, heq with
      | [], _ => simp [hc] at last
      | [d], heq =>
        simp only [List.cons_append, List.cons.injEq] at heq
        exact hlast (by rw [heq.1]; rfl)
      | d :: e :: more, heq =>
        simp only [List.cons_append, List.cons.injEq] at heq
        exact free ⟨[], more, by rw [hc, heq.1, heq.2.1]; rfl⟩

theorem longQuoted?_short {q : Quote} (chars : List (QuotedChar q)) {rest : List Char}
    (hrest : rest.head? ≠ some '"') :
    longQuoted? (q.char :: (chars.flatMap QuotedChar.text ++ q.char :: rest)) = none := by
  rw [longQuoted?]
  intro after heq
  rw [List.cons.injEq] at heq
  obtain ⟨hq, heq⟩ := heq
  cases chars with
  | nil =>
    simp only [List.flatMap_nil, List.nil_append, List.cons.injEq] at heq
    exact hrest (by rw [heq.2]; rfl)
  | cons c chars =>
    cases c with
    | plain c free =>
      simp only [List.flatMap_cons, QuotedChar.text, List.cons_append, List.cons.injEq] at heq
      exact free.1 (heq.1.trans hq.symm)
    | escaped e =>
      simp only [List.flatMap_cons, QuotedChar.text, List.cons_append, List.cons.injEq] at heq
      exact absurd heq.1 (by decide)

theorem quoted?_text (t : Quoted) {rest : List Char} (hrest : rest.head? ≠ some '"') :
    quoted? (t.text ++ rest) = some (t.chars, rest) := by
  cases t with
  | short q chars =>
    have hlong := longQuoted?_short chars hrest
    have hshort := quotedText?_chars chars rest
    have htext : (Quoted.short q chars).text ++ rest =
        q.char :: (chars.flatMap QuotedChar.text ++ q.char :: rest) := by
      simp [Quoted.text]
    rw [htext, quoted?, hlong]
    cases q
    · exact hshort
    · exact hshort
  | long inside free last =>
    have hlong := longText?_inside free last rest
    have htext : (Quoted.long inside free last).text ++ rest =
        '"' :: '"' :: '"' :: (inside ++ '"' :: '"' :: '"' :: rest) := by
      simp [Quoted.text, tripleQuote]
    rw [htext, quoted?, longQuoted?, hlong]
    rfl

theorem quoted?_none {s : List Char} (h : ∀ c, s.head? = some c → c ≠ '"' ∧ c ≠ '\'') :
    quoted? s = none := by
  cases s with
  | nil => rfl
  | cons c more =>
    obtain ⟨hd, hs⟩ := h c rfl
    have hlong : longQuoted? (c :: more) = none := by
      rw [longQuoted?]
      intro after heq
      rw [List.cons.injEq] at heq
      exact hd heq.1
    rw [quoted?, hlong]
    show shortQuoted? (c :: more) = none
    rw [shortQuoted?]
    · intro after heq
      rw [List.cons.injEq] at heq
      exact hd heq.1
    · intro after heq
      rw [List.cons.injEq] at heq
      exact hs heq.1

/-! ### Numbers -/

theorem isAsciiDigit_digitChar (d : Fin 10) : Text.isAsciiDigit (digitChar d) = true := by
  revert d
  decide

theorem toNat_digitChar (d : Fin 10) : (digitChar d).toNat - 48 = d.val := by
  revert d
  decide

theorem decimalValue_digits (digits : List (Fin 10)) :
    decimalValue (digits.map digitChar) = Nat.ofDigits 10 (digits.reverse.map Fin.val) := by
  induction digits using List.reverseRecOn with
  | nil => rfl
  | append_singleton digits d ih =>
    have hfold : decimalValue ((digits ++ [d]).map digitChar) =
        10 * decimalValue (digits.map digitChar) + ((digitChar d).toNat - 48) := by
      simp [decimalValue]
    rw [hfold, ih, toNat_digitChar, List.reverse_append, List.reverse_singleton,
      List.singleton_append, List.map_cons, Nat.ofDigits_cons]
    omega

theorem splitSign_numeral (n : Numeral) (rest : List Char) :
    splitSign (n.text ++ rest) = (n.negative, n.digits.map digitChar ++ rest) := by
  obtain ⟨negative, first, more⟩ := n
  cases negative with
  | true => rfl
  | false =>
    have hne : digitChar first ≠ '-' := by
      revert first
      decide
    simp only [Numeral.text, Numeral.digits, List.map_cons, List.cons_append, List.nil_append,
      Bool.false_eq_true, if_false]
    rw [splitSign]
    intro after heq
    rw [List.cons.injEq] at heq
    exact hne heq.1

theorem intValue_digits (n : Numeral) : intValue n.negative (n.digits.map digitChar) = n.value := by
  rw [intValue, decimalValue_digits]
  rfl

theorem number_text (n : Numeral) {rest : List Char} (hfits : n.fits = true)
    (hname : nameGoesOn rest = false) (hdigit : ∀ c, rest.head? = some c → Text.isAsciiDigit c = false)
    (hpoint : rest.head? ≠ some '.') :
    ∃ hlt, number (n.text ++ rest) = .found (.int (Int64.ofInt n.value)) rest hlt := by
  have hall : ∀ c ∈ n.digits.map digitChar, Text.isAsciiDigit c = true := by
    intro c hc
    obtain ⟨d, -, rfl⟩ := List.mem_map.1 hc
    exact isAsciiDigit_digitChar d
  obtain ⟨htake, hdrop⟩ := Text.takeWhile_append_of_head hall hdigit
  have hdigits : n.digits.map digitChar ≠ [] := by simp [Numeral.digits]
  have hfits' : fitsInt64 n.value = true := hfits
  have hlt : rest.length < (n.text ++ rest).length := by
    have : 0 < n.text.length := by simp [Numeral.text, Numeral.digits]
    rw [List.length_append]
    omega
  refine ⟨hlt, ?_⟩
  simp only [number, splitSign_numeral, htake, hdrop, dif_neg hdigits, hpoint, false_and, if_false,
    intValue_digits, hfits', Bool.not_true, Bool.false_eq_true, hname]

theorem number_absent {s : List Char}
    (h : ∀ c, s.head? = some c → c ≠ '-' ∧ Text.isAsciiDigit c = false) : number s = .absent := by
  have hsign : splitSign s = (false, s) := by
    rw [splitSign]
    intro after heq
    exact (h '-' (by rw [heq]; rfl)).1 rfl
  have htake : s.takeWhile Text.isAsciiDigit = [] := by
    cases s with
    | nil => rfl
    | cons c more => simp [(h c rfl).2]
  simp [number, hsign, htake]

theorem afterWord?_append (word : List Char) {rest : List Char} (h : nameGoesOn rest = false) :
    afterWord? word (word ++ rest) = some rest := by
  simp [afterWord?, h]

theorem afterWord?_none {w c : Char} (h : c ≠ w) (word more : List Char) :
    afterWord? (w :: word) (c :: more) = none := by
  simp [afterWord?, Ne.symm h]

theorem wordLiteral?_none {s : List Char} (h : ∀ c, s.head? = some c → c ∉ ['t', 'f', 'n']) :
    wordLiteral? s = none := by
  cases s with
  | nil => rfl
  | cons c more =>
    have hc := h c rfl
    simp only [List.mem_cons, List.not_mem_nil, or_false, not_or] at hc
    rw [wordLiteral?, afterWord?_none hc.1, afterWord?_none hc.2.1, afterWord?_none hc.2.2]

theorem wordLiteral?_true {rest : List Char} (h : nameGoesOn rest = false) :
    wordLiteral? ('t' :: 'r' :: 'u' :: 'e' :: rest) = some (.bool true, rest) := by
  have ht : afterWord? ['t', 'r', 'u', 'e'] ('t' :: 'r' :: 'u' :: 'e' :: rest) = some rest :=
    afterWord?_append ['t', 'r', 'u', 'e'] h
  rw [wordLiteral?, ht]

theorem wordLiteral?_false {rest : List Char} (h : nameGoesOn rest = false) :
    wordLiteral? ('f' :: 'a' :: 'l' :: 's' :: 'e' :: rest) = some (.bool false, rest) := by
  have hf : afterWord? ['f', 'a', 'l', 's', 'e'] ('f' :: 'a' :: 'l' :: 's' :: 'e' :: rest) =
      some rest :=
    afterWord?_append ['f', 'a', 'l', 's', 'e'] h
  rw [wordLiteral?, afterWord?_none (by decide), hf]

theorem wordLiteral?_null {rest : List Char} (h : nameGoesOn rest = false) :
    wordLiteral? ('n' :: 'u' :: 'l' :: 'l' :: rest) = some (.null, rest) := by
  have hn : afterWord? ['n', 'u', 'l', 'l'] ('n' :: 'u' :: 'l' :: 'l' :: rest) = some rest :=
    afterWord?_append ['n', 'u', 'l', 'l'] h
  rw [wordLiteral?, afterWord?_none (by decide), afterWord?_none (by decide), hn]

/-! ### Scalars -/

theorem scalar_of_quoted? {s chars rest : List Char} (h : quoted? s = some (chars, rest)) :
    ∃ hlt, scalar s = .found (.string (String.ofList chars)) rest hlt := by
  refine ⟨quoted?_length h, ?_⟩
  unfold scalar
  split
  · next text after heq =>
    rw [h, Option.some.injEq, Prod.mk.injEq] at heq
    obtain ⟨rfl, rfl⟩ := heq
    rfl
  · next heq =>
    rw [h] at heq
    cases heq

theorem scalar_of_number {s rest : List Char} {v : Value} {hlt : rest.length < s.length}
    (hq : quoted? s = none) (h : number s = .found v rest hlt) :
    scalar s = .found v rest hlt := by
  unfold scalar
  split
  · next text after heq =>
    rw [hq] at heq
    cases heq
  · rw [h]

theorem scalar_of_word {s rest : List Char} {v : Value} (hq : quoted? s = none)
    (hn : number s = .absent) (h : wordLiteral? s = some (v, rest)) :
    ∃ hlt, scalar s = .found v rest hlt := by
  refine ⟨wordLiteral?_length h, ?_⟩
  unfold scalar
  split
  · next text after heq =>
    rw [hq] at heq
    cases heq
  · rw [hn]
    dsimp only
    split
    · next w after heq =>
      rw [h, Option.some.injEq, Prod.mk.injEq] at heq
      obtain ⟨rfl, rfl⟩ := heq
      rfl
    · next heq =>
      rw [h] at heq
      cases heq

def scalarStarts : List Char := ['"', '\'', '-', 't', 'f', 'n']

theorem scalar_absent_of_none {s : List Char} (hq : quoted? s = none) (hn : number s = .absent)
    (hw : wordLiteral? s = none) : scalar s = .absent := by
  unfold scalar
  split
  · next text after heq =>
    rw [hq] at heq
    cases heq
  · rw [hn]
    dsimp only
    split
    · next w after heq =>
      rw [hw] at heq
      cases heq
    · rfl

theorem scalar_absent {s : List Char}
    (h : ∀ c, s.head? = some c → c ∉ scalarStarts ∧ Text.isAsciiDigit c = false) :
    scalar s = .absent := by
  have hne : ∀ c, s.head? = some c → ∀ d ∈ scalarStarts, c ≠ d := by
    rintro c hc d hd rfl
    exact (h c hc).1 hd
  refine scalar_absent_of_none ?_ ?_ (wordLiteral?_none fun c hc hmem => ?_)
  · exact quoted?_none fun c hc => ⟨hne c hc _ (by decide), hne c hc _ (by decide)⟩
  · exact number_absent fun c hc => ⟨hne c hc _ (by decide), (h c hc).2⟩
  · exact (h c hc).1 (List.Mem.tail _ (List.Mem.tail _ (List.Mem.tail _ hmem)))

end Changelog.Written
