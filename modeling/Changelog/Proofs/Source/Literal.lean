import Changelog.Proofs.Source.Scalar

namespace Changelog.Written

open Changelog.Source

def isCloser (c : Char) : Bool := c == ']' || c == ')'

theorem closer_facts {c : Char} (h : isCloser c = true) :
    isSeparator c = false ∧ c ≠ '/' ∧ c ≠ ',' ∧ isSpace c = false ∧ c ∈ literalEnds := by
  have : c = ']' ∨ c = ')' := by simpa [isCloser] using h
  rcases this with rfl | rfl <;> decide

theorem skipBlanks_comma (rest : List Char) : skipBlanks (',' :: rest) = ',' :: rest :=
  skipBlanks_of_not_separator (by decide) (by decide) rest

/-- Before a closing bracket stands a last comma, or nothing but blanks. -/
theorem skipBlanks_ending (e : Ending) {c : Char} (h : isCloser c = true) (rest : List Char) :
    skipBlanks (e.text ++ c :: rest) = ',' :: (e.last.text ++ c :: rest) ∨
      skipBlanks (e.text ++ c :: rest) = c :: rest := by
  obtain ⟨hsep, hslash, -⟩ := closer_facts h
  obtain ⟨comma, last⟩ := e
  cases comma with
  | none =>
    right
    show skipBlanks (last.text ++ c :: rest) = c :: rest
    rw [skipBlanks_filler, skipBlanks_of_not_separator hsep hslash]
  | some before =>
    left
    show skipBlanks ((before.text ++ [',']) ++ last.text ++ c :: rest) = _
    rw [List.append_assoc, List.append_assoc, skipBlanks_filler, List.singleton_append,
      skipBlanks_comma]

theorem closingPlace_filler (f : Filler) (s : List Char) :
    closingPlace (f.text ++ s) = closingPlace s := by
  rw [closingPlace, closingPlace, skipBlanks_filler]

theorem closingPlace_of_closer {c : Char} (h : isCloser c = true) (rest : List Char) :
    closingPlace (c :: rest) = c :: rest := by
  obtain ⟨hsep, hslash, hcomma, -⟩ := closer_facts h
  rw [closingPlace, skipBlanks_of_not_separator hsep hslash]
  split
  · next after heq =>
    rw [List.cons.injEq] at heq
    exact absurd heq.1 hcomma
  · rfl

theorem closingPlace_comma (last : Filler) {c : Char} (h : isCloser c = true) (rest : List Char) :
    closingPlace (',' :: (last.text ++ c :: rest)) = c :: rest := by
  obtain ⟨hsep, hslash, -⟩ := closer_facts h
  rw [closingPlace, skipBlanks_comma]
  show skipBlanks (last.text ++ c :: rest) = c :: rest
  rw [skipBlanks_filler, skipBlanks_of_not_separator hsep hslash]

theorem closingPlace_skipBlanks (s : List Char) (h : skipBlanks (skipBlanks s) = skipBlanks s) :
    closingPlace (skipBlanks s) = closingPlace s := by
  rw [closingPlace, closingPlace, h]

theorem closingPlace_ending (e : Ending) {c : Char} (h : isCloser c = true) (rest : List Char) :
    closingPlace (e.text ++ c :: rest) = c :: rest := by
  obtain ⟨hsep, hslash, -⟩ := closer_facts h
  rcases skipBlanks_ending e h rest with heq | heq
  · rw [← closingPlace_skipBlanks _ (by rw [heq, skipBlanks_comma]), heq,
      closingPlace_comma e.last h]
  · rw [← closingPlace_skipBlanks _ (by rw [heq, skipBlanks_of_not_separator hsep hslash]), heq,
      closingPlace_of_closer h]

theorem next_ending (e : Ending) {c : Char} (h : isCloser c = true) (rest : List Char) :
    Next literalEnds (e.text ++ c :: rest) := by
  obtain ⟨-, -, -, hspace, hmem⟩ := closer_facts h
  have hsub : fillerStarts ⊆ literalEnds := by decide
  have hlast : Next literalEnds (e.last.text ++ c :: rest) :=
    Next.filler e.last hsub (Next.cons hspace hmem)
  obtain ⟨comma, last⟩ := e
  cases comma with
  | none => exact hlast
  | some before =>
    show Next literalEnds ((before.text ++ [',']) ++ last.text ++ c :: rest)
    rw [List.append_assoc, List.append_assoc]
    exact Next.filler before hsub (Next.cons (by decide) (by decide))

theorem closeList_of_closingPlace {s rest : List Char} (h : closingPlace s = ']' :: rest) :
    ∃ hlt, closeList s = .found [] rest hlt := by
  have hlt : rest.length < s.length := by
    have := closingPlace_length s
    rw [h] at this
    exact this
  refine ⟨hlt, ?_⟩
  unfold closeList
  split
  · next after heq =>
    rw [h, List.cons.injEq] at heq
    obtain ⟨-, rfl⟩ := heq
    rfl
  · next hne => exact absurd h (hne rest)

/-! ### Lists and literals -/

theorem literal_of_scalar {s rest : List Char} {v : Value}
    (h : ∃ hlt, scalar s = .found v rest hlt) : ∃ hlt, literal s = .found v rest hlt := by
  obtain ⟨hlt, h⟩ := h
  exact ⟨hlt, by rw [literal.eq_def, h]⟩

theorem literal_absent_of_scalar {s : List Char} (hscalar : scalar s = .absent) (h : ∀ r, s ≠ '[' :: r) :
    literal s = .absent := by
  rw [literal.eq_def, hscalar]
  dsimp only
  split
  · next r => exact absurd rfl (h r)
  · rfl

theorem literal_absent_of_head {s : List Char}
    (h : ∀ c, s.head? = some c → c ∉ scalarStarts ∧ Text.isAsciiDigit c = false ∧ c ≠ '[') :
    literal s = .absent := by
  refine literal_absent_of_scalar (scalar_absent fun c hc => ⟨(h c hc).1, (h c hc).2.1⟩) ?_
  rintro r rfl
  exact (h '[' rfl).2.2 rfl

theorem literal_absent {s : List Char} (h : ∀ c, s.head? = some c → c ∈ literalEnds) :
    literal s = .absent := by
  have hall : ∀ c ∈ literalEnds, c ∉ scalarStarts ∧ Text.isAsciiDigit c = false ∧ c ≠ '[' :=
    Text.forall_mem_of_all (by decide)
  exact literal_absent_of_head fun c hc => hall c (h c hc)

theorem solid_literal (v : Literal) : Solid v.text := by
  cases v with
  | null => exact ⟨'n', _, rfl, by decide⟩
  | bool b =>
    cases b
    · exact ⟨'f', _, rfl, by decide⟩
    · exact ⟨'t', _, rfl, by decide⟩
  | int n =>
    obtain ⟨negative, first, more⟩ := n
    cases negative with
    | true => exact ⟨'-', _, rfl, by decide⟩
    | false =>
      have hfirst : isSeparator (digitChar first) = false ∧ digitChar first ≠ '/' ∧
          digitChar first ≠ '(' := by
        revert first
        decide
      exact ⟨digitChar first, more.map digitChar, rfl, hfirst⟩
  | string t =>
    cases t with
    | short q chars =>
      cases q
      · exact ⟨'"', _, rfl, by decide⟩
      · exact ⟨'\'', _, rfl, by decide⟩
    | long inside free last => exact ⟨'"', _, rfl, by decide⟩
  | list items ending => exact ⟨'[', _, by rw [Literal.text], by decide⟩

theorem next_textAfter (items : Items) (ending : Ending) (rest : List Char) :
    Next literalEnds (items.textAfter ++ (ending.text ++ ']' :: rest)) := by
  cases items with
  | nil => exact next_ending ending (by decide) rest
  | cons before v after more => exact Next.cons (by decide) (by decide)

theorem literal_string (t : Quoted) {rest : List Char} (h : Next literalEnds rest) :
    ∃ hlt, literal (t.text ++ rest) = .found (.string (String.ofList t.chars)) rest hlt := by
  have hquote : rest.head? ≠ some '"' := by
    intro hc
    exact absurd (h.head hc) (by decide)
  exact literal_of_scalar (scalar_of_quoted? (quoted?_text t hquote))

theorem quoted?_numeral (n : Numeral) (rest : List Char) : quoted? (n.text ++ rest) = none := by
  obtain ⟨negative, first, more⟩ := n
  have hfirst : ∀ d : Fin 10, digitChar d ≠ '"' ∧ digitChar d ≠ '\'' := by decide
  refine quoted?_none fun c hc => ?_
  cases negative <;>
    simp only [Numeral.text, Numeral.digits, List.map_cons, List.cons_append, List.nil_append,
      List.head?_cons, Option.some.injEq, Bool.false_eq_true, if_true, if_false] at hc <;>
    subst hc
  · exact hfirst first
  · decide

theorem literal_numeral (n : Numeral) {rest : List Char} (hfits : n.fits = true)
    (h : Next literalEnds rest) :
    ∃ hlt, literal (n.text ++ rest) = .found (.int (Int64.ofInt n.value)) rest hlt := by
  have hdigit : ∀ c ∈ ' ' :: '\t' :: literalEnds, Text.isAsciiDigit c = false :=
    Text.forall_mem_of_all (by decide)
  have hpoint : rest.head? ≠ some '.' := by
    intro hc
    exact absurd (h.head hc) (by decide)
  obtain ⟨hlt, hnumber⟩ :=
    number_text n hfits (nameGoesOn_of_next h) (fun c hc => hdigit c (h.head hc)) hpoint
  exact literal_of_scalar ⟨hlt, scalar_of_number (quoted?_numeral n rest) hnumber⟩

theorem literal_word {s rest : List Char} {v : Value} (hs : ∃ c, s.head? = some c ∧ c ∈ ['t', 'f', 'n'])
    (h : wordLiteral? s = some (v, rest)) : ∃ hlt, literal s = .found v rest hlt := by
  have hall : ∀ c ∈ ['t', 'f', 'n'], (c ≠ '"' ∧ c ≠ '\'') ∧ c ≠ '-' ∧ Text.isAsciiDigit c = false :=
    Text.forall_mem_of_all (by decide)
  obtain ⟨c, hc, hmem⟩ := hs
  have hquoted : quoted? s = none := by
    refine quoted?_none fun d hd => ?_
    rw [hc, Option.some.injEq] at hd
    exact hd ▸ (hall c hmem).1
  have hnumber : number s = .absent := by
    refine number_absent fun d hd => ?_
    rw [hc, Option.some.injEq] at hd
    exact hd ▸ (hall c hmem).2
  exact literal_of_scalar (scalar_of_word hquoted hnumber h)

theorem literal_list {r rest : List Char} {vs : List Value}
    (h : ∃ hlt, items (skipBlanks r) = .found vs rest hlt) :
    ∃ hlt, literal ('[' :: r) = .found (.list vs) rest hlt := by
  obtain ⟨hlt, h⟩ := h
  have hle := skipBlanks_length r
  have hscalar : scalar ('[' :: r) = .absent := scalar_absent fun c hc => by
    simp only [List.head?_cons, Option.some.injEq] at hc
    subst hc
    decide
  refine ⟨by simp only [List.length_cons]; omega, ?_⟩
  rw [literal.eq_def, hscalar]
  simp only [h]

theorem items_cons {s rest rest' : List Char} {v : Value} {vs : List Value}
    (hv : ∃ hlt, literal s = .found v rest hlt) (hvs : ∃ hlt, moreItems rest = .found vs rest' hlt) :
    ∃ hlt, items s = .found (v :: vs) rest' hlt := by
  obtain ⟨h1, hv⟩ := hv
  obtain ⟨h2, hvs⟩ := hvs
  exact ⟨h2.trans h1, by rw [items, hv]; dsimp only; rw [hvs]⟩

theorem items_close {s rest : List Char} (hv : literal s = .absent)
    (h : closingPlace s = ']' :: rest) : ∃ hlt, items s = .found [] rest hlt := by
  obtain ⟨hlt, hclose⟩ := closeList_of_closingPlace h
  exact ⟨hlt, by rw [items, hv]; exact hclose⟩

theorem moreItems_cons {s r rest rest' : List Char} {v : Value} {vs : List Value}
    (hs : skipBlanks s = ',' :: r) (hv : ∃ hlt, literal (skipBlanks r) = .found v rest hlt)
    (hvs : ∃ hlt, moreItems rest = .found vs rest' hlt) :
    ∃ hlt, moreItems s = .found (v :: vs) rest' hlt := by
  obtain ⟨h1, hv⟩ := hv
  obtain ⟨h2, hvs⟩ := hvs
  have h3 := skipBlanks_length s
  have h4 := skipBlanks_length r
  rw [hs, List.length_cons] at h3
  refine ⟨by omega, ?_⟩
  rw [moreItems.eq_def]
  split
  · next r' hr' =>
    rw [hs, List.cons.injEq] at hr'
    obtain ⟨-, rfl⟩ := hr'
    rw [hv]
    dsimp only
    rw [hvs]
  · next hne => exact absurd hs (hne r)

theorem moreItems_close {s rest : List Char}
    (hs : ∀ r, skipBlanks s = ',' :: r → literal (skipBlanks r) = .absent)
    (h : closingPlace s = ']' :: rest) : ∃ hlt, moreItems s = .found [] rest hlt := by
  obtain ⟨hlt, hclose⟩ := closeList_of_closingPlace h
  refine ⟨hlt, ?_⟩
  rw [moreItems.eq_def]
  split
  · next r hr =>
    rw [hs r hr]
    exact hclose
  · exact hclose

theorem literal_ending_absent (ending : Ending) (rest : List Char) :
    literal (skipBlanks (ending.text ++ ']' :: rest)) = .absent := by
  refine literal_absent fun c hc => ?_
  rcases skipBlanks_ending ending (by decide : isCloser ']' = true) rest with heq | heq <;>
    rw [heq, List.head?_cons, Option.some.injEq] at hc <;> subst hc <;> decide

mutual

theorem literal_text (v : Literal) {rest : List Char} (hfits : v.fits = true)
    (hnext : Next literalEnds rest) :
    ∃ hlt, literal (v.text ++ rest) = .found v.value rest hlt := by
  have hname := nameGoesOn_of_next hnext
  cases v with
  | null => exact literal_word ⟨'n', rfl, by decide⟩ (wordLiteral?_null hname)
  | bool b =>
    cases b
    · exact literal_word ⟨'f', rfl, by decide⟩ (wordLiteral?_false hname)
    · exact literal_word ⟨'t', rfl, by decide⟩ (wordLiteral?_true hname)
  | int n => exact literal_numeral n (by simpa [Literal.fits] using hfits) hnext
  | string t => exact literal_string t hnext
  | list items ending =>
    have hfits' : items.fits = true := by simpa [Literal.fits] using hfits
    have htext : (Literal.list items ending).text ++ rest =
        '[' :: (items.text ++ (ending.text ++ ']' :: rest)) := by
      simp [Literal.text]
    rw [htext, Literal.value]
    exact literal_list (items_text items ending rest hfits')

theorem items_text (items : Items) (ending : Ending) (rest : List Char) (hfits : items.fits = true) :
    ∃ hlt, Source.items (skipBlanks (items.text ++ (ending.text ++ ']' :: rest))) =
      .found items.values rest hlt := by
  cases items with
  | nil =>
    have hclose := closingPlace_ending ending (by decide : isCloser ']' = true) rest
    refine items_close (literal_ending_absent ending rest) ?_
    rw [Items.text, List.nil_append, closingPlace_skipBlanks, hclose]
    rcases skipBlanks_ending ending (by decide : isCloser ']' = true) rest with heq | heq
    · rw [heq, skipBlanks_comma]
    · rw [heq, skipBlanks_of_not_separator (by decide) (by decide)]
  | cons before v after more =>
    simp only [Items.fits, Bool.and_eq_true] at hfits
    have hnext : Next literalEnds
        (after.text ++ (more.textAfter ++ (ending.text ++ ']' :: rest))) :=
      Next.filler after (by decide) (next_textAfter more ending rest)
    have hskip := ((solid_literal v).append
      (after.text ++ (more.textAfter ++ (ending.text ++ ']' :: rest)))).skipBlanks_filler_append before
    have htext : Items.text (.cons before v after more) ++ (ending.text ++ ']' :: rest) =
        before.text ++ (v.text ++ (after.text ++ (more.textAfter ++ (ending.text ++ ']' :: rest)))) := by
      simp [Items.text]
    rw [htext, hskip, Items.values]
    exact items_cons (literal_text v hfits.1 hnext) (moreItems_text more after ending rest hfits.2)

theorem moreItems_text (items : Items) (after : Filler) (ending : Ending) (rest : List Char)
    (hfits : items.fits = true) :
    ∃ hlt, moreItems (after.text ++ (items.textAfter ++ (ending.text ++ ']' :: rest))) =
      .found items.values rest hlt := by
  cases items with
  | nil =>
    have hclose := closingPlace_ending ending (by decide : isCloser ']' = true) rest
    rw [Items.textAfter, List.nil_append, Items.values]
    refine moreItems_close (fun r hr => ?_) (by rw [closingPlace_filler, hclose])
    rw [skipBlanks_filler] at hr
    rcases skipBlanks_ending ending (by decide : isCloser ']' = true) rest with heq | heq
    · rw [heq, List.cons.injEq] at hr
      obtain ⟨-, rfl⟩ := hr
      exact literal_ending_absent ⟨none, ending.last⟩ rest
    · rw [heq, List.cons.injEq] at hr
      exact absurd hr.1 (by decide)
  | cons before v after' more =>
    simp only [Items.fits, Bool.and_eq_true] at hfits
    have hnext : Next literalEnds
        (after'.text ++ (more.textAfter ++ (ending.text ++ ']' :: rest))) :=
      Next.filler after' (by decide) (next_textAfter more ending rest)
    have hskip := ((solid_literal v).append
      (after'.text ++ (more.textAfter ++ (ending.text ++ ']' :: rest)))).skipBlanks_filler_append before
    have htext : Items.textAfter (.cons before v after' more) ++ (ending.text ++ ']' :: rest) =
        ',' :: (before.text ++
          (v.text ++ (after'.text ++ (more.textAfter ++ (ending.text ++ ']' :: rest))))) := by
      simp [Items.textAfter]
    rw [htext, Items.values]
    refine moreItems_cons (by rw [skipBlanks_filler, skipBlanks_comma]) ?_
      (moreItems_text more after' ending rest hfits.2)
    rw [hskip]
    exact literal_text v hfits.1 hnext

end

end Changelog.Written
