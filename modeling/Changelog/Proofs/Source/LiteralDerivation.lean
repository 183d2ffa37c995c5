import Changelog.Proofs.Source.Grammar
import Changelog.Proofs.Source.Scalar

namespace Changelog.Grammar

open Changelog.Source
open Changelog.Written (QuotedChar Quoted Quote Escape Numeral digitChar tripleQuote)

theorem lineEnd_of_atLineEnd? {s after : List Char} (h : atLineEnd? s = some after) :
    ∃ inside, s = inside ++ after ∧ ('\n' ∉ inside ∧ '\r' ∉ inside) ∧ LineEnd after := by
  have hinside : ∀ c ∈ s.takeWhile (fun c => c != '\n' && c != '\r'), c ≠ '\n' ∧ c ≠ '\r' := by
    intro c hc
    simpa using List.all_eq_true.1 List.all_takeWhile c hc
  have hafter : s.dropWhile (fun c => c != '\n' && c != '\r') = after ∧ LineEnd after := by
    unfold atLineEnd? at h
    split at h
    · next hdrop =>
      cases h
      exact ⟨hdrop, .text⟩
    · next rest hdrop =>
      cases h
      exact ⟨hdrop, .lineFeed rest⟩
    · next rest hdrop =>
      cases h
      exact ⟨hdrop, .carriageReturn rest⟩
    · cases h
  refine ⟨s.takeWhile (fun c => c != '\n' && c != '\r'), ?_, ?_, hafter.2⟩
  · rw [← hafter.1, List.takeWhile_append_dropWhile]
  · exact ⟨fun hc => (hinside _ hc).1 rfl, fun hc => (hinside _ hc).2 rfl⟩

theorem comment_of_afterCommentEnd? {s after : List Char} (h : afterCommentEnd? s = some after) :
    ∃ inside, s = inside ++ '*' :: '/' :: after ∧ ¬['*', '/'] <:+: inside := by
  fun_induction afterCommentEnd? s with
  | case1 => cases h
  | case2 rest =>
    cases h
    exact ⟨[], rfl, by simp⟩
  | case3 c rest hnot ih =>
    obtain ⟨inside, rfl, hfree⟩ := ih h
    refine ⟨c :: inside, rfl, fun hinfix => ?_⟩
    rcases List.infix_cons_iff.1 hinfix with hprefix | hinfix
    · obtain ⟨more, hmore⟩ := hprefix
      rw [List.cons_append, List.cons_append, List.nil_append, List.cons.injEq] at hmore
      obtain ⟨rfl, rfl⟩ := hmore
      exact hnot _ rfl rfl
    · exact hfree hinfix

theorem blanks_skipBlanks (s : List Char) : Blanks s (skipBlanks s) := by
  fun_induction skipBlanks s with
  | case1 => exact .nil []
  | case2 rest after hend ih =>
    obtain ⟨inside, rfl, oneLine, hline⟩ := lineEnd_of_atLineEnd? hend
    exact .lineComment oneLine hline ih
  | case3 rest => exact .nil _
  | case4 rest after hend ih =>
    obtain ⟨inside, rfl, hfree⟩ := comment_of_afterCommentEnd? hend
    exact .blockComment hfree ih
  | case5 rest => exact .nil _
  | case6 c rest _ _ hc ih => exact .separator hc ih
  | case7 => exact .nil _

theorem spaces_skipSpaces (s : List Char) : Spaces s (skipSpaces s) := by
  induction s with
  | nil => exact .nil []
  | cons c rest ih =>
    by_cases hc : isSpace c = true
    · have hskip : skipSpaces (c :: rest) = skipSpaces rest := List.dropWhile_cons_of_pos hc
      rw [hskip]
      exact .cons hc ih
    · have hskip : skipSpaces (c :: rest) = c :: rest := List.dropWhile_cons_of_neg hc
      rw [hskip]
      exact .nil _

theorem blanks_of_skipBlanks {s rest : List Char} (h : skipBlanks s = rest) : Blanks s rest := by
  rw [← h]
  exact blanks_skipBlanks s

theorem spaces_of_skipSpaces {s rest : List Char} (h : skipSpaces s = rest) : Spaces s rest := by
  rw [← h]
  exact spaces_skipSpaces s

/-! ### Names and texts -/

theorem name_derives {s rest : List Char} {key : String} {hlt : rest.length < s.length}
    (h : name s = .found key rest hlt) : Name s key rest := by
  cases s with
  | nil => cases h
  | cons c more =>
    unfold name at h
    dsimp only at h
    split at h
    · next hc =>
      obtain ⟨rfl, rfl⟩ : String.ofList (c :: more.takeWhile isNameChar) = key ∧
          more.dropWhile isNameChar = rest := by
        simpa using h
      simp only [Bool.and_eq_true, Bool.not_eq_true'] at hc
      have hmore : (more.takeWhile isNameChar).all isNameChar = true :=
        List.all_takeWhile
      have hend : nameGoesOn (more.dropWhile isNameChar) = false := by
        cases hdrop : more.dropWhile isNameChar with
        | nil => rfl
        | cons d after =>
          have hd := List.head_dropWhile_not isNameChar
            (show more.dropWhile isNameChar ≠ [] by simp [hdrop])
          simpa [hdrop, nameGoesOn] using hd
      have hderived := Name.mk ⟨c, more.takeWhile isNameChar, hc, hmore⟩ hend
      have htext : Written.Name.text ⟨c, more.takeWhile isNameChar, hc, hmore⟩ ++
          more.dropWhile isNameChar = c :: more :=
        congrArg (c :: ·) List.takeWhile_append_dropWhile
      rw [htext] at hderived
      exact hderived
    · cases h

theorem escape_of_unescape? {e x : Char} (h : unescape? e = some x) :
    ∃ escape : Escape, escape.letter = e ∧ escape.char = x := by
  unfold unescape? at h
  split at h
  · exact ⟨.backslash, rfl, Option.some.inj h⟩
  · exact ⟨.doubleQuote, rfl, Option.some.inj h⟩
  · exact ⟨.singleQuote, rfl, Option.some.inj h⟩
  · exact ⟨.lineFeed, rfl, Option.some.inj h⟩
  · exact ⟨.tab, rfl, Option.some.inj h⟩
  · exact ⟨.carriageReturn, rfl, Option.some.inj h⟩
  · cases h

theorem chars_of_quotedText? (q : Quote) {s : List Char} {p : List Char × List Char}
    (h : quotedText? q.char s = some p) :
    ∃ chars : List (QuotedChar q), s = chars.flatMap QuotedChar.text ++ q.char :: p.2 ∧
      chars.map QuotedChar.char = p.1 := by
  fun_induction quotedText? q.char s generalizing p with
  | case1 => cases h
  | case2 rest =>
    cases h
    exact ⟨[], rfl, rfl⟩
  | case3 => cases h
  | case4 => cases h
  | case5 e rest x hx _ ih =>
    obtain ⟨p, hp, rfl⟩ := Option.map_eq_some_iff.1 h
    obtain ⟨chars, rfl, hchars⟩ := ih hp
    obtain ⟨escape, rfl, rfl⟩ := escape_of_unescape? hx
    exact ⟨.escaped escape :: chars, rfl, congrArg (escape.char :: ·) hchars⟩
  | case6 c rest hquote hbackslash ih =>
    obtain ⟨p, hp, rfl⟩ := Option.map_eq_some_iff.1 h
    obtain ⟨chars, rfl, hchars⟩ := ih hp
    exact ⟨.plain c ⟨hquote, hbackslash⟩ :: chars, rfl, congrArg (c :: ·) hchars⟩

theorem inside_of_longText? {s : List Char} {p : List Char × List Char} (h : longText? s = some p) :
    s = p.1 ++ (tripleQuote ++ p.2) ∧ ¬tripleQuote <:+: p.1 ∧ p.1.getLast? ≠ some '"' := by
  fun_induction longText? s generalizing p with
  | case1 => cases h
  | case2 rest =>
    cases h
    exact ⟨rfl, by simp [tripleQuote], by simp⟩
  | case3 c rest hnot ih =>
    obtain ⟨⟨inside, after⟩, hp, rfl⟩ := Option.map_eq_some_iff.1 h
    obtain ⟨rfl, hfree, hlast⟩ := ih hp
    refine ⟨rfl, fun hinfix => ?_, fun hquote => ?_⟩
    · -- three quotes at the start would have ended the text before this character
      rcases List.infix_cons_iff.1 hinfix with ⟨more, hmore⟩ | hinfix
      · simp only [tripleQuote, List.cons_append, List.nil_append, List.cons.injEq] at hmore
        obtain ⟨rfl, rfl⟩ := hmore
        exact hnot _ rfl rfl
      · exact hfree hinfix
    · cases inside with
      | nil =>
        obtain rfl : c = '"' := by simpa using hquote
        exact hnot _ rfl rfl
      | cons d inside => exact hlast (by simpa using hquote)

theorem text_of_quoted? {s : List Char} {p : List Char × List Char} (h : quoted? s = some p) :
    ∃ t : Quoted, s = t.text ++ p.2 ∧ t.chars = p.1 := by
  unfold quoted? at h
  split at h
  · next p' hlong =>
    cases h
    unfold longQuoted? at hlong
    split at hlong
    · obtain ⟨rfl, hfree, hlast⟩ := inside_of_longText? hlong
      exact ⟨.long p.1 hfree hlast, by simp [Quoted.text, tripleQuote], rfl⟩
    · cases hlong
  · unfold shortQuoted? at h
    split at h
    · obtain ⟨chars, rfl, hchars⟩ := chars_of_quotedText? .double h
      exact ⟨.short .double chars, by simp [Quoted.text, Quote.char], hchars⟩
    · obtain ⟨chars, rfl, hchars⟩ := chars_of_quotedText? .single h
      exact ⟨.short .single chars, by simp [Quoted.text, Quote.char], hchars⟩
    · cases h

/-! ### Numbers -/

theorem exists_digits {s : List Char} (h : ∀ c ∈ s, Text.isAsciiDigit c = true) :
    ∃ digits : List (Fin 10), digits.map digitChar = s := by
  have hdigit : ∀ c, Text.isAsciiDigit c = true → ∃ d : Fin 10, digitChar d = c := by
    intro c hc
    simp only [Text.isAsciiDigit, Bool.and_eq_true, decide_eq_true_eq] at hc
    have hlow : 48 ≤ c.toNat := UInt32.le_iff_toNat_le.1 (Char.le_def.1 hc.1)
    have hhigh : c.toNat ≤ 57 := UInt32.le_iff_toNat_le.1 (Char.le_def.1 hc.2)
    refine ⟨⟨c.toNat - 48, by omega⟩, ?_⟩
    have hnat : 48 + (c.toNat - 48) = c.toNat := by omega
    show Char.ofNat (48 + (c.toNat - 48)) = c
    rw [hnat, Char.ofNat_toNat]
  induction s with
  | nil => exact ⟨[], rfl⟩
  | cons c s ih =>
    obtain ⟨d, rfl⟩ := hdigit c (h c (by simp))
    obtain ⟨digits, rfl⟩ := ih fun c hc => h c (by simp [hc])
    exact ⟨d :: digits, rfl⟩

theorem signText_splitSign (s : List Char) : signText (splitSign s).1 ++ (splitSign s).2 = s := by
  unfold splitSign
  split <;> rfl

theorem integer_derives {negative : Bool} {whole rest : List Char} (hwhole : Digits whole)
    (hfits : fitsInt64 (intValue negative whole) = true) (hfraction : ¬FractionFollows rest)
    (hend : nameGoesOn rest = false) :
    Scalar (signText negative ++ (whole ++ rest)) (.int (Int64.ofInt (intValue negative whole)))
      rest := by
  obtain ⟨digits, rfl⟩ := exists_digits hwhole.2
  cases digits with
  | nil => exact absurd rfl hwhole.1
  | cons first more =>
    have hvalue : intValue negative ((first :: more).map digitChar) =
        Numeral.value ⟨negative, first, more⟩ :=
      Written.intValue_digits ⟨negative, first, more⟩
    rw [hvalue] at hfits ⊢
    have htext : signText negative ++ ((first :: more).map digitChar ++ rest) =
        Numeral.text ⟨negative, first, more⟩ ++ rest := by
      rw [← List.append_assoc]
      rfl
    rw [htext]
    exact .integer _ hfits hfraction hend

theorem number_derives {s rest : List Char} {v : Value} {hlt : rest.length < s.length}
    (h : number s = .found v rest hlt) : Scalar s v rest := by
  have hdigits : ∀ s : List Char, s.takeWhile Text.isAsciiDigit ≠ [] →
      Digits (s.takeWhile Text.isAsciiDigit) :=
    fun s hsome => ⟨hsome, List.all_eq_true.1 List.all_takeWhile⟩
  have hsplit : s = signText (splitSign s).1 ++ ((splitSign s).2.takeWhile Text.isAsciiDigit ++
      (splitSign s).2.dropWhile Text.isAsciiDigit) := by
    rw [List.takeWhile_append_dropWhile, signText_splitSign]
  -- With digits after a point the number is a decimal; otherwise it is an integer and has to fit.
  unfold number at h
  dsimp only at h
  split at h
  · cases h
  · next hwhole =>
    split at h
    · next hpoint =>
      split at h
      · cases h
      · next hend =>
        cases h
        obtain ⟨after, hafter⟩ := List.head?_eq_some_iff.1 hpoint.1
        simp only [hafter, List.drop_succ_cons, List.drop_zero] at hsplit hpoint hend ⊢
        rw [← after.takeWhile_append_dropWhile (p := Text.isAsciiDigit)] at hsplit
        have hderived := Scalar.decimal (splitSign s).1 (hdigits _ hwhole) (hdigits _ hpoint.2)
          (by simpa using hend)
        rw [← hsplit] at hderived
        exact hderived
    · next hpoint =>
      split at h
      · cases h
      · next hfits =>
        split at h
        · cases h
        · next hend =>
          cases h
          have hfraction : ¬FractionFollows ((splitSign s).2.dropWhile Text.isAsciiDigit) := by
            rintro ⟨c, more, hbody, hc⟩
            exact hpoint ⟨by rw [hbody]; rfl, by simp [hbody, hc]⟩
          have hderived := integer_derives (hdigits _ hwhole) (by simpa using hfits) hfraction
            (by simpa using hend)
          rw [← hsplit] at hderived
          exact hderived

theorem word_of_afterWord? {word s rest : List Char} (h : afterWord? word s = some rest) :
    s = word ++ rest ∧ nameGoesOn rest = false := by
  unfold afterWord? at h
  split at h
  · next hword =>
    simp only [Bool.and_eq_true, Bool.not_eq_true'] at hword
    cases h
    obtain ⟨more, rfl⟩ := List.isPrefixOf_iff_prefix.1 hword.1
    rw [List.drop_left] at hword ⊢
    exact ⟨rfl, hword.2⟩
  · cases h

theorem word_derives {s : List Char} {p : Value × List Char} (h : wordLiteral? s = some p) :
    Scalar s p.1 p.2 := by
  unfold wordLiteral? at h
  split at h
  · next rest hword =>
    cases h
    obtain ⟨rfl, hend⟩ := word_of_afterWord? hword
    exact .bool true hend
  · split at h
    · next rest hword =>
      cases h
      obtain ⟨rfl, hend⟩ := word_of_afterWord? hword
      exact .bool false hend
    · split at h
      · next rest hword =>
        cases h
        obtain ⟨rfl, hend⟩ := word_of_afterWord? hword
        exact .null hend
      · cases h

theorem scalar_derives {s rest : List Char} {v : Value} {hlt : rest.length < s.length}
    (h : scalar s = .found v rest hlt) : Scalar s v rest := by
  unfold scalar at h
  split at h
  · next chars after hquoted =>
    cases h
    obtain ⟨t, rfl, rfl⟩ := text_of_quoted? hquoted
    exact .text t rest
  · split at h
    · next hnumber =>
      cases h
      exact number_derives hnumber
    · cases h
    · split at h
      · next hword =>
        cases h
        exact word_derives hword
      · cases h

/-! ### Lists and literals -/

theorem Blanks.trans {s middle rest : List Char} (h : Blanks s middle) (h' : Blanks middle rest) :
    Blanks s rest := by
  induction h with
  | nil => exact h'
  | separator hc _ ih => exact .separator hc (ih h')
  | lineComment oneLine hend _ ih => exact .lineComment oneLine hend (ih h')
  | blockComment hopen _ ih => exact .blockComment hopen (ih h')

theorem Closing.of_blanks {bracket : Char} {s middle rest : List Char} (hblanks : Blanks s middle)
    (h : Closing bracket middle rest) : Closing bracket s rest := by
  cases h with
  | plain h => exact .plain (hblanks.trans h)
  | comma hcomma h => exact .comma (hblanks.trans hcomma) h

theorem closing_of_closingPlace {bracket : Char} {s rest : List Char}
    (h : closingPlace s = bracket :: rest) : Closing bracket s rest := by
  unfold closingPlace at h
  split at h
  · next hcomma => exact .comma (blanks_of_skipBlanks hcomma) (blanks_of_skipBlanks h)
  · exact .plain (blanks_of_skipBlanks h)

theorem closing_of_closeList {s rest : List Char} {vs : List Value} {hlt : rest.length < s.length}
    (h : closeList s = .found vs rest hlt) : vs = [] ∧ Closing ']' s rest := by
  unfold closeList at h
  split at h
  · next after hplace =>
    cases h
    exact ⟨rfl, closing_of_closingPlace hplace⟩
  · cases h

theorem literal_cases {s rest : List Char} {v : Value} {hlt : rest.length < s.length}
    (h : literal s = .found v rest hlt) :
    Scalar s v rest ∨ ∃ inside vs hrest, s = '[' :: inside ∧ v = .list vs ∧
      items (skipBlanks inside) = .found vs rest hrest := by
  rw [literal.eq_def] at h
  split at h
  · next hscalar =>
    cases h
    exact Or.inl (scalar_derives hscalar)
  · cases h
  · split at h
    · next inside _ _ =>
      split at h
      · next vs after hrest hitems =>
        cases h
        exact Or.inr ⟨inside, vs, hrest, rfl, rfl, hitems⟩
      · cases h
      · cases h
    · cases h

theorem items_cases {s rest : List Char} {vs : List Value} {hlt : rest.length < s.length}
    (h : items s = .found vs rest hlt) :
    (vs = [] ∧ Closing ']' s rest) ∨ ∃ v middle more hmiddle hrest, vs = v :: more ∧
      literal s = .found v middle hmiddle ∧ moreItems middle = .found more rest hrest := by
  rw [items] at h
  split at h
  · next v middle hmiddle hliteral =>
    split at h
    · next more after hrest hmore =>
      cases h
      exact Or.inr ⟨v, middle, more, hmiddle, hrest, rfl, hliteral, hmore⟩
    · cases h
    · cases h
  · cases h
  · exact Or.inl (closing_of_closeList h)

theorem moreItems_cases {s rest : List Char} {vs : List Value} {hlt : rest.length < s.length}
    (h : moreItems s = .found vs rest hlt) :
    (vs = [] ∧ Closing ']' s rest) ∨ ∃ after v middle more hmiddle hrest, vs = v :: more ∧
      skipBlanks s = ',' :: after ∧ literal (skipBlanks after) = .found v middle hmiddle ∧
      moreItems middle = .found more rest hrest := by
  rw [moreItems.eq_def] at h
  split at h
  · next after hcomma =>
    split at h
    · next v middle hmiddle hliteral =>
      split at h
      · next more last hrest hmore =>
        cases h
        exact Or.inr ⟨after, v, middle, more, hmiddle, hrest, rfl, hcomma, hliteral, hmore⟩
      · cases h
      · cases h
    · cases h
    · exact Or.inl (closing_of_closeList h)
  · exact Or.inl (closing_of_closeList h)

theorem length_skipBlanks_lt {c : Char} {s after : List Char} (h : skipBlanks s = c :: after) :
    (skipBlanks after).length < s.length := by
  have h1 := skipBlanks_length s
  have h2 := skipBlanks_length after
  rw [h, List.length_cons] at h1
  omega

mutual

theorem literal_derives {s rest : List Char} {v : Value} {hlt : rest.length < s.length}
    (h : literal s = .found v rest hlt) : Literal s v rest := by
  obtain hscalar | ⟨inside, vs, hrest, hs, hv, hitems⟩ := literal_cases h
  · exact .scalar hscalar
  · have hshorter : (skipBlanks inside).length < s.length := by
      rw [hs]
      exact Nat.lt_succ_of_le (skipBlanks_length inside)
    have hlisted := items_derives (blanks_skipBlanks inside) hitems
    rw [hs, hv]
    exact .list hlisted
termination_by (s.length, 0)
decreasing_by exact .left _ _ hshorter

theorem items_derives {inside first rest : List Char} {vs : List Value}
    {hlt : rest.length < first.length} (hblanks : Blanks inside first)
    (h : items first = .found vs rest hlt) : Listed Literal '[' ']' ('[' :: inside) vs rest := by
  obtain ⟨hvs, hclosing⟩ | ⟨v, middle, more, hmiddle, hrest, hvs, hliteral, hmore⟩ := items_cases h
  · rw [hvs]
    exact .close (hclosing.of_blanks hblanks)
  · rw [hvs]
    exact .cons hblanks (literal_derives hliteral) (moreItems_derives hmore)
termination_by (first.length, 1)
decreasing_by
  · exact .right _ (by decide)
  · exact .left _ _ hmiddle

theorem moreItems_derives {s rest : List Char} {vs : List Value} {hlt : rest.length < s.length}
    (h : moreItems s = .found vs rest hlt) : More Literal ']' s vs rest := by
  obtain ⟨hvs, hclosing⟩ | ⟨after, v, middle, more, hmiddle, hrest, hvs, hcomma, hliteral, hmore⟩ :=
    moreItems_cases h
  · rw [hvs]
    exact .close hclosing
  · have hafter := length_skipBlanks_lt hcomma
    have hshorter := hmiddle.trans hafter
    rw [hvs]
    exact .cons (blanks_of_skipBlanks hcomma) (blanks_skipBlanks after) (literal_derives hliteral)
      (moreItems_derives hmore)
termination_by (s.length, 0)
decreasing_by
  · exact .left _ _ hafter
  · exact .left _ _ hshorter

end

end Changelog.Grammar
