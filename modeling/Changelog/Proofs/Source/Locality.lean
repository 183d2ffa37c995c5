import Changelog.Proofs.Source.Derivation
import Changelog.Proofs.Source.Document

/-!
# What a reader finds stays found

A construct that is found in a text is found, with the same meaning, when further lines are put behind the
text.
-/

namespace Changelog.Source

open Changelog.Grammar (Blanks LineEnd Spaces Scalar Closing)

variable {s rest : List Char} (t : List Char)

theorem skipSpaces_append (s : List Char) :
    skipSpaces (s ++ '\n' :: t) = skipSpaces s ++ '\n' :: t := by
  unfold skipSpaces
  rw [List.dropWhile_append]
  split
  · next hempty =>
    rw [List.isEmpty_iff.1 hempty, List.nil_append, List.dropWhile_cons_of_neg (by decide)]
  · rfl

theorem isSpace_of_skipSpaces {c : Char} {r : List Char} (h : skipSpaces s = c :: r) : isSpace c = false := by
  unfold skipSpaces at h
  have hne : s.dropWhile isSpace ≠ [] := by simp [h]
  have hhead := List.head_dropWhile_not isSpace hne
  simpa [h] using hhead

theorem startsWithSpace_append (s : List Char) :
    startsWithSpace (s ++ '\n' :: t) = startsWithSpace s := by
  cases s <;> rfl

theorem nameGoesOn_append (h : nameGoesOn rest = false) : nameGoesOn (rest ++ '\n' :: t) = false := by
  cases rest with
  | nil => rfl
  | cons c rest => exact h

theorem head?_append_ne {c : Char} (hc : c ≠ '\n') (h : rest.head? ≠ some c) :
    (rest ++ '\n' :: t).head? ≠ some c := by
  cases rest with
  | nil => exact fun heq => hc (Option.some.inj heq).symm
  | cons d rest => exact h

theorem atLineEnd?_of_lineEnd {inside : List Char} (oneLine : '\n' ∉ inside ∧ '\r' ∉ inside)
    (h : LineEnd s) : atLineEnd? (inside ++ s) = some s := by
  have hinside : ∀ c ∈ inside, (c != '\n' && c != '\r') = true := by
    intro c hc
    have hfeed : c ≠ '\n' := ne_of_mem_of_not_mem hc oneLine.1
    have hreturn : c ≠ '\r' := ne_of_mem_of_not_mem hc oneLine.2
    simp [hfeed, hreturn]
  unfold atLineEnd?
  rw [List.dropWhile_append_of_pos hinside]
  cases h <;> rfl

theorem skipBlanks_of_blanks (h : Blanks s rest) : skipBlanks s = skipBlanks rest := by
  induction h with
  | nil => rfl
  | separator hc _ ih => rw [Written.skipBlanks_separator hc, ih]
  | lineComment oneLine hend _ ih =>
    rw [skipBlanks, atLineEnd?_of_lineEnd oneLine hend]
    exact ih
  | blockComment hopen _ ih =>
    rw [skipBlanks, Written.afterCommentEnd?_inside _ _ hopen]
    exact ih

theorem skipBlanks_skipBlanks (s : List Char) : skipBlanks (skipBlanks s) = skipBlanks s :=
  (skipBlanks_of_blanks (Grammar.blanks_skipBlanks s)).symm

theorem isSeparator_of_skipBlanks {c : Char} {r : List Char} (h : skipBlanks s = c :: r) :
    isSeparator c = false := by
  by_contra hc
  have hskip := skipBlanks_skipBlanks s
  rw [h, Written.skipBlanks_separator (by simpa using hc)] at hskip
  have hlength := skipBlanks_length r
  rw [hskip, List.length_cons] at hlength
  omega

theorem blanks_of_spaces (h : Spaces s rest) : Blanks s rest := by
  induction h with
  | nil s => exact .nil s
  | @cons c _ _ hc _ ih =>
    have hseparator : isSeparator c = true := by
      simp only [isSpace, Bool.or_eq_true] at hc
      simp only [isSeparator, Bool.or_eq_true]
      exact .inl (.inl (.inl hc))
    exact .separator hseparator ih

theorem skipBlanks_skipSpaces (s : List Char) : skipBlanks (skipSpaces s) = skipBlanks s :=
  (skipBlanks_of_blanks (blanks_of_spaces (Grammar.spaces_skipSpaces s))).symm

theorem blanks_append (h : Blanks s rest) : Blanks (s ++ '\n' :: t) (rest ++ '\n' :: t) := by
  induction h with
  | nil s => exact .nil _
  | separator hc _ ih => exact .separator hc ih
  | @lineComment inside s rest oneLine hend h ih =>
    have hend' : LineEnd (s ++ '\n' :: t) := by
      cases hend with
      -- a comment that ran to the end of the text now ends at the line feed
      | text => exact .lineFeed t
      | lineFeed rest => exact .lineFeed _
      | carriageReturn rest => exact .carriageReturn _
    rw [List.cons_append, List.cons_append, List.append_assoc]
    exact .lineComment oneLine hend' ih
  | @blockComment inside s rest hopen _ ih =>
    rw [List.cons_append, List.cons_append, List.append_assoc]
    exact .blockComment hopen ih

theorem skipBlanks_append (s : List Char) :
    skipBlanks (s ++ '\n' :: t) = skipBlanks (skipBlanks s ++ '\n' :: t) :=
  skipBlanks_of_blanks (blanks_append t (Grammar.blanks_skipBlanks s))

theorem skipBlanks_append_of_cons {c : Char} {r : List Char} (h : skipBlanks s = c :: r) (hc : c ≠ '/') :
    skipBlanks (s ++ '\n' :: t) = c :: (r ++ '\n' :: t) := by
  rw [skipBlanks_append, h, List.cons_append,
    Written.skipBlanks_of_not_separator (isSeparator_of_skipBlanks h) hc]

theorem skipBlanks_append_of_start {c : Char} {r : List Char} (h : skipBlanks s = c :: r)
    (hc : c ∉ Written.literalEnds) : skipBlanks (s ++ '\n' :: t) = skipBlanks s ++ '\n' :: t := by
  rw [h]
  refine skipBlanks_append_of_cons t h ?_
  rintro rfl
  exact hc (by decide)

/-! ### What follows a value -/

/-- What follows a value does not go on with it and makes no name of it. -/
structure Clear (rest : List Char) : Prop where
  quote : rest.head? ≠ some '"'
  point : rest.head? ≠ some '.'
  colon : (skipSpaces rest).head? ≠ some ':'

theorem clear_of_skipBlanks (h : ∀ c, (skipBlanks rest).head? = some c → c ∉ ['"', '.', ':']) :
    Clear rest := by
  have hhead : ∀ c ∈ ['"', '.', ':'], rest.head? ≠ some c := by
    intro c hc hrest
    obtain ⟨more, rfl⟩ := List.head?_eq_some_iff.1 hrest
    have hsolid : ∀ c ∈ ['"', '.', ':'], isSeparator c = false ∧ c ≠ '/' :=
      Text.forall_mem_of_all (by decide)
    refine h c ?_ hc
    rw [Written.skipBlanks_of_not_separator (hsolid c hc).1 (hsolid c hc).2]
    rfl
  refine ⟨hhead '"' (by decide), hhead '.' (by decide), fun hcolon => ?_⟩
  obtain ⟨more, hmore⟩ := List.head?_eq_some_iff.1 hcolon
  refine h ':' ?_ (by decide)
  rw [← skipBlanks_skipSpaces, hmore, Written.skipBlanks_of_not_separator (by decide) (by decide)]
  rfl

theorem clear_of_cons {c : Char} {r : List Char} (h : skipBlanks rest = c :: r)
    (hc : c ∉ ['"', '.', ':']) : Clear rest := by
  refine clear_of_skipBlanks fun d hd => ?_
  rw [h, List.head?_cons, Option.some.injEq] at hd
  exact hd ▸ hc

theorem Clear.append (h : Clear rest) : Clear (rest ++ '\n' :: t) where
  quote := head?_append_ne t (by decide) h.quote
  point := head?_append_ne t (by decide) h.point
  colon := by
    rw [skipSpaces_append]
    exact head?_append_ne t (by decide) h.colon

/-! ### Names and scalars -/

theorem name_append {key : String} {hlt : rest.length < s.length} (h : name s = .found key rest hlt)
    : ∃ hlt, name (s ++ '\n' :: t) = .found key (rest ++ '\n' :: t) hlt := by
  cases Grammar.name_derives h with
  | mk n hend =>
    rw [List.append_assoc]
    exact Written.name_text n (nameGoesOn_append t hend)

theorem isNameChar_of_isAsciiDigit {c : Char} (h : Text.isAsciiDigit c = true) : isNameChar c = true := by
  have hle : c.toNat ≤ 57 := by
    simp only [Text.isAsciiDigit, Bool.and_eq_true, decide_eq_true_eq] at h
    exact UInt32.le_iff_toNat_le.1 (Char.le_def.1 h.2)
  rw [isNameChar, Text.isAlphanumeric_ascii c (by omega), h, Bool.or_true, Bool.true_or]

theorem not_digit_of_nameGoesOn (h : nameGoesOn rest = false) (c : Char) (hc : rest.head? = some c) :
    Text.isAsciiDigit c = false := by
  by_contra hdigit
  have hname := isNameChar_of_isAsciiDigit (by simpa using hdigit)
  rw [Written.isNameChar_of_nameGoesOn h c hc] at hname
  nomatch hname

theorem splitSign_signText (negative : Bool) {whole : List Char} (h : Grammar.Digits whole)
    (rest : List Char) :
    splitSign (Grammar.signText negative ++ (whole ++ rest)) = (negative, whole ++ rest) := by
  cases negative with
  | true => rfl
  | false =>
    cases whole with
    | nil => exact absurd rfl h.1
    | cons c whole =>
      show splitSign (c :: (whole ++ rest)) = _
      rw [splitSign]
      · rfl
      · intro after heq
        have hdigit := h.2 c (List.mem_cons_self ..)
        rw [(List.cons.inj heq).1] at hdigit
        exact absurd hdigit (by decide)

theorem number_decimal (negative : Bool) {whole fraction : List Char} (hwhole : Grammar.Digits whole)
    (hfraction : Grammar.Digits fraction) (hend : nameGoesOn rest = false) :
    ∃ hlt, number (Grammar.signText negative ++ (whole ++ '.' :: (fraction ++ rest))) =
      .found (.float (floatValue negative whole fraction)) rest hlt := by
  have hpoint : ∀ c, ('.' :: (fraction ++ rest)).head? = some c → Text.isAsciiDigit c = false :=
    fun c hc => Option.some.inj hc ▸ by decide
  obtain ⟨htake, hdrop⟩ := Text.takeWhile_append_of_head hwhole.2 hpoint
  obtain ⟨htake', hdrop'⟩ := Text.takeWhile_append_of_head hfraction.2 (not_digit_of_nameGoesOn hend)
  have hlt : rest.length <
      (Grammar.signText negative ++ (whole ++ '.' :: (fraction ++ rest))).length := by
    simp only [List.length_append, List.length_cons]
    omega
  refine ⟨hlt, ?_⟩
  simp only [number, splitSign_signText negative hwhole, htake, hdrop, dif_neg hwhole.1, List.head?_cons,
    List.drop_succ_cons, List.drop_zero, htake', hdrop', true_and, ne_eq, hfraction.1, not_false_eq_true,
    if_true, hend, Bool.false_eq_true, if_false]

theorem head?_decimal {negative : Bool} {whole : List Char} (h : Grammar.Digits whole) {c : Char}
    (hc : (Grammar.signText negative ++ (whole ++ rest)).head? = some c) :
    c = '-' ∨ Text.isAsciiDigit c = true := by
  cases negative with
  | true => exact .inl (Option.some.inj hc).symm
  | false =>
    cases whole with
    | nil => exact absurd rfl h.1
    | cons d whole =>
      obtain rfl := Option.some.inj hc
      exact .inr (h.2 d (List.mem_cons_self ..))

theorem quoted?_decimal (negative : Bool) {whole : List Char} (h : Grammar.Digits whole)
    (rest : List Char) : quoted? (Grammar.signText negative ++ (whole ++ rest)) = none := by
  refine Written.quoted?_none fun c hc => ?_
  rcases head?_decimal h hc with rfl | hdigit
  · decide
  · constructor <;> rintro rfl <;> exact absurd hdigit (by decide)

theorem literal_of_derivation {v : Value} (h : Scalar s v rest)
    (hclear : Clear rest) : ∃ hlt, literal (s ++ '\n' :: t) = .found v (rest ++ '\n' :: t) hlt := by
  have hclear' := hclear.append t
  cases h with
  | text t =>
    rw [List.append_assoc]
    exact Written.literal_of_scalar (Written.scalar_of_quoted? (Written.quoted?_text t hclear'.quote))
  | integer n hfits _ hend =>
    have hend' := nameGoesOn_append t hend
    rw [List.append_assoc]
    obtain ⟨hlt, hnumber⟩ := Written.number_text n hfits hend' (not_digit_of_nameGoesOn hend') hclear'.point
    exact Written.literal_of_scalar
      ⟨hlt, Written.scalar_of_number (Written.quoted?_numeral n (rest ++ '\n' :: t)) hnumber⟩
  | decimal negative hwhole hfraction hend =>
    have hend' := nameGoesOn_append t hend
    rw [List.append_assoc, List.append_assoc, List.cons_append, List.append_assoc]
    obtain ⟨hlt, hnumber⟩ := number_decimal negative hwhole hfraction hend'
    exact Written.literal_of_scalar
      ⟨hlt, Written.scalar_of_number (quoted?_decimal negative hwhole _) hnumber⟩
  | bool b hend =>
    have hend' := nameGoesOn_append t hend
    cases b
    · exact Written.literal_word ⟨'f', rfl, by decide⟩ (Written.wordLiteral?_false hend')
    · exact Written.literal_word ⟨'t', rfl, by decide⟩ (Written.wordLiteral?_true hend')
  | null hend =>
    have hend' := nameGoesOn_append t hend
    exact Written.literal_word ⟨'n', rfl, by decide⟩ (Written.wordLiteral?_null hend')

/-- Where a list ends, it still does in a longer text. -/
theorem closing_append {bracket : Char} (hb : Written.isCloser bracket = true)
    (h : Closing bracket s rest) :
    closingPlace (s ++ '\n' :: t) = bracket :: (rest ++ '\n' :: t) ∧
      ((∃ after, skipBlanks s = ',' :: after ∧ skipBlanks (s ++ '\n' :: t) = ',' :: (after ++ '\n' :: t) ∧
          skipBlanks (after ++ '\n' :: t) = bracket :: (rest ++ '\n' :: t)) ∨
        skipBlanks s = bracket :: rest ∧ skipBlanks (s ++ '\n' :: t) = bracket :: (rest ++ '\n' :: t)) := by
  obtain ⟨hseparator, hslash, hcomma, -⟩ := Written.closer_facts hb
  have hbracket : skipBlanks (bracket :: rest) = bracket :: rest :=
    Written.skipBlanks_of_not_separator hseparator hslash rest
  cases h with
  | plain h =>
    have hs := (skipBlanks_of_blanks h).trans hbracket
    have hs' : skipBlanks (s ++ '\n' :: t) = bracket :: (rest ++ '\n' :: t) :=
      skipBlanks_append_of_cons t hs hslash
    refine ⟨?_, .inr ⟨hs, hs'⟩⟩
    unfold closingPlace
    rw [hs']
    split
    · next heq => exact absurd (List.cons.inj heq).1 hcomma
    · rfl
  | comma hcommas h =>
    rename_i after
    have hs := (skipBlanks_of_blanks hcommas).trans (Written.skipBlanks_comma after)
    have hs' : skipBlanks (s ++ '\n' :: t) = ',' :: (after ++ '\n' :: t) :=
      skipBlanks_append_of_cons t hs (by decide)
    have hafter : skipBlanks (after ++ '\n' :: t) = bracket :: (rest ++ '\n' :: t) :=
      skipBlanks_append_of_cons t ((skipBlanks_of_blanks h).trans hbracket) hslash
    refine ⟨?_, .inl ⟨after, hs, hs', hafter⟩⟩
    unfold closingPlace
    rw [hs']
    exact hafter

theorem head?_of_closing {bracket : Char} (hb : Written.isCloser bracket = true)
    (h : Closing bracket s rest) :
    (∀ c, (skipBlanks (s ++ '\n' :: t)).head? = some c → c ∈ Written.literalEnds) ∧
      ∀ r, skipBlanks (s ++ '\n' :: t) = ',' :: r →
        ∀ c, (skipBlanks r).head? = some c → c ∈ Written.literalEnds := by
  obtain ⟨-, -, hcomma, -, hends⟩ := Written.closer_facts hb
  obtain ⟨-, ⟨after, -, hs, hafter⟩ | ⟨-, hs⟩⟩ := closing_append t hb h
  · rw [hs]
    refine ⟨fun c hc => ?_, fun r hr c hc => ?_⟩
    · obtain rfl := Option.some.inj hc
      decide
    · obtain rfl := (List.cons.inj hr).2
      rw [hafter] at hc
      exact Option.some.inj hc ▸ hends
  · rw [hs]
    refine ⟨fun c hc => Option.some.inj hc ▸ hends, fun r hr => ?_⟩
    exact absurd (List.cons.inj hr).1 hcomma

theorem clear_of_closing {bracket : Char} (hb : Written.isCloser bracket = true)
    (h : Closing bracket s rest) : Clear s := by
  have hne : bracket ∉ ['"', '.', ':'] := by
    have hclosers : bracket = ']' ∨ bracket = ')' := by simpa [Written.isCloser] using hb
    rcases hclosers with rfl | rfl <;> decide
  obtain ⟨-, ⟨after, hs, -⟩ | ⟨hs, -⟩⟩ := closing_append [] hb h
  · exact clear_of_cons hs (by decide)
  · exact clear_of_cons hs hne

/-! ### Literals -/

theorem literal_start {v : Value} {hlt : rest.length < s.length} (h : literal s = .found v rest hlt) :
    ∃ c more, s = c :: more ∧ c ∉ Written.literalEnds := by
  cases s with
  | nil => nomatch hlt
  | cons c more =>
    refine ⟨c, more, rfl, fun hc => ?_⟩
    have habsent := Written.literal_absent (s := c :: more) fun d hd => by
      rw [List.head?_cons, Option.some.injEq] at hd
      exact hd ▸ hc
    rw [habsent] at h
    nomatch h

theorem skipBlanks_append_of_literal {v : Value} {hlt : rest.length < (skipBlanks s).length}
    (h : literal (skipBlanks s) = .found v rest hlt) :
    skipBlanks (s ++ '\n' :: t) = skipBlanks s ++ '\n' :: t := by
  obtain ⟨c, more, hs, hc⟩ := literal_start h
  exact skipBlanks_append_of_start t hs hc

theorem clear_of_moreItems {vs : List Value} {hlt : rest.length < s.length}
    (h : moreItems s = .found vs rest hlt) : Clear s := by
  obtain ⟨-, hclosing⟩ | ⟨after, v, middle, more, hmiddle, hrest, -, hs, -⟩ := Grammar.moreItems_cases h
  · exact clear_of_closing (by decide) hclosing
  · exact clear_of_cons hs (by decide)

mutual

theorem literal_append {s rest : List Char} {v : Value} {hlt : rest.length < s.length}
    (h : literal s = .found v rest hlt) (hclear : Clear rest) :
    ∃ hlt, literal (s ++ '\n' :: t) = .found v (rest ++ '\n' :: t) hlt := by
  obtain hscalar | ⟨inside, vs, hrest, hs, hv, hitems⟩ := Grammar.literal_cases h
  · exact literal_of_derivation t hscalar hclear
  · have hshorter : (skipBlanks inside).length < s.length := by
      rw [hs]
      exact Nat.lt_succ_of_le (skipBlanks_length inside)
    have hitems' := items_append hitems
    rw [hs, hv]
    exact Written.literal_list hitems'
termination_by (s.length, 0)
decreasing_by exact .left _ _ hshorter

theorem items_append {s rest : List Char} {vs : List Value} {hlt : rest.length < (skipBlanks s).length}
    (h : items (skipBlanks s) = .found vs rest hlt) :
    ∃ hlt, items (skipBlanks (s ++ '\n' :: t)) = .found vs (rest ++ '\n' :: t) hlt := by
  obtain ⟨hvs, hclosing⟩ | ⟨v, middle, more, hmiddle, hrest, hvs, hliteral, hmore⟩ :=
    Grammar.items_cases h
  -- an empty list may hold blanks and a comma, so its end is looked for past them
  · have hclosing' := hclosing.of_blanks (Grammar.blanks_skipBlanks s)
    obtain ⟨hplace, -⟩ := closing_append t (by decide) hclosing'
    rw [← Written.closingPlace_skipBlanks _ (skipBlanks_skipBlanks _)] at hplace
    rw [hvs]
    exact Written.items_close (Written.literal_absent (head?_of_closing t (by decide) hclosing').1) hplace
  · have hclear := clear_of_moreItems hmore
    have hliteral' := literal_append hliteral hclear
    rw [skipBlanks_append_of_literal t hliteral, hvs]
    exact Written.items_cons hliteral' (moreItems_append hmore)
termination_by ((skipBlanks s).length, 1)
decreasing_by
  · exact .right _ (by decide)
  · exact .left _ _ hmiddle

theorem moreItems_append {s rest : List Char} {vs : List Value} {hlt : rest.length < s.length}
    (h : moreItems s = .found vs rest hlt) :
    ∃ hlt, moreItems (s ++ '\n' :: t) = .found vs (rest ++ '\n' :: t) hlt := by
  obtain ⟨hvs, hclosing⟩ | ⟨after, v, middle, more, hmiddle, hrest, hvs, hcomma, hliteral, hmore⟩ :=
    Grammar.moreItems_cases h
  · obtain ⟨hplace, -⟩ := closing_append t (by decide) hclosing
    rw [hvs]
    exact Written.moreItems_close
      (fun r hr => Written.literal_absent ((head?_of_closing t (by decide) hclosing).2 r hr)) hplace
  · have hafter := Grammar.length_skipBlanks_lt hcomma
    have hshorter := hmiddle.trans hafter
    have hclear := clear_of_moreItems hmore
    have hliteral' := literal_append hliteral hclear
    rw [← skipBlanks_append_of_literal t hliteral] at hliteral'
    rw [hvs]
    exact Written.moreItems_cons (skipBlanks_append_of_cons t hcomma (by decide)) hliteral'
      (moreItems_append hmore)
termination_by (s.length, 0)
decreasing_by
  · exact .left _ _ hafter
  · exact .left _ _ hshorter

end

/-! ### Arguments -/

theorem not_colon (h : Clear rest) (r : List Char) : skipSpaces rest ≠ ':' :: r := by
  intro hcolon
  exact h.colon (by rw [hcolon]; rfl)

theorem namedArgument_of_scalar {v : Value} (h : Scalar s v rest)
    (hclear : Clear rest) : namedArgument (s ++ '\n' :: t) = .absent := by
  have hcolon := not_colon (hclear.append t)
  cases h with
  | text t =>
    refine Written.namedArgument_absent fun c hc => ?_
    have hquotes : ∀ d ∈ ['"', '\''], isNameChar d = false := Text.forall_mem_of_all (by decide)
    cases t with
    | short q chars =>
      obtain rfl := Option.some.inj hc
      cases q
      · exact .inl (hquotes '"' (by decide))
      · exact .inl (hquotes '\'' (by decide))
    | long inside free last =>
      obtain rfl := Option.some.inj hc
      exact .inl (hquotes '"' (by decide))
  | integer n =>
    rw [List.append_assoc]
    exact Written.namedArgument_numeral n _
  | decimal negative hwhole =>
    rw [List.append_assoc, List.append_assoc]
    refine Written.namedArgument_absent fun c hc => ?_
    rcases head?_decimal hwhole hc with rfl | hdigit
    · exact .inl (by decide)
    · exact .inr hdigit
  | bool b hend =>
    have hend' := nameGoesOn_append t hend
    cases b
    · exact Written.namedArgument_of_no_colon ⟨'f', ['a', 'l', 's', 'e'], by decide, by decide⟩ hend' hcolon
    · exact Written.namedArgument_of_no_colon ⟨'t', ['r', 'u', 'e'], by decide, by decide⟩ hend' hcolon
  | null hend =>
    have hend' := nameGoesOn_append t hend
    exact Written.namedArgument_of_no_colon ⟨'n', ['u', 'l', 'l'], by decide, by decide⟩ hend' hcolon

theorem argument_cases {a : Argument} {hlt : rest.length < s.length} (h : argument s = .found a rest hlt) :
    (∃ key afterName hname afterColon v hv, a = .named key v ∧ name s = .found key afterName hname ∧
      skipSpaces afterName = ':' :: afterColon ∧ literal (skipBlanks afterColon) = .found v rest hv) ∨
    ∃ v, a = .positional v ∧ namedArgument s = .absent ∧ literal s = .found v rest hlt := by
  unfold argument at h
  split at h
  · next hnamed =>
    cases h
    unfold namedArgument at hnamed
    split at hnamed
    · next key afterName hname hkey =>
      split at hnamed
      · next afterColon hcolon =>
        split at hnamed
        · next v _ hv hliteral =>
          cases hnamed
          exact .inl ⟨key, afterName, hname, afterColon, v, hv, rfl, hkey, hcolon, hliteral⟩
        · cases hnamed
        · cases hnamed
      · cases hnamed
    · cases hnamed
    · cases hnamed
  · cases h
  · next hnamed =>
    split at h
    · next v _ _ hliteral =>
      cases h
      exact .inr ⟨v, rfl, hnamed, hliteral⟩
    · cases h
    · cases h

theorem argument_append {a : Argument} {hlt : rest.length < s.length} (h : argument s = .found a rest hlt)
    (hclear : Clear rest) :
    ∃ hlt, argument (s ++ '\n' :: t) = .found a (rest ++ '\n' :: t) hlt := by
  obtain ⟨key, afterName, hname, afterColon, v, hv, rfl, hkey, hcolon, hliteral⟩ |
    ⟨v, rfl, hnamed, hliteral⟩ := argument_cases h
  · have hcolon' : skipSpaces (afterName ++ '\n' :: t) = ':' :: (afterColon ++ '\n' :: t) := by
      rw [skipSpaces_append, hcolon]
      rfl
    have hliteral' := literal_append t hliteral hclear
    rw [← skipBlanks_append_of_literal t hliteral] at hliteral'
    obtain ⟨hlt', hnamed'⟩ := Written.namedArgument_of_name
      (name_append t hkey) hcolon' hliteral'
    exact ⟨hlt', by rw [argument, hnamed']⟩
  · obtain ⟨hlt', hliteral'⟩ := literal_append t hliteral hclear
    have hnamed' : namedArgument (s ++ '\n' :: t) = .absent := by
      obtain hscalar | ⟨inside, vs, -, rfl, -⟩ := Grammar.literal_cases hliteral
      · exact namedArgument_of_scalar t hscalar hclear
      · exact Written.namedArgument_absent fun c hc => .inl (Option.some.inj hc ▸ by decide)
    exact ⟨hlt', by rw [argument, hnamed', hliteral']⟩

theorem argument_start {a : Argument} {hlt : rest.length < s.length} (h : argument s = .found a rest hlt) :
    ∃ c more, s = c :: more ∧ c ∉ Written.literalEnds := by
  cases s with
  | nil => nomatch hlt
  | cons c more =>
    refine ⟨c, more, rfl, fun hc => ?_⟩
    have habsent := Written.argument_absent (s := c :: more) fun d hd => by
      rw [List.head?_cons, Option.some.injEq] at hd
      exact hd ▸ hc
    rw [habsent] at h
    nomatch h

theorem skipBlanks_append_of_argument {a : Argument} {hlt : rest.length < (skipBlanks s).length}
    (h : argument (skipBlanks s) = .found a rest hlt) :
    skipBlanks (s ++ '\n' :: t) = skipBlanks s ++ '\n' :: t := by
  obtain ⟨c, more, hs, hc⟩ := argument_start h
  exact skipBlanks_append_of_start t hs hc

/-! ### Arguments of an element -/

theorem clear_of_moreArguments {as : List Argument} {hle : rest.length ≤ s.length}
    (h : moreArguments s = .read as rest hle) : Clear s := by
  obtain ⟨-, hclosing⟩ | ⟨after, a, middle, more, hmiddle, hrest, -, hs, -⟩ :=
    Grammar.moreArguments_cases h
  · exact clear_of_closing (by decide) hclosing
  · exact clear_of_cons hs (by decide)

theorem moreArguments_append {s rest : List Char} {as : List Argument} {hle : rest.length ≤ s.length}
    (h : moreArguments s = .read as rest hle) :
    ∃ hle, moreArguments (s ++ '\n' :: t) = .read as (rest ++ '\n' :: t) hle := by
  obtain ⟨has, hclosing⟩ | ⟨after, a, middle, more, hmiddle, hrest, has, hcomma, hargument, hmore⟩ :=
    Grammar.moreArguments_cases h
  · obtain ⟨hplace, -⟩ := closing_append t (by decide) hclosing
    rw [has]
    exact Written.moreArguments_close
      (fun r hr => Written.argument_absent ((head?_of_closing t (by decide) hclosing).2 r hr)) hplace
  · have hshorter := hmiddle.trans (Grammar.length_skipBlanks_lt hcomma)
    have hclear := clear_of_moreArguments hmore
    have hargument' := argument_append t hargument hclear
    rw [← skipBlanks_append_of_argument t hargument] at hargument'
    rw [has]
    exact Written.moreArguments_cons (skipBlanks_append_of_cons t hcomma (by decide)) hargument'
      (moreArguments_append hmore)
termination_by s.length
decreasing_by exact hshorter

theorem argumentsInParens_append {as : List Argument} {hle : rest.length ≤ (skipBlanks s).length}
    (h : argumentsInParens (skipBlanks s) = .read as rest hle) :
    ∃ hle, argumentsInParens (skipBlanks (s ++ '\n' :: t)) = .read as (rest ++ '\n' :: t) hle := by
  unfold argumentsInParens at h
  split at h
  · next a middle hmiddle hargument =>
    split at h
    · next more _ hrest hmore =>
      cases h
      have hclear := clear_of_moreArguments hmore
      obtain ⟨h1, hargument'⟩ := argument_append t hargument hclear
      obtain ⟨h2, hmore'⟩ := moreArguments_append t hmore
      rw [skipBlanks_append_of_argument t hargument]
      exact ⟨by omega, by rw [argumentsInParens, hargument']; dsimp only; rw [hmore']⟩
    · nomatch h
  · nomatch h
  · obtain ⟨rfl, hclosing⟩ := Grammar.closing_of_closeArguments h
    have hclosing' := hclosing.of_blanks (Grammar.blanks_skipBlanks s)
    obtain ⟨hplace, -⟩ := closing_append t (by decide) hclosing'
    rw [← Written.closingPlace_skipBlanks _ (skipBlanks_skipBlanks _)] at hplace
    obtain ⟨hle', hclose⟩ := Written.closeArguments_of_closingPlace hplace
    have habsent := Written.argument_absent (head?_of_closing t (by decide) hclosing').1
    exact ⟨hle', by rw [argumentsInParens, habsent]; exact hclose⟩

/-- What follows the arguments of an element neither goes on with them nor becomes one of them when more
text is put behind. -/
structure Ends (rest : List Char) : Prop where
  clear : Clear rest
  comma : (skipSpaces rest).head? ≠ some ','
  bare : argument (skipSpaces rest) = .absent → argument (skipSpaces (rest ++ '\n' :: t)) = .absent

theorem moreBareArguments_append {s rest : List Char} {as : List Argument} {hle : rest.length ≤ s.length}
    (h : moreBareArguments s = .read as rest hle) (hends : Ends t rest) :
    Clear s ∧ ∃ hle, moreBareArguments (s ++ '\n' :: t) = .read as (rest ++ '\n' :: t) hle := by
  obtain ⟨has, hrest⟩ | ⟨after, a, middle, more, hmiddle, hrest, has, hcomma, hargument, hmore⟩ :=
    Grammar.moreBareArguments_cases h
  · rw [has, ← hrest]
    refine ⟨hends.clear, Written.moreBareArguments_done fun r hr => ?_⟩
    rw [skipSpaces_append] at hr
    exact head?_append_ne t (by decide) hends.comma (by rw [hr]; rfl)
  · have hs : skipBlanks s = ',' :: after := by
      rw [← skipBlanks_skipSpaces, hcomma, Written.skipBlanks_comma]
    have hshorter := hmiddle.trans (Grammar.length_skipBlanks_lt hs)
    obtain ⟨hclear, hmore'⟩ := moreBareArguments_append hmore hends
    have hargument' := argument_append t hargument hclear
    rw [← skipBlanks_append_of_argument t hargument] at hargument'
    have hcomma' : skipSpaces (s ++ '\n' :: t) = ',' :: (after ++ '\n' :: t) := by
      rw [skipSpaces_append, hcomma]
      rfl
    rw [has]
    exact ⟨clear_of_cons hs (by decide), Written.moreBareArguments_cons hcomma' hargument' hmore'⟩
termination_by s.length
decreasing_by exact hshorter

theorem arguments_cases {as : List Argument} {hle : rest.length ≤ s.length}
    (h : arguments s = .read as rest hle) :
    (∃ inside hrest, skipSpaces s = '(' :: inside ∧
      argumentsInParens (skipBlanks inside) = .read as rest hrest) ∨
    (∀ r, skipSpaces s ≠ '(' :: r) ∧
      ((∃ a middle more hmiddle hrest, as = a :: more ∧ startsWithSpace s = true ∧
        argument (skipSpaces s) = .found a middle hmiddle ∧
        moreBareArguments middle = .read more rest hrest) ∨
      as = [] ∧ rest = s ∧ (startsWithSpace s = true → argument (skipSpaces s) = .absent)) := by
  unfold arguments at h
  split at h
  · next inside hopen =>
    split at h
    · next hparens =>
      cases h
      exact .inl ⟨inside, _, hopen, hparens⟩
    · nomatch h
  · next hopen =>
    refine .inr ⟨hopen, ?_⟩
    unfold bareArguments at h
    split at h
    · next hspace =>
      split at h
      · next a middle hmiddle hargument =>
        split at h
        · next more _ hrest hmore =>
          cases h
          exact .inl ⟨a, middle, more, hmiddle, hrest, rfl, hspace, hargument, hmore⟩
        · nomatch h
      · nomatch h
      · next habsent =>
        cases h
        exact .inr ⟨rfl, rfl, fun _ => habsent⟩
    · next hspace =>
      cases h
      exact .inr ⟨rfl, rfl, fun hspace' => absurd hspace' hspace⟩

theorem arguments_append {as : List Argument} {hle : rest.length ≤ s.length}
    (h : arguments s = .read as rest hle) (hends : Ends t rest) :
    ∃ hle, arguments (s ++ '\n' :: t) = .read as (rest ++ '\n' :: t) hle := by
  obtain ⟨inside, hrest, hopen, hparens⟩ | ⟨hopen, hbare⟩ := arguments_cases h
  · have hopen' : skipSpaces (s ++ '\n' :: t) = '(' :: (inside ++ '\n' :: t) := by
      rw [skipSpaces_append, hopen]
      rfl
    exact Written.arguments_parens hopen' (argumentsInParens_append t hparens)
  · have hopen' : ∀ r, skipSpaces (s ++ '\n' :: t) ≠ '(' :: r := by
      intro r hr
      rw [skipSpaces_append] at hr
      have hhead : (skipSpaces s).head? ≠ some '(' := fun hhead =>
        let ⟨r, hr⟩ := List.head?_eq_some_iff.1 hhead
        hopen r hr
      exact head?_append_ne t (by decide) hhead (by rw [hr]; rfl)
    rw [Written.arguments_of_no_paren hopen']
    obtain ⟨a, middle, more, hmiddle, hrest, rfl, hspace, hargument, hmore⟩ | ⟨rfl, rfl, habsent⟩ := hbare
    · obtain ⟨hclear, hmore'⟩ := moreBareArguments_append t hmore hends
      have hargument' := argument_append t hargument hclear
      rw [← skipSpaces_append] at hargument'
      exact Written.bareArguments_cons (by rw [startsWithSpace_append, hspace]) hargument' hmore'
    · refine ⟨Nat.le_refl _, Written.bareArguments_none fun hspace => ?_⟩
      rw [startsWithSpace_append] at hspace
      exact hends.bare (habsent hspace)

end Changelog.Source
