import Changelog.Proofs.Source.Literal

namespace Changelog.Written

open Changelog.Source

def Argument.read : Argument → Source.Argument
  | .named key _ _ v => .named (String.ofList key.text) v.value
  | .positional v => .positional v.value

theorem namedOf_read (args : List Argument) :
    namedOf (args.map Argument.read) = args.filterMap Argument.entry? := by
  rw [namedOf, List.filterMap_map]
  congr 1
  funext a
  cases a <;> rfl

theorem positionalOf_read (args : List Argument) :
    positionalOf (args.map Argument.read) = args.filterMap Argument.positional? := by
  rw [positionalOf, List.filterMap_map]
  congr 1
  funext a
  cases a <;> rfl

theorem solid_argument (a : Argument) : Solid a.text := by
  cases a with
  | named key gap before v => exact (solid_name key).append _
  | positional v => exact solid_literal v

theorem nameGoesOn_gap {c : Char} (h : isNameChar c = false) (gap : Gap) (rest : List Char) :
    nameGoesOn (gap.text ++ c :: rest) = false := by
  cases gap with
  | nil => exact h
  | cons tab gap => cases tab <;> rfl

theorem namedArgument_of_name {s rest r : List Char} {key : String} {v : Value} {after : List Char}
    (hname : ∃ hlt, name s = .found key rest hlt) (hcolon : skipSpaces rest = ':' :: r)
    (hv : ∃ hlt, literal (skipBlanks r) = .found v after hlt) :
    ∃ hlt, namedArgument s = .found (.named key v) after hlt := by
  obtain ⟨h1, hname⟩ := hname
  obtain ⟨h2, hv⟩ := hv
  have h3 := skipSpaces_length rest
  have h4 := skipBlanks_length r
  rw [hcolon, List.length_cons] at h3
  refine ⟨by omega, ?_⟩
  unfold namedArgument
  rw [hname]
  dsimp only
  split
  · next r' hr' =>
    rw [hcolon, List.cons.injEq] at hr'
    obtain ⟨-, rfl⟩ := hr'
    rw [hv]
  · next hne => exact absurd hcolon (hne r)

theorem namedArgument_of_no_colon (n : Name) {rest : List Char} (hend : nameGoesOn rest = false)
    (hcolon : ∀ r, skipSpaces rest ≠ ':' :: r) : namedArgument (n.text ++ rest) = .absent := by
  obtain ⟨hlt, hname⟩ := name_text n hend
  unfold namedArgument
  rw [hname]
  dsimp only
  split
  · next r hr => exact absurd hr (hcolon r)
  · rfl

theorem namedArgument_word (n : Name) {rest : List Char} (hnext : Next literalEnds rest) :
    namedArgument (n.text ++ rest) = .absent :=
  namedArgument_of_no_colon n (nameGoesOn_of_next hnext) (hnext.skipSpaces_ne (by decide))

theorem namedArgument_absent {s : List Char}
    (h : ∀ c, s.head? = some c → isNameChar c = false ∨ Text.isAsciiDigit c = true) :
    namedArgument s = .absent := by
  unfold namedArgument
  rw [name_absent h]

theorem namedArgument_numeral (n : Numeral) (rest : List Char) :
    namedArgument (n.text ++ rest) = .absent := by
  refine namedArgument_absent fun c hc => ?_
  obtain ⟨negative, first, more⟩ := n
  cases negative <;>
    simp only [Numeral.text, Numeral.digits, List.map_cons, List.cons_append, List.nil_append,
      List.head?_cons, Option.some.injEq, Bool.false_eq_true, if_true, if_false] at hc <;>
    subst hc
  · exact Or.inr (isAsciiDigit_digitChar first)
  · exact Or.inl (by decide)

theorem namedArgument_literal (v : Literal) {rest : List Char} (hnext : Next literalEnds rest) :
    namedArgument (v.text ++ rest) = .absent := by
  have habsent : ∀ (c : Char) (s : List Char), isNameChar c = false →
      namedArgument (c :: s) = .absent := by
    intro c s hc
    refine namedArgument_absent fun d hd => ?_
    simp only [List.head?_cons, Option.some.injEq] at hd
    exact Or.inl (hd ▸ hc)
  cases v with
  | null => exact namedArgument_word ⟨'n', ['u', 'l', 'l'], by decide, by decide⟩ hnext
  | bool b =>
    cases b
    · exact namedArgument_word ⟨'f', ['a', 'l', 's', 'e'], by decide, by decide⟩ hnext
    · exact namedArgument_word ⟨'t', ['r', 'u', 'e'], by decide, by decide⟩ hnext
  | int n => exact namedArgument_numeral n rest
  | string t =>
    cases t with
    | short q chars =>
      cases q
      · exact habsent '"' _ (by decide)
      · exact habsent '\'' _ (by decide)
    | long inside free last => exact habsent '"' _ (by decide)
  | list items ending =>
    rw [Literal.text]
    exact habsent '[' _ (by decide)

theorem argument_text (a : Argument) {rest : List Char} (hfits : a.fits = true)
    (hnext : Next literalEnds rest) :
    ∃ hlt, argument (a.text ++ rest) = .found a.read rest hlt := by
  cases a with
  | named key gap before v =>
    obtain ⟨h1, hv⟩ := literal_text v hfits hnext
    have hskip := ((solid_literal v).append rest).skipBlanks_filler_append before
    have htext : (Argument.named key gap before v).text ++ rest =
        key.text ++ (gap.text ++ ':' :: (before.text ++ (v.text ++ rest))) := by
      simp [Argument.text]
    have hcolon : skipSpaces (gap.text ++ ':' :: (before.text ++ (v.text ++ rest))) =
        ':' :: (before.text ++ (v.text ++ rest)) := by
      rw [skipSpaces_gap, skipSpaces_of_not_space (by decide)]
    obtain ⟨hlt, hnamed⟩ := namedArgument_of_name
      (name_text key (nameGoesOn_gap (by decide) gap (before.text ++ (v.text ++ rest)))) hcolon
      (by rw [hskip]; exact ⟨h1, hv⟩)
    rw [htext]
    exact ⟨hlt, by rw [argument, hnamed]; rfl⟩
  | positional v =>
    obtain ⟨hlt, hv⟩ := literal_text v hfits hnext
    have hnamed := namedArgument_literal v hnext
    refine ⟨hlt, ?_⟩
    show argument (v.text ++ rest) = _
    rw [argument, hnamed, hv]
    rfl

theorem argument_absent {s : List Char} (h : ∀ c, s.head? = some c → c ∈ literalEnds) :
    argument s = .absent := by
  have hall : ∀ c ∈ literalEnds, isNameChar c = false := Text.forall_mem_of_all (by decide)
  rw [argument, namedArgument_absent fun c hc => Or.inl (hall c (h c hc)), literal_absent h]

/-! ### In parentheses -/

theorem closeArguments_of_closingPlace {s rest : List Char} (h : closingPlace s = ')' :: rest) :
    ∃ hle, closeArguments s = .read [] rest hle := by
  have hle : rest.length ≤ s.length := by
    have := closingPlace_length s
    rw [h, List.length_cons] at this
    omega
  refine ⟨hle, ?_⟩
  unfold closeArguments
  split
  · next after heq =>
    rw [h, List.cons.injEq] at heq
    obtain ⟨-, rfl⟩ := heq
    rfl
  · next hne => exact absurd h (hne rest)

theorem argument_ending_absent (ending : Ending) (rest : List Char) :
    argument (skipBlanks (ending.text ++ ')' :: rest)) = .absent := by
  refine argument_absent fun c hc => ?_
  rcases skipBlanks_ending ending (by decide : isCloser ')' = true) rest with heq | heq <;>
    rw [heq, List.head?_cons, Option.some.injEq] at hc <;> subst hc <;> decide

theorem moreArguments_cons {s r rest rest' : List Char} {a : Source.Argument}
    {as : List Source.Argument} (hs : skipBlanks s = ',' :: r)
    (ha : ∃ hlt, argument (skipBlanks r) = .found a rest hlt)
    (has : ∃ hle, moreArguments rest = .read as rest' hle) :
    ∃ hle, moreArguments s = .read (a :: as) rest' hle := by
  obtain ⟨h1, ha⟩ := ha
  obtain ⟨h2, has⟩ := has
  have h3 := skipBlanks_length s
  have h4 := skipBlanks_length r
  rw [hs, List.length_cons] at h3
  refine ⟨by omega, ?_⟩
  rw [moreArguments.eq_def]
  split
  · next r' hr' =>
    rw [hs, List.cons.injEq] at hr'
    obtain ⟨-, rfl⟩ := hr'
    rw [ha]
    dsimp only
    rw [has]
  · next hne => exact absurd hs (hne r)

theorem moreArguments_close {s rest : List Char}
    (hs : ∀ r, skipBlanks s = ',' :: r → argument (skipBlanks r) = .absent)
    (h : closingPlace s = ')' :: rest) : ∃ hle, moreArguments s = .read [] rest hle := by
  obtain ⟨hle, hclose⟩ := closeArguments_of_closingPlace h
  refine ⟨hle, ?_⟩
  rw [moreArguments.eq_def]
  split
  · next r hr =>
    rw [hs r hr]
    exact hclose
  · exact hclose

theorem next_slotsAfter (slots : List Slot) (ending : Ending) (rest : List Char) :
    Next literalEnds (slotsAfter slots ++ (ending.text ++ ')' :: rest)) := by
  cases slots with
  | nil => exact next_ending ending (by decide) rest
  | cons s slots => exact Next.cons (by decide) (by decide)

theorem moreArguments_slots (slots : List Slot) (after : Filler) (ending : Ending) (rest : List Char)
    (hfits : ∀ s ∈ slots, s.argument.fits = true) :
    ∃ hle, moreArguments (after.text ++ (slotsAfter slots ++ (ending.text ++ ')' :: rest))) =
      .read (slots.map fun s => s.argument.read) rest hle := by
  have hcloser : isCloser ')' = true := by decide
  induction slots generalizing after with
  | nil =>
    have hclose := closingPlace_ending ending hcloser rest
    refine moreArguments_close (fun r hr => ?_) (by rw [closingPlace_filler]; exact hclose)
    rw [skipBlanks_filler] at hr
    rcases skipBlanks_ending ending hcloser rest with heq | heq
    · rw [slotsAfter, List.flatMap_nil, List.nil_append, heq, List.cons.injEq] at hr
      obtain ⟨-, rfl⟩ := hr
      exact argument_ending_absent ⟨none, ending.last⟩ rest
    · rw [slotsAfter, List.flatMap_nil, List.nil_append, heq, List.cons.injEq] at hr
      exact absurd hr.1 (by decide)
  | cons s slots ih =>
    obtain ⟨before, a, after'⟩ := s
    have hnext : Next literalEnds (after'.text ++ (slotsAfter slots ++ (ending.text ++ ')' :: rest))) :=
      Next.filler after' (by decide) (next_slotsAfter slots ending rest)
    have hskip := ((solid_argument a).append
      (after'.text ++ (slotsAfter slots ++ (ending.text ++ ')' :: rest)))).skipBlanks_filler_append before
    have htext : slotsAfter (⟨before, a, after'⟩ :: slots) ++ (ending.text ++ ')' :: rest) =
        ',' :: (before.text ++
          (a.text ++ (after'.text ++ (slotsAfter slots ++ (ending.text ++ ')' :: rest))))) := by
      simp [slotsAfter, Slot.text]
    rw [htext, List.map_cons]
    refine moreArguments_cons (by rw [skipBlanks_filler, skipBlanks_comma]) ?_
      (ih after' fun s hs => hfits s (List.mem_cons_of_mem _ hs))
    rw [hskip]
    exact argument_text a (hfits _ (List.mem_cons_self ..)) hnext

theorem argumentsInParens_slots (slots : List Slot) (ending : Ending) (rest : List Char)
    (hfits : ∀ s ∈ slots, s.argument.fits = true) :
    ∃ hle, argumentsInParens (skipBlanks (slotsText slots ++ (ending.text ++ ')' :: rest))) =
      .read (slots.map fun s => s.argument.read) rest hle := by
  have hcloser : isCloser ')' = true := by decide
  cases slots with
  | nil =>
    have hplace : closingPlace (skipBlanks (ending.text ++ ')' :: rest)) = ')' :: rest := by
      rw [closingPlace_skipBlanks, closingPlace_ending ending hcloser]
      rcases skipBlanks_ending ending hcloser rest with heq | heq
      · rw [heq, skipBlanks_comma]
      · rw [heq, skipBlanks_of_not_separator (by decide) (by decide)]
    obtain ⟨hle, hclose⟩ := closeArguments_of_closingPlace hplace
    refine ⟨hle, ?_⟩
    rw [argumentsInParens]
    simp only [slotsText, List.nil_append, argument_ending_absent ending rest]
    exact hclose
  | cons s slots =>
    obtain ⟨before, a, after⟩ := s
    have hnext : Next literalEnds (after.text ++ (slotsAfter slots ++ (ending.text ++ ')' :: rest))) :=
      Next.filler after (by decide) (next_slotsAfter slots ending rest)
    have hskip := ((solid_argument a).append
      (after.text ++ (slotsAfter slots ++ (ending.text ++ ')' :: rest)))).skipBlanks_filler_append before
    have htext : slotsText (⟨before, a, after⟩ :: slots) ++ (ending.text ++ ')' :: rest) =
        before.text ++
          (a.text ++ (after.text ++ (slotsAfter slots ++ (ending.text ++ ')' :: rest)))) := by
      simp [slotsText, Slot.text]
    obtain ⟨h1, ha⟩ := argument_text a (hfits _ (List.mem_cons_self ..)) hnext
    obtain ⟨h2, has⟩ := moreArguments_slots slots after ending rest
      fun s hs => hfits s (List.mem_cons_of_mem _ hs)
    rw [htext, hskip]
    refine ⟨by omega, ?_⟩
    rw [argumentsInParens, ha]
    dsimp only
    rw [has]
    rfl

/-! ### Bare -/

theorem moreBareArguments_cons {s r rest rest' : List Char} {a : Source.Argument}
    {as : List Source.Argument} (hs : skipSpaces s = ',' :: r)
    (ha : ∃ hlt, argument (skipBlanks r) = .found a rest hlt)
    (has : ∃ hle, moreBareArguments rest = .read as rest' hle) :
    ∃ hle, moreBareArguments s = .read (a :: as) rest' hle := by
  obtain ⟨h1, ha⟩ := ha
  obtain ⟨h2, has⟩ := has
  have h3 := skipSpaces_length s
  have h4 := skipBlanks_length r
  rw [hs, List.length_cons] at h3
  refine ⟨by omega, ?_⟩
  rw [moreBareArguments.eq_def]
  split
  · next r' hr' =>
    rw [hs, List.cons.injEq] at hr'
    obtain ⟨-, rfl⟩ := hr'
    rw [ha]
    dsimp only
    rw [has]
  · next hne => exact absurd hs (hne r)

theorem moreBareArguments_done {s : List Char} (h : ∀ r, skipSpaces s ≠ ',' :: r) :
    ∃ hle, moreBareArguments s = .read [] s hle := by
  refine ⟨Nat.le_refl _, ?_⟩
  rw [moreBareArguments.eq_def]
  split
  · next r hr => exact absurd hr (h r)
  · rfl

/-- What may come after the arguments of an element: its block, or what may come after an element. -/
def argumentsEnds : List Char := '\x7b' :: elementEnds

theorem next_bareSlots (slots : List BareSlot) {rest : List Char} (h : Next argumentsEnds rest) :
    Next literalEnds (slots.flatMap BareSlot.text ++ rest) := by
  cases slots with
  | nil => exact h.mono (by decide)
  | cons s slots =>
    obtain ⟨gap, before, a⟩ := s
    have htext : List.flatMap BareSlot.text (⟨gap, before, a⟩ :: slots) ++ rest =
        gap.text ++ ',' :: (before.text ++ (a.text ++ (slots.flatMap BareSlot.text ++ rest))) := by
      simp [BareSlot.text]
    rw [htext]
    exact Next.gap gap (Next.cons (by decide) (by decide))

theorem moreBareArguments_slots (slots : List BareSlot) {rest : List Char}
    (hfits : ∀ s ∈ slots, s.argument.fits = true) (h : Next argumentsEnds rest) :
    ∃ hle, moreBareArguments (slots.flatMap BareSlot.text ++ rest) =
      .read (slots.map fun s => s.argument.read) rest hle := by
  induction slots with
  | nil => exact moreBareArguments_done (h.skipSpaces_ne (by decide))
  | cons s slots ih =>
    obtain ⟨gap, before, a⟩ := s
    have hskip := ((solid_argument a).append
      (slots.flatMap BareSlot.text ++ rest)).skipBlanks_filler_append before
    have htext : List.flatMap BareSlot.text (⟨gap, before, a⟩ :: slots) ++ rest =
        gap.text ++ ',' :: (before.text ++ (a.text ++ (slots.flatMap BareSlot.text ++ rest))) := by
      simp [BareSlot.text]
    rw [htext, List.map_cons]
    refine moreBareArguments_cons
      (by rw [skipSpaces_gap, skipSpaces_of_not_space (by decide)]) ?_
      (ih fun s hs => hfits s (List.mem_cons_of_mem _ hs))
    rw [hskip]
    exact argument_text a (hfits _ (List.mem_cons_self ..)) (next_bareSlots slots h)

/-! ### All arguments of an element -/

theorem arguments_parens {s r rest : List Char} {as : List Source.Argument}
    (hs : skipSpaces s = '(' :: r)
    (h : ∃ hle, argumentsInParens (skipBlanks r) = .read as rest hle) :
    ∃ hle, arguments s = .read as rest hle := by
  obtain ⟨hle, h⟩ := h
  have h1 := skipSpaces_length s
  have h2 := skipBlanks_length r
  rw [hs, List.length_cons] at h1
  refine ⟨by omega, ?_⟩
  unfold arguments
  split
  · next r' hr' =>
    rw [hs, List.cons.injEq] at hr'
    obtain ⟨-, rfl⟩ := hr'
    rw [h]
  · next hne => exact absurd hs (hne r)

theorem arguments_of_no_paren {s : List Char} (hs : ∀ r, skipSpaces s ≠ '(' :: r) :
    arguments s = bareArguments s := by
  unfold arguments
  split
  · next r hr => exact absurd hr (hs r)
  · rfl

theorem bareArguments_none {s : List Char}
    (h : startsWithSpace s = true → argument (skipSpaces s) = .absent) :
    bareArguments s = .read [] s (Nat.le_refl _) := by
  unfold bareArguments
  split
  · next hspace => rw [h hspace]
  · rfl

theorem arguments_none {rest : List Char} (h : Next argumentsEnds rest) :
    ∃ hle, arguments rest = .read [] rest hle := by
  have habsent : argument (skipSpaces rest) = .absent :=
    argument_absent fun c hc => h.mono (by decide) c hc
  refine ⟨Nat.le_refl _, ?_⟩
  rw [arguments_of_no_paren (h.skipSpaces_ne (by decide)), bareArguments_none fun _ => habsent]

theorem bareArguments_cons {s rest rest' : List Char} {a : Source.Argument}
    {as : List Source.Argument} (hs : startsWithSpace s = true)
    (ha : ∃ hlt, argument (skipSpaces s) = .found a rest hlt)
    (has : ∃ hle, moreBareArguments rest = .read as rest' hle) :
    ∃ hle, bareArguments s = .read (a :: as) rest' hle := by
  obtain ⟨h1, ha⟩ := ha
  obtain ⟨h2, has⟩ := has
  have h3 := skipSpaces_length s
  refine ⟨by omega, ?_⟩
  rw [bareArguments, if_pos hs, ha]
  dsimp only
  rw [has]

theorem arguments_text (args : Arguments) {rest : List Char} (hfits : args.fits = true)
    (h : Next argumentsEnds rest) :
    ∃ hle, arguments (args.text ++ rest) = .read (args.list.map Argument.read) rest hle := by
  have hall : ∀ a ∈ args.list, a.fits = true := List.all_eq_true.1 hfits
  cases args with
  | none => exact arguments_none h
  | parens gap slots ending =>
    have htext : (Arguments.parens gap slots ending).text ++ rest =
        gap.text ++ '(' :: (slotsText slots ++ (ending.text ++ ')' :: rest)) := by
      simp [Arguments.text]
    rw [htext, Arguments.list, List.map_map]
    refine arguments_parens
      (by rw [skipSpaces_gap, skipSpaces_of_not_space (by decide)])
      (argumentsInParens_slots slots ending rest fun s hs => ?_)
    exact hall _ (List.mem_map_of_mem hs)
  | bare tab gap first more =>
    have hsolid := (solid_argument first).append (more.flatMap BareSlot.text ++ rest)
    have htext : (Arguments.bare tab gap first more).text ++ rest =
        Gap.text (tab :: gap) ++ (first.text ++ (more.flatMap BareSlot.text ++ rest)) := by
      simp [Arguments.text]
    have hskip : skipSpaces (Gap.text (tab :: gap) ++
        (first.text ++ (more.flatMap BareSlot.text ++ rest))) =
        first.text ++ (more.flatMap BareSlot.text ++ rest) := by
      rw [skipSpaces_gap, hsolid.skipSpaces_eq]
    -- A bare argument does not begin with a parenthesis, so it is not taken for a list in parentheses.
    have hparen : ∀ r, first.text ++ (more.flatMap BareSlot.text ++ rest) ≠ '(' :: r := by
      obtain ⟨c, t, heq, -, -, hc⟩ := hsolid
      intro r hr
      rw [heq, List.cons.injEq] at hr
      exact hc hr.1
    have hspace : startsWithSpace (Gap.text (tab :: gap) ++
        (first.text ++ (more.flatMap BareSlot.text ++ rest))) = true := by
      cases tab <;> rfl
    have hargs : (Arguments.bare tab gap first more).list.map Argument.read =
        first.read :: more.map fun s => s.argument.read := by
      simp [Arguments.list]
    rw [htext, arguments_of_no_paren (by rw [hskip]; exact hparen), hargs]
    refine bareArguments_cons hspace ?_ (moreBareArguments_slots more (fun s hs => ?_) h)
    · rw [hskip]
      exact argument_text first (hall _ (List.mem_cons_self ..)) (next_bareSlots more h)
    · exact hall _ (List.mem_cons_of_mem _ (List.mem_map_of_mem hs))

end Changelog.Written
