import Changelog.Proofs.Source.LiteralDerivation

namespace Changelog.Grammar

open Changelog.Source

theorem namedArgument_derives {s rest : List Char} {a : Source.Argument}
    {hlt : rest.length < s.length} (h : namedArgument s = .found a rest hlt) : Argument s a rest := by
  unfold namedArgument at h
  split at h
  · next key afterName hname hkey =>
    split at h
    · next afterColon hcolon =>
      split at h
      · next v after hrest hliteral =>
        cases h
        exact .named (name_derives hkey) (spaces_of_skipSpaces hcolon) (blanks_skipBlanks afterColon)
          (literal_derives hliteral)
      · cases h
      · cases h
    · cases h
  · cases h
  · cases h

theorem argument_derives {s rest : List Char} {a : Source.Argument} {hlt : rest.length < s.length}
    (h : argument s = .found a rest hlt) : Argument s a rest := by
  unfold argument at h
  split at h
  · next hnamed =>
    cases h
    exact namedArgument_derives hnamed
  · cases h
  · split at h
    · next hliteral =>
      cases h
      exact .positional (literal_derives hliteral)
    · cases h
    · cases h

theorem closing_of_closeArguments {s rest : List Char} {args : List Source.Argument}
    {hle : rest.length ≤ s.length} (h : closeArguments s = .read args rest hle) :
    args = [] ∧ Closing ')' s rest := by
  unfold closeArguments at h
  split at h
  · next hplace =>
    cases h
    exact ⟨rfl, closing_of_closingPlace hplace⟩
  · cases h

theorem moreArguments_cases {s rest : List Char} {args : List Source.Argument}
    {hle : rest.length ≤ s.length} (h : moreArguments s = .read args rest hle) :
    (args = [] ∧ Closing ')' s rest) ∨ ∃ after a middle more hmiddle hrest, args = a :: more ∧
      skipBlanks s = ',' :: after ∧ argument (skipBlanks after) = .found a middle hmiddle ∧
      moreArguments middle = .read more rest hrest := by
  rw [moreArguments.eq_def] at h
  split at h
  · next after hcomma =>
    split at h
    · next a middle hmiddle hargument =>
      split at h
      · next more last hrest hmore =>
        cases h
        exact Or.inr ⟨after, a, middle, more, hmiddle, hrest, rfl, hcomma, hargument, hmore⟩
      · cases h
    · cases h
    · exact Or.inl (closing_of_closeArguments h)
  · exact Or.inl (closing_of_closeArguments h)

theorem moreArguments_derives {s rest : List Char} {args : List Source.Argument}
    {hle : rest.length ≤ s.length} (h : moreArguments s = .read args rest hle) :
    More Argument ')' s args rest := by
  obtain ⟨hargs, hclosing⟩ | ⟨after, a, middle, more, hmiddle, hrest, hargs, hcomma, hargument, hmore⟩ :=
    moreArguments_cases h
  · rw [hargs]
    exact .close hclosing
  · have hshorter := hmiddle.trans (length_skipBlanks_lt hcomma)
    rw [hargs]
    exact .cons (blanks_of_skipBlanks hcomma) (blanks_skipBlanks after) (argument_derives hargument)
      (moreArguments_derives hmore)
termination_by s.length
decreasing_by exact hshorter

theorem argumentsInParens_derives {inside first rest : List Char} {args : List Source.Argument}
    {hle : rest.length ≤ first.length} (hblanks : Blanks inside first)
    (h : argumentsInParens first = .read args rest hle) :
    Listed Argument '(' ')' ('(' :: inside) args rest := by
  unfold argumentsInParens at h
  split at h
  · next hargument =>
    split at h
    · next hmore =>
      cases h
      exact .cons hblanks (argument_derives hargument) (moreArguments_derives hmore)
    · cases h
  · cases h
  · obtain ⟨rfl, hclosing⟩ := closing_of_closeArguments h
    exact .close (hclosing.of_blanks hblanks)

theorem moreBareArguments_cases {s rest : List Char} {args : List Source.Argument}
    {hle : rest.length ≤ s.length} (h : moreBareArguments s = .read args rest hle) :
    (args = [] ∧ rest = s) ∨ ∃ after a middle more hmiddle hrest, args = a :: more ∧
      skipSpaces s = ',' :: after ∧ argument (skipBlanks after) = .found a middle hmiddle ∧
      moreBareArguments middle = .read more rest hrest := by
  rw [moreBareArguments.eq_def] at h
  split at h
  · next after hcomma =>
    split at h
    · next a middle hmiddle hargument =>
      split at h
      · next more last hrest hmore =>
        cases h
        exact Or.inr ⟨after, a, middle, more, hmiddle, hrest, rfl, hcomma, hargument, hmore⟩
      · cases h
    · cases h
    · cases h
      exact Or.inl ⟨rfl, rfl⟩
  · cases h
    exact Or.inl ⟨rfl, rfl⟩

theorem moreBareArguments_derives {s rest : List Char} {args : List Source.Argument}
    {hle : rest.length ≤ s.length} (h : moreBareArguments s = .read args rest hle) :
    MoreBare s args rest := by
  obtain ⟨hargs, hrest⟩ | ⟨after, a, middle, more, hmiddle, hrest, hargs, hcomma, hargument, hmore⟩ :=
    moreBareArguments_cases h
  · rw [hargs, hrest]
    exact .nil s
  · have hshorter : middle.length < s.length := by
      have h1 := skipSpaces_length s
      have h2 := skipBlanks_length after
      rw [hcomma, List.length_cons] at h1
      omega
    rw [hargs]
    exact .cons (spaces_of_skipSpaces hcomma) (blanks_skipBlanks after) (argument_derives hargument)
      (moreBareArguments_derives hmore)
termination_by s.length
decreasing_by exact hshorter

theorem bareArguments_derives {s rest : List Char} {args : List Source.Argument}
    {hle : rest.length ≤ s.length} (h : bareArguments s = .read args rest hle) :
    Arguments s args rest := by
  unfold bareArguments at h
  split at h
  · next hspace =>
    cases s with
    | nil => cases hspace
    | cons c after =>
      have hskip : skipSpaces (c :: after) = skipSpaces after := List.dropWhile_cons_of_pos hspace
      split at h
      · next a middle hmiddle hargument =>
        split at h
        · next hmore =>
          cases h
          have hderived := argument_derives hargument
          rw [hskip] at hderived
          exact .bare hspace (spaces_skipSpaces after) hderived (moreBareArguments_derives hmore)
        · cases h
      · cases h
      · cases h
        exact .none _
  · cases h
    exact .none s

theorem arguments_derives {s rest : List Char} {args : List Source.Argument}
    {hle : rest.length ≤ s.length} (h : arguments s = .read args rest hle) :
    Arguments s args rest := by
  unfold arguments at h
  split at h
  · next inside hopen =>
    split at h
    · next hargs =>
      cases h
      exact .parens (spaces_of_skipSpaces hopen)
        (argumentsInParens_derives (blanks_skipBlanks inside) hargs)
    · cases h
  · exact bareArguments_derives h

/-! ### Nodes -/

theorem onLine_lineAt {source s : List Char} (h : s <:+ source) :
    OnLine source s (lineAt (Text.lineEnds source) s) := by
  obtain ⟨before, rfl⟩ := h
  refine ⟨before, rfl, ?_⟩
  rw [lineAt, Text.lineEnds_append, Nat.add_sub_cancel]
  rfl

theorem elementOf_eq (name : String) (args : List Source.Argument) (children : List Element)
    (line : Nat) : Source.elementOf name args children line = elementOf name args children line := by
  rw [Source.elementOf, Attributes.ofList_eq_merged, elementOf]

theorem skipSpaces_of_afterOpening? {s inside : List Char} (h : afterOpening? s = some inside) :
    skipSpaces s = '\x7b' :: inside := by
  unfold afterOpening? at h
  split at h
  · next hopen =>
    cases h
    exact hopen
  · cases h

theorem no_brace_of_afterOpening? {s : List Char} (h : afterOpening? s = none) (r : List Char) :
    skipSpaces s ≠ '\x7b' :: r := by
  intro hr
  rw [afterOpening?, hr] at h
  cases h

theorem spaces_of_afterOpening? {s inside : List Char} (h : afterOpening? s = some inside) :
    Spaces s ('\x7b' :: inside) :=
  spaces_of_skipSpaces (skipSpaces_of_afterOpening? h)

theorem eq_of_afterClosing? {s rest : List Char} (h : afterClosing? s = some rest) :
    s = '\x7d' :: rest := by
  unfold afterClosing? at h
  split at h
  · cases h
    rfl
  · cases h

theorem element_cases {total : Nat} {s rest : List Char} {e : Element} {hlt : rest.length < s.length}
    (h : element total s = .found e rest hlt) :
    ∃ key afterName hname args afterArgs hargs children,
      name s = .found key afterName hname ∧ arguments afterName = .read args afterArgs hargs ∧
      e = elementOf key args children (lineAt total s) ∧
      ((afterOpening? afterArgs = none ∧ children = [] ∧ rest = afterArgs) ∨
        ∃ inside afterChildren hchildren,
        afterOpening? afterArgs = some inside ∧ afterClosing? afterChildren = some rest ∧
        elements total (skipBlanks inside) = .read children afterChildren hchildren) := by
  rw [element.eq_def] at h
  split at h
  · cases h
  · cases h
  · next key afterName hname hkey =>
    split at h
    · cases h
    · next args afterArgs hargs harguments =>
      refine ⟨key, afterName, hname, args, afterArgs, hargs, ?_⟩
      split at h
      · next inside hopen =>
        split at h
        · cases h
        · next children afterChildren hchildren helements =>
          split at h
          · next last hclose =>
            cases h
            exact ⟨children, hkey, harguments, elementOf_eq .., Or.inr
              ⟨inside, afterChildren, hchildren, hopen, hclose, helements⟩⟩
          · cases h
      · next hnone =>
        cases h
        exact ⟨[], hkey, harguments, elementOf_eq .., Or.inl ⟨hnone, rfl, rfl⟩⟩

theorem elements_cases {total : Nat} {s rest : List Char} {es : List Element}
    {hle : rest.length ≤ s.length} (h : elements total s = .read es rest hle) :
    (es = [] ∧ rest = s) ∨ ∃ e middle more hmiddle hrest, es = e :: more ∧
      element total s = .found e middle hmiddle ∧
      elements total (skipBlanks middle) = .read more rest hrest := by
  rw [elements] at h
  split at h
  · cases h
    exact Or.inl ⟨rfl, rfl⟩
  · cases h
  · next e middle hmiddle helement =>
    split at h
    · cases h
    · next more last hrest hmore =>
      cases h
      exact Or.inr ⟨e, middle, more, hmiddle, hrest, rfl, helement, hmore⟩

mutual

theorem element_derives {source s rest : List Char} {e : Element} {hlt : rest.length < s.length}
    (hs : s <:+ source) (h : element (Text.lineEnds source) s = .found e rest hlt) :
    Node source s e rest := by
  obtain ⟨key, afterName, hname, args, afterArgs, hargs, children, hkey, harguments, he, hblock⟩ :=
    element_cases h
  have hnameDerived := name_derives hkey
  have hargsDerived := arguments_derives harguments
  have hafterArgs : afterArgs <:+ source :=
    (hargsDerived.suffix.trans hnameDerived.suffix).trans hs
  rw [he]
  refine .mk (onLine_lineAt hs) hnameDerived hargsDerived ?_
  obtain ⟨-, hchildren, hrest⟩ | ⟨inside, afterChildren, hchildren, hopen, hclose, helements⟩ := hblock
  · rw [hchildren, hrest]
    exact .none afterArgs
  · have hspaces := spaces_of_afterOpening? hopen
    have hblanks := blanks_skipBlanks inside
    have hshorter : (skipBlanks inside).length < s.length := by
      have h1 := afterOpening?_length hopen
      have h2 := skipBlanks_length inside
      omega
    have hinside : skipBlanks inside <:+ source :=
      (hblanks.suffix.trans ((List.suffix_cons _ _).trans hspaces.suffix)).trans hafterArgs
    have hnodes := elements_derives hinside helements
    rw [eq_of_afterClosing? hclose] at hnodes
    exact .braces hspaces hblanks hnodes
termination_by (s.length, 0)
decreasing_by exact .left _ _ hshorter

theorem elements_derives {source s rest : List Char} {es : List Element}
    {hle : rest.length ≤ s.length} (hs : s <:+ source)
    (h : elements (Text.lineEnds source) s = .read es rest hle) : Nodes source s es rest := by
  obtain ⟨hes, hrest⟩ | ⟨e, middle, more, hmiddle, hrest, hes, helement, hmore⟩ := elements_cases h
  · rw [hes, hrest]
    exact .nil s
  · have hshorter : (skipBlanks middle).length < s.length :=
      Nat.lt_of_le_of_lt (skipBlanks_length middle) hmiddle
    have hnode := element_derives hs helement
    have hblanks := blanks_skipBlanks middle
    rw [hes]
    exact .cons hnode hblanks
      (elements_derives ((hblanks.suffix.trans hnode.suffix).trans hs) hmore)
termination_by (s.length, 1)
decreasing_by
  · exact .right _ (by decide)
  · exact .left _ _ hshorter

end

theorem readChars_eq_ok_iff {source : List Char} {es : List Element} :
    readChars source = .ok es ↔
      ∃ hle, elements (Text.lineEnds source) (skipBlanks source) = .read es [] hle := by
  constructor
  · intro h
    unfold readChars at h
    dsimp only at h
    split at h
    · next helements =>
      cases h
      exact ⟨_, helements⟩
    · cases h
    · cases h
  · rintro ⟨hle, helements⟩
    rw [readChars, helements]

theorem readChars_derives {source : List Char} {es : List Element} (h : readChars source = .ok es) :
    Document source es := by
  have hblanks := blanks_skipBlanks source
  obtain ⟨hle, helements⟩ := readChars_eq_ok_iff.1 h
  exact ⟨skipBlanks source, hblanks, elements_derives hblanks.suffix helements⟩

end Changelog.Grammar
