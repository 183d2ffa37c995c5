import Changelog.Proofs.Source.Argument

namespace Changelog.Written

open Changelog.Source

/-- The text that is left begins on the given line of a text that has `total` line feeds. -/
def Placed (total line : Nat) (s : List Char) : Prop :=
  1 ≤ line ∧ line + s.count '\n' = total + 1

theorem Placed.append {total line : Nat} {s t : List Char} (h : Placed total line (s ++ t)) :
    Placed total (line + s.count '\n') t := by
  obtain ⟨h1, h2⟩ := h
  rw [List.count_append] at h2
  exact ⟨by omega, by omega⟩

theorem Placed.lineAt_eq {total line : Nat} {s : List Char} (h : Placed total line s) :
    lineAt total s = line := by
  obtain ⟨h1, h2⟩ := h
  rw [lineAt, Text.lineEnds]
  omega

theorem count_name (n : Name) : n.text.count '\n' = 0 := by
  refine List.count_eq_zero.2 fun hmem => ?_
  exact absurd (isNameChar_of_mem n hmem) (by decide)

theorem count_gap (g : Gap) : g.text.count '\n' = 0 := by
  refine List.count_eq_zero.2 fun hmem => ?_
  obtain ⟨tab, -, h⟩ := List.mem_map.1 hmem
  cases tab <;> exact absurd h (by decide)

theorem next_block (b : Block) {rest : List Char} (h : Next elementEnds rest) :
    Next argumentsEnds (b.text ++ rest) := by
  cases b with
  | none => exact h.mono (by decide)
  | braces gap before inside after =>
    have htext : (Block.braces gap before inside after).text ++ rest =
        gap.text ++ '\x7b' :: (before.text ++ (inside.text ++ (after.text ++ '\x7d' :: rest))) := by
      simp [Block.text]
    rw [htext]
    exact Next.gap gap (Next.cons (by decide) (by decide))

theorem nameGoesOn_arguments (args : Arguments) {rest : List Char} (h : Next argumentsEnds rest) :
    nameGoesOn (args.text ++ rest) = false := by
  cases args with
  | none => exact nameGoesOn_of_next (h.mono (by decide))
  | parens gap slots ending =>
    rw [Arguments.text, List.append_assoc, List.cons_append]
    exact nameGoesOn_gap (by decide) gap _
  | bare tab gap first more => cases tab <;> rfl

theorem solid_element (e : Element) : Solid e.text := by
  cases e with
  | node n args block =>
    rw [Element.text]
    exact (solid_name n).append _

theorem elementOf_read (n : Name) (args : Arguments) (children : List Changelog.Element)
    (line : Nat) :
    elementOf (String.ofList n.text) (args.list.map Argument.read) children line = {
      name := String.ofList n.text
      attributes := .merged args.named
      args := args.positional
      children := children
      line := line } := by
  rw [elementOf, namedOf_read, positionalOf_read, Attributes.ofList_eq_merged]
  rfl

section Steps

variable {total line : Nat} {s afterName afterArgs : List Char} {nm : String} {as : List Source.Argument}

theorem element_plain (hname : ∃ hlt, name s = .found nm afterName hlt)
    (hargs : ∃ hle, arguments afterName = .read as afterArgs hle)
    (hopen : ∀ r, skipSpaces afterArgs ≠ '\x7b' :: r) (hline : lineAt total s = line) :
    ∃ hlt, element total s = .found (elementOf nm as [] line) afterArgs hlt := by
  obtain ⟨h1, hname⟩ := hname
  obtain ⟨h2, hargs⟩ := hargs
  have hnone : afterOpening? afterArgs = none := by
    unfold afterOpening?
    split
    · next r hr => exact absurd hr (hopen r)
    · rfl
  refine ⟨by omega, ?_⟩
  rw [element, hname]
  dsimp only
  rw [hargs, hline]
  dsimp only
  split
  · next inside hinside =>
    rw [hnone] at hinside
    cases hinside
  · rfl

theorem element_braces {inside rest : List Char} {children : List Changelog.Element}
    (hname : ∃ hlt, name s = .found nm afterName hlt)
    (hargs : ∃ hle, arguments afterName = .read as afterArgs hle)
    (hopen : skipSpaces afterArgs = '\x7b' :: inside)
    (hinside : ∃ hle, elements total (skipBlanks inside) = .read children ('\x7d' :: rest) hle)
    (hline : lineAt total s = line) :
    ∃ hlt, element total s = .found (elementOf nm as children line) rest hlt := by
  obtain ⟨h1, hname⟩ := hname
  obtain ⟨h2, hargs⟩ := hargs
  obtain ⟨h3, hinside⟩ := hinside
  have hsome : afterOpening? afterArgs = some inside := by
    rw [afterOpening?, hopen]
    rfl
  have h4 := afterOpening?_length hsome
  have h5 := skipBlanks_length inside
  rw [List.length_cons] at h3
  refine ⟨by omega, ?_⟩
  rw [element, hname]
  dsimp only
  rw [hargs, hline]
  dsimp only
  split
  · next inside' hinside' =>
    rw [hsome, Option.some.injEq] at hinside'
    subst hinside'
    rw [hinside]
    dsimp only
    split
    · next r hr =>
      rw [afterClosing?, Option.some.injEq] at hr
      subst hr
      rfl
    · next hr => cases hr
  · next hnone =>
    rw [hsome] at hnone
    cases hnone

theorem elements_cons {e : Changelog.Element} {es : List Changelog.Element} {rest rest' : List Char}
    (he : ∃ hlt, element total s = .found e rest hlt)
    (hes : ∃ hle, elements total (skipBlanks rest) = .read es rest' hle) :
    ∃ hle, elements total s = .read (e :: es) rest' hle := by
  obtain ⟨h1, he⟩ := he
  obtain ⟨h2, hes⟩ := hes
  have h3 := skipBlanks_length rest
  refine ⟨by omega, ?_⟩
  rw [elements, he]
  dsimp only
  rw [hes]

theorem elements_done (h : s = [] ∨ ∃ r, s = '\x7d' :: r) :
    ∃ hle, elements total s = .read [] s hle := by
  have habsent : element total s = .absent := by
    rw [element, name_absent]
    intro c hc
    obtain rfl | ⟨r, rfl⟩ := h
    · cases hc
    · rw [List.head?_cons, Option.some.injEq] at hc
      exact Or.inl (hc ▸ by decide)
  refine ⟨Nat.le_refl _, ?_⟩
  rw [elements, habsent]

end Steps

/-! ### Elements and documents -/

mutual

theorem element_text (e : Element) {total line : Nat} {rest : List Char} (hfits : e.fits = true)
    (hplaced : Placed total line (e.text ++ rest)) (hnext : Next elementEnds rest) :
    ∃ hlt, element total (e.text ++ rest) = .found (e.element line) rest hlt := by
  cases e with
  | node n args block =>
    rw [Element.fits, Bool.and_eq_true] at hfits
    have hblock := next_block block hnext
    have htext : (Element.node n args block).text ++ rest =
        n.text ++ (args.text ++ (block.text ++ rest)) := by
      simp [Element.text]
    rw [htext] at hplaced ⊢
    have hline := hplaced.lineAt_eq
    have hname := name_text n (nameGoesOn_arguments args hblock)
    have hargs := arguments_text args hfits.1 hblock
    have hafter := hplaced.append.append
    rw [count_name, Nat.add_zero] at hafter
    rw [Element.element, ← elementOf_read]
    cases block with
    | none => exact element_plain hname hargs (hnext.skipSpaces_ne (by decide)) hline
    | braces gap before inside after =>
      have hbraces : (Block.braces gap before inside after).text ++ rest =
          gap.text ++ '\x7b' :: (before.text ++ (inside.text ++ (after.text ++ '\x7d' :: rest))) := by
        simp [Block.text]
      have hopen : skipSpaces (gap.text ++
          '\x7b' :: (before.text ++ (inside.text ++ (after.text ++ '\x7d' :: rest)))) =
          '\x7b' :: (before.text ++ (inside.text ++ (after.text ++ '\x7d' :: rest))) := by
        rw [skipSpaces_gap, skipSpaces_of_not_space (by decide)]
      have hclose : skipBlanks (after.text ++ '\x7d' :: rest) = '\x7d' :: rest := by
        rw [skipBlanks_filler, skipBlanks_of_not_separator (by decide) (by decide)]
      rw [hbraces] at hafter hargs hname hline ⊢
      -- The line of the first inner element: the line feeds among the arguments and blanks before it.
      have hinside : Placed total (line + args.text.count '\n' + before.text.count '\n')
          (inside.text ++ (after.text ++ '\x7d' :: rest)) := by
        have hopened := hafter.append
        rw [count_gap, Nat.add_zero, ← List.singleton_append] at hopened
        exact hopened.append.append
      have hchildren := elements_text inside hfits.2 hinside
        (Next.filler after (by decide) (Next.cons (by decide) (by decide))) (Or.inr ⟨rest, hclose⟩)
      rw [hclose] at hchildren
      refine element_braces hname hargs hopen ?_ hline
      rw [skipBlanks_filler]
      exact hchildren

theorem elements_text (f : Forest) {total line : Nat} {rest : List Char} (hfits : f.fits = true)
    (hplaced : Placed total line (f.text ++ rest)) (hnext : Next elementEnds rest)
    (hends : skipBlanks rest = [] ∨ ∃ r, skipBlanks rest = '\x7d' :: r) :
    ∃ hle, elements total (skipBlanks (f.text ++ rest)) =
      .read (f.elements line) (skipBlanks rest) hle := by
  cases f with
  | nil => exact elements_done hends
  | last e =>
    rw [Forest.text] at hplaced ⊢
    rw [((solid_element e).append rest).skipBlanks_eq]
    exact elements_cons (element_text e hfits hplaced hnext) (elements_done hends)
  | cons e apart more =>
    rw [Forest.fits, Bool.and_eq_true] at hfits
    have htext : (Forest.cons e apart more).text ++ rest =
        e.text ++ (apart.filler.text ++ (more.text ++ rest)) := by
      simp [Forest.text]
    rw [htext] at hplaced ⊢
    rw [((solid_element e).append _).skipBlanks_eq]
    refine elements_cons (element_text e hfits.1 hplaced (Next.separator apart _)) ?_
    rw [skipBlanks_filler]
    exact elements_text more hfits.2 hplaced.append.append hnext hends

end

theorem readChars_text (d : Document) (h : d.fits = true) : readChars d.text = .ok d.elements := by
  have hplaced : Placed (Text.lineEnds d.text) 1 d.text := ⟨Nat.le_refl 1, Nat.add_comm 1 _⟩
  have hend : skipBlanks d.after.text = [] := by
    rw [← List.append_nil d.after.text, skipBlanks_filler, skipBlanks_nil]
  have hnext : Next elementEnds d.after.text := by
    rw [← List.append_nil d.after.text]
    exact Next.filler d.after (by decide) Next.nil
  have hread := elements_text d.inside h hplaced.append hnext (Or.inl hend)
  rw [hend, ← skipBlanks_filler d.before] at hread
  obtain ⟨hle, hread⟩ := hread
  have hwhole : elements (Text.lineEnds d.text) (skipBlanks d.text) = .read d.elements [] hle := hread
  rw [readChars, hwhole]

theorem readElements_of_text {d : Document} {source : String} (htext : d.text = source.toList)
    (h : d.fits = true) : readElements source = .ok d.elements := by
  rw [readElements, ← htext, readChars_text d h]

/-- A document is read as the elements that it means, however it is laid out. -/
theorem readElements_text (d : Document) (h : d.fits = true) :
    readElements (String.ofList d.text) = .ok d.elements := by
  rw [readElements, String.toList_ofList, readChars_text d h]

/-- An element with a block, in which names, texts, commas and comments are written in many ways. -/
def nestedDocument : Document where
  before := []
  inside := .last (.node ⟨'a', [], by decide, by decide⟩
    (.parens []
      [⟨[], .named ⟨'k', [], by decide, by decide⟩ [] [.space]
          (.string (.short .single [.plain 'x' (by decide), .escaped .lineFeed])), []⟩,
        ⟨[.space], .positional (.list
          (.cons [] (.int ⟨false, 1, []⟩) [] (.cons [.space] .null [] .nil)) ⟨some [], []⟩), []⟩,
        ⟨[.space], .named ⟨'k', [], by decide, by decide⟩ [] [.space] (.int ⟨true, 0, [2]⟩), []⟩]
      ⟨some [], []⟩)
    (.braces [false] [.space, .lineComment [' ', 'c'] (by decide), .space]
      (.cons
        (.node ⟨'b', [], by decide, by decide⟩
          (.bare true [] (.positional (.string (.long ['y', '"', 'z'] (by decide) (by decide))))
            [⟨[false], [.lineFeed], .positional (.bool true)⟩])
          .none)
        ⟨true, [.semicolon]⟩
        (.last (.node ⟨'e', [], by decide, by decide⟩ .none .none)))
      [.space]))
  after := []

theorem readElements_nestedDocument :
    readElements
        "a(k: 'x\\n', [1, null,], k: -02,) \x7b // c\n b\t\"\"\"y\"z\"\"\" ,\ntrue\n;e \x7d" =
      .ok [{
        name := "a"
        attributes := ⟨[("k", .int (-2))], by decide⟩
        args := [.list [.int 1, .null]]
        children := [
          { name := "b", attributes := .empty, args := [.string "y\"z", .bool true], children := [],
            line := 2 },
          { name := "e", attributes := .empty, args := [], children := [], line := 4 }]
        line := 1 }] := by
  have htext : String.ofList nestedDocument.text =
      "a(k: 'x\\n', [1, null,], k: -02,) \x7b // c\n b\t\"\"\"y\"z\"\"\" ,\ntrue\n;e \x7d" := by
    decide
  rw [← htext, readElements_text nestedDocument (by decide)]
  rfl

end Changelog.Written
