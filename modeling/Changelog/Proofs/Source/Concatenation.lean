import Changelog.Proofs.Source.Locality

/-!
# Source texts one after the other

Two source texts with a line feed between them are read as the elements of the one and then those of the
other, further down.
-/

namespace Changelog.Source

variable {total : Nat} {s rest : List Char} (t : List Char)

def literalWords : List (List Char) := [['t', 'r', 'u', 'e'], ['f', 'a', 'l', 's', 'e'], ['n', 'u', 'l', 'l']]

theorem afterWord?_name {n : Written.Name} {word : List Char} (hword : word ∈ literalWords)
    (hn : n.text ∉ literalWords) (hend : nameGoesOn rest = false) :
    afterWord? word (n.text ++ rest) = none := by
  have hall : literalWords.all (·.all isNameChar) = true := by decide
  have hchars := List.all_eq_true.1 (List.all_eq_true.1 hall word hword)
  by_contra hsome
  obtain ⟨after, hafter⟩ := Option.ne_none_iff_exists'.1 hsome
  obtain ⟨hsplit, hend'⟩ := Grammar.word_of_afterWord? hafter
  obtain ⟨rfl, -⟩ := Text.run_append_inj (fun c hc => Written.isNameChar_of_mem n hc) hchars
    (Written.isNameChar_of_nameGoesOn hend) (Written.isNameChar_of_nameGoesOn hend') hsplit
  exact hn hword

theorem not_mem_of_isNameChar {chars : List Char} (hchars : ∀ c ∈ chars, isNameChar c = false) {c : Char}
    (hc : isNameChar c = true) : c ∉ chars := by
  intro hmem
  rw [hchars c hmem] at hc
  nomatch hc

theorem literal_name_absent {n : Written.Name} (hn : n.text ∉ literalWords) (hend : nameGoesOn rest = false) :
    literal (n.text ++ rest) = .absent := by
  have hfirst : n.first ∉ ['"', '\'', '-', '['] :=
    not_mem_of_isNameChar (Text.forall_mem_of_all (by decide)) n.first_ok.1
  simp only [List.mem_cons, List.not_mem_nil, or_false, not_or] at hfirst
  have hquoted : quoted? (n.text ++ rest) = none :=
    Written.quoted?_none fun c hc => Option.some.inj hc ▸ ⟨hfirst.1, hfirst.2.1⟩
  have hnumber : number (n.text ++ rest) = .absent :=
    Written.number_absent fun c hc => Option.some.inj hc ▸ ⟨hfirst.2.2.1, n.first_ok.2⟩
  have hword : wordLiteral? (n.text ++ rest) = none := by
    rw [wordLiteral?, afterWord?_name (by decide) hn hend, afterWord?_name (by decide) hn hend,
      afterWord?_name (by decide) hn hend]
  exact Written.literal_absent_of_scalar (Written.scalar_absent_of_none hquoted hnumber hword)
    fun r heq => hfirst.2.2.2 (List.cons.inj heq).1

theorem literal_word_ne_absent {word : List Char} (hword : word ∈ literalWords)
    (hend : nameGoesOn rest = false) : literal (word ++ rest) ≠ .absent := by
  have hfound : ∃ v hlt, literal (word ++ rest) = .found v rest hlt := by
    simp only [literalWords, List.mem_cons, List.not_mem_nil, or_false] at hword
    rcases hword with rfl | rfl | rfl
    · exact ⟨_, Written.literal_word ⟨'t', rfl, by decide⟩ (Written.wordLiteral?_true hend)⟩
    · exact ⟨_, Written.literal_word ⟨'f', rfl, by decide⟩ (Written.wordLiteral?_false hend)⟩
    · exact ⟨_, Written.literal_word ⟨'n', rfl, by decide⟩ (Written.wordLiteral?_null hend)⟩
  obtain ⟨v, hlt, hfound⟩ := hfound
  rw [hfound]
  nofun

theorem argument_name_absent {n : Written.Name} {rest' : List Char}
    (h : argument (n.text ++ rest) = .absent) (hend : nameGoesOn rest = false)
    (hend' : nameGoesOn rest' = false) (hcolon : (skipSpaces rest').head? ≠ some ':') :
    argument (n.text ++ rest') = .absent := by
  have hliteral : literal (n.text ++ rest) = .absent := by
    unfold argument at h
    split at h
    · cases h
    · cases h
    · split at h
      · cases h
      · cases h
      · next hliteral => exact hliteral
  have hn : n.text ∉ literalWords := fun hword => literal_word_ne_absent hword hend hliteral
  have hnamed := Written.namedArgument_of_no_colon n hend' fun r hr => hcolon (by rw [hr]; rfl)
  rw [argument, hnamed, literal_name_absent hn hend']

/-! ### What follows an element -/

/-- Elements are read up to the end of the text or up to a closing brace. -/
def Complete (total : Nat) (s : List Char) (es : List Element) (rest : List Char) : Prop :=
  (∃ hle, elements total s = .read es rest hle) ∧ (rest = [] ∨ ∃ r, rest = '\x7d' :: r)

theorem argument_colon_absent (r : List Char) : argument (':' :: r) = .absent := by
  have hnamed : namedArgument (':' :: r) = .absent :=
    Written.namedArgument_absent fun c hc => .inl (Option.some.inj hc ▸ by decide)
  have hliteral : literal (':' :: r) = .absent :=
    Written.literal_absent_of_head fun c hc => Option.some.inj hc ▸ by decide
  rw [argument, hnamed, hliteral]

theorem colon_of_complete {key : String} {afterName : List Char} {hlt : afterName.length < s.length}
    {es : List Element} (h : Complete total s es rest) (hname : name s = .found key afterName hlt) :
    (skipSpaces afterName).head? ≠ some ':' := by
  intro hcolon
  obtain ⟨r, hr⟩ := List.head?_eq_some_iff.1 hcolon
  have hother : ∀ c, c ≠ ':' → ∀ more, skipSpaces afterName ≠ c :: more :=
    fun c hc more heq => hc (List.cons.inj (heq.symm.trans hr)).1
  have hskip : skipBlanks afterName = ':' :: r := by
    rw [← skipBlanks_skipSpaces, hr, Written.skipBlanks_of_not_separator (by decide) (by decide)]
  have hargs : ∃ hle, arguments afterName = .read [] afterName hle := by
    have habsent : argument (skipSpaces afterName) = .absent := by
      rw [hr]
      exact argument_colon_absent r
    refine ⟨Nat.le_refl _, ?_⟩
    rw [Written.arguments_of_no_paren (hother '(' (by decide)), Written.bareArguments_none fun _ => habsent]
  have helement : ∃ hlt, element total s = .found _ afterName hlt :=
    Written.element_plain ⟨hlt, hname⟩ hargs (hother '\x7b' (by decide)) rfl
  have hnone : ∃ hle, elements total (skipBlanks afterName) = .read [] (':' :: r) hle := by
    have hnoName : name (':' :: r) = .absent :=
      Written.name_absent fun c hc => .inl (Option.some.inj hc ▸ by decide)
    rw [hskip]
    exact ⟨Nat.le_refl _, by rw [elements, element, hnoName]⟩
  -- so the elements would end at the colon, but they end with the text or at a brace
  obtain ⟨hle, hread⟩ := Written.elements_cons helement hnone
  obtain ⟨⟨hle', hread'⟩, hrest⟩ := h
  rw [hread, Run.read.injEq] at hread'
  obtain ⟨-, rfl⟩ := hread'
  obtain hnil | ⟨r', hbrace⟩ := hrest
  · exact absurd hnil (List.cons_ne_nil _ _)
  · exact absurd (List.cons.inj hbrace).1 (by decide)

/-- Elements begin with the end of the text, a closing brace, or a name without a colon. -/
theorem start_of_complete {es : List Element} (h : Complete total s es rest) :
    s = rest ∨ ∃ (n : Written.Name) (afterName : List Char), s = n.text ++ afterName ∧
      nameGoesOn afterName = false ∧ (skipSpaces afterName).head? ≠ some ':' := by
  obtain ⟨⟨hle, hread⟩, hrest⟩ := h
  obtain ⟨-, rfl⟩ | ⟨e, middle, more, hmiddle, hmore, -, helement, -⟩ := Grammar.elements_cases hread
  · exact .inl rfl
  · obtain ⟨key, afterName, hname, args, afterArgs, hargs, children, hkey, -, -, hblock⟩ :=
      Grammar.element_cases helement
    have hcolon := colon_of_complete ⟨⟨hle, hread⟩, hrest⟩ hkey
    cases Grammar.name_derives hkey with
    | mk n hend => exact .inr ⟨n, afterName, rfl, hend, hcolon⟩

theorem head?_of_complete {es : List Element} (h : Complete total s es rest) {c : Char}
    (hc : s.head? = some c) : c = '\x7d' ∨ isNameChar c = true := by
  obtain rfl | ⟨n, afterName, rfl, -⟩ := start_of_complete h
  · obtain rfl | ⟨r, rfl⟩ := h.2
    · nomatch hc
    · exact .inl (Option.some.inj hc).symm
  · exact .inr (Option.some.inj hc ▸ n.first_ok.1)

theorem skipBlanks_of_head {c : Char} {r : List Char} (h : skipSpaces s = c :: r)
    (hc : c ∉ Written.literalEnds) : skipBlanks s = c :: r := by
  have hspace := isSpace_of_skipSpaces h
  simp only [isSpace, Bool.or_eq_false_iff] at hspace
  simp only [Written.literalEnds, Written.elementEnds, Written.fillerStarts, List.mem_cons,
    List.not_mem_nil, or_false, not_or] at hc
  rw [← skipBlanks_skipSpaces, h]
  exact Written.skipBlanks_of_not_separator (by simp [isSeparator, hspace, hc]) (by simp [hc]) r

theorem argument_absent_append {es : List Element} (h : Complete total (skipBlanks s) es rest)
    (habsent : argument (skipSpaces s) = .absent) : argument (skipSpaces s ++ '\n' :: t) = .absent := by
  cases hs : skipSpaces s with
  | nil => exact Written.argument_absent fun c hc => Option.some.inj hc ▸ by decide
  | cons c more =>
    -- a character with which no literal begins settles it; otherwise what comes is the name of an element
    by_cases hc : c ∈ Written.literalEnds
    · exact Written.argument_absent fun d hd => Option.some.inj hd ▸ hc
    · rw [skipBlanks_of_head hs hc] at h
      obtain hsame | ⟨n, afterName, hsplit, hend, hcolon⟩ := start_of_complete h
      · obtain rfl | ⟨r, rfl⟩ := h.2
        · nomatch hsame
        · rw [(List.cons.inj hsame).1] at hc
          exact absurd (by decide) hc
      · have hcolon' : (skipSpaces (afterName ++ '\n' :: t)).head? ≠ some ':' := by
          rw [skipSpaces_append]
          exact head?_append_ne t (by decide) hcolon
        rw [hs, hsplit] at habsent
        rw [hsplit, List.append_assoc]
        exact argument_name_absent habsent hend (nameGoesOn_append t hend) hcolon'

/-- Before elements the arguments of the element above end, whatever is put behind the text. -/
theorem ends_of_complete {es : List Element} (h : Complete total (skipBlanks s) es rest) : Ends t s := by
  have hhead : ∀ c ∈ ['"', '.', ':', ','], (skipBlanks s).head? ≠ some c := by
    have hall : ∀ c ∈ ['"', '.', ':', ','], c ≠ '\x7d' ∧ isNameChar c = false :=
      Text.forall_mem_of_all (by decide)
    intro c hmem hc
    rcases head?_of_complete h hc with hbrace | hname
    · exact (hall c hmem).1 hbrace
    · rw [(hall c hmem).2] at hname
      nomatch hname
  refine ⟨?_, fun hcomma => ?_, fun habsent => ?_⟩
  · exact clear_of_skipBlanks fun c hc hmem =>
      hhead c ((by decide : ['"', '.', ':'] ⊆ ['"', '.', ':', ',']) hmem) hc
  · obtain ⟨after, hafter⟩ := List.head?_eq_some_iff.1 hcomma
    refine hhead ',' (by decide) ?_
    rw [← skipBlanks_skipSpaces, hafter, Written.skipBlanks_comma]
    rfl
  · rw [skipSpaces_append]
    exact argument_absent_append t h habsent

theorem skipBlanks_append_of_complete {es : List Element} (h : Complete total (skipBlanks s) es rest)
    (hne : skipBlanks s ≠ []) : skipBlanks (s ++ '\n' :: t) = skipBlanks s ++ '\n' :: t := by
  cases hs : skipBlanks s with
  | nil => exact absurd hs hne
  | cons c more =>
    refine skipBlanks_append_of_cons t hs ?_
    rintro rfl
    rcases head?_of_complete h (by rw [hs, List.head?_cons]) with hbrace | hname
    · exact absurd hbrace (by decide)
    · exact absurd hname (by decide)

/-! ### Elements of a longer text -/

theorem lineAt_append (total : Nat) (s x : List Char) :
    lineAt (total + Text.lineEnds x) (s ++ x) = lineAt total s := by
  rw [lineAt, lineAt, Text.lineEnds_append, Nat.add_sub_add_right]

theorem ends_of_brace {inside : List Char} (h : skipSpaces s = '\x7b' :: inside) : Ends t s := by
  have hskip : skipBlanks s = '\x7b' :: inside := by
    rw [← skipBlanks_skipSpaces, h, Written.skipBlanks_of_not_separator (by decide) (by decide)]
  refine ⟨clear_of_cons hskip (by decide), by rw [h]; simp, fun _ => ?_⟩
  rw [skipSpaces_append, h]
  exact Written.argument_absent fun c hc => Option.some.inj hc ▸ by decide

theorem no_brace_append (h : afterOpening? s = none) (r : List Char) :
    skipSpaces (s ++ '\n' :: t) ≠ '\x7b' :: r := by
  have hbrace : (skipSpaces s).head? ≠ some '\x7b' := by
    intro hhead
    obtain ⟨inside, hinside⟩ := List.head?_eq_some_iff.1 hhead
    exact Grammar.no_brace_of_afterOpening? h inside hinside
  intro hr
  rw [skipSpaces_append] at hr
  exact head?_append_ne t (by decide) hbrace (by rw [hr]; rfl)

-- An element alone may go on into what is put behind it; that elements follow it tells where it ends.
-- Lengths are counted past the blanks before an element.
mutual

theorem element_append {s rest r : List Char} {e : Element} {es : List Element}
    {hlt : rest.length < s.length} (h : element total s = .found e rest hlt)
    (hnext : Complete total (skipBlanks rest) es r) :
    ∃ hlt, element (total + Text.lineEnds ('\n' :: t)) (s ++ '\n' :: t) =
      .found e (rest ++ '\n' :: t) hlt := by
  obtain ⟨key, afterName, hname, args, afterArgs, hargs, children, hkey, harguments, he, hblock⟩ :=
    Grammar.element_cases h
  have hline := lineAt_append total s ('\n' :: t)
  have hname' := name_append t hkey
  rw [he, ← Grammar.elementOf_eq]
  obtain ⟨hopen, hnone, hrest⟩ | ⟨inside, afterChildren, hchildren, hopen, hclose, helements⟩ := hblock
  · subst hrest
    rw [hnone]
    exact Written.element_plain hname' (arguments_append t harguments (ends_of_complete t hnext))
      (no_brace_append t hopen) hline
  · have hbrace := Grammar.skipSpaces_of_afterOpening? hopen
    have hshorter : (skipBlanks inside).length < s.length := by
      have h1 := afterOpening?_length hopen
      have h2 := skipBlanks_length inside
      omega
    have hbrace' : skipSpaces (afterArgs ++ '\n' :: t) = '\x7b' :: (inside ++ '\n' :: t) := by
      rw [skipSpaces_append, hbrace]
      rfl
    obtain rfl := Grammar.eq_of_afterClosing? hclose
    exact Written.element_braces hname' (arguments_append t harguments (ends_of_brace t hbrace))
      hbrace' (elements_append helements) hline
termination_by (s.length, 0)
decreasing_by exact .left _ _ hshorter

theorem elements_append {s rest : List Char} {es : List Element}
    {hle : ('\x7d' :: rest).length ≤ (skipBlanks s).length}
    (h : elements total (skipBlanks s) = .read es ('\x7d' :: rest) hle) :
    ∃ hle, elements (total + Text.lineEnds ('\n' :: t)) (skipBlanks (s ++ '\n' :: t)) =
      .read es ('\x7d' :: (rest ++ '\n' :: t)) hle := by
  have hne : skipBlanks s ≠ [] := by
    intro hnil
    rw [hnil] at hle
    nomatch hle
  rw [skipBlanks_append_of_complete t ⟨⟨hle, h⟩, .inr ⟨rest, rfl⟩⟩ hne]
  obtain ⟨hes, hrest⟩ | ⟨e, middle, more, hmiddle, hmore, hes, helement, helements⟩ :=
    Grammar.elements_cases h
  · rw [hes, ← hrest]
    exact Written.elements_done (.inr ⟨rest ++ '\n' :: t, rfl⟩)
  · have hshorter : (skipBlanks middle).length < (skipBlanks s).length :=
      Nat.lt_of_le_of_lt (skipBlanks_length middle) hmiddle
    rw [hes]
    exact Written.elements_cons
      (element_append helement ⟨⟨hmore, helements⟩, .inr ⟨rest, rfl⟩⟩)
      (elements_append helements)
termination_by ((skipBlanks s).length, 1)
decreasing_by
  · exact .right _ (by decide)
  · exact .left _ _ hshorter

end

end Changelog.Source

namespace Changelog

mutual

/-- The element as it would be if the given number of lines stood above. -/
def Element.lowered (lines : Nat) : Element → Element
  | ⟨name, attributes, args, children, line⟩ =>
    ⟨name, attributes, args, lowered lines children, line + lines⟩

def lowered (lines : Nat) : List Element → List Element
  | [] => []
  | e :: es => e.lowered lines :: lowered lines es

end

theorem lowered_eq_map (lines : Nat) (es : List Element) : lowered lines es = es.map (·.lowered lines) := by
  induction es with
  | nil => rfl
  | cons e es ih => rw [lowered, ih, List.map_cons]

namespace Source

variable {source : List Char}

theorem lineAt_add {s : List Char} (hs : s <:+ source) (lines : Nat) :
    lineAt (Text.lineEnds source + lines) s = lineAt (Text.lineEnds source) s + lines := by
  have hle : Text.lineEnds s ≤ Text.lineEnds source := hs.sublist.count_le '\n'
  unfold lineAt
  omega

theorem elementOf_lowered (lines : Nat) (key : String) (args : List Argument) (children : List Element)
    (line : Nat) : (elementOf key args children line).lowered lines =
      elementOf key args (lowered lines children) (line + lines) := by
  rw [elementOf, Element.lowered]
  rfl

mutual

theorem element_lowered {s rest : List Char} {e : Element} {hlt : rest.length < s.length}
    (hs : s <:+ source) (h : element (Text.lineEnds source) s = .found e rest hlt) (lines : Nat) :
    ∃ hlt, element (Text.lineEnds source + lines) s = .found (e.lowered lines) rest hlt := by
  obtain ⟨key, afterName, hname, args, afterArgs, hargs, children, hkey, harguments, he, hblock⟩ :=
    Grammar.element_cases h
  have hline := lineAt_add hs lines
  rw [he, ← Grammar.elementOf_eq, elementOf_lowered]
  obtain ⟨hopen, hnone, hrest⟩ | ⟨inside, afterChildren, hchildren, hopen, hclose, helements⟩ := hblock
  · subst hrest
    rw [hnone]
    exact Written.element_plain ⟨hname, hkey⟩ ⟨hargs, harguments⟩
      (Grammar.no_brace_of_afterOpening? hopen) hline
  · have hshorter : (skipBlanks inside).length < s.length := by
      have h1 := afterOpening?_length hopen
      have h2 := skipBlanks_length inside
      omega
    have hinside : skipBlanks inside <:+ source := by
      have hblanks := (Grammar.blanks_skipBlanks inside).suffix
      have hspaces := (Grammar.spaces_of_afterOpening? hopen).suffix
      have hafterArgs :=
        (Grammar.arguments_derives harguments).suffix.trans (Grammar.name_derives hkey).suffix
      exact ((hblanks.trans (List.suffix_cons _ _)).trans (hspaces.trans hafterArgs)).trans hs
    obtain rfl := Grammar.eq_of_afterClosing? hclose
    exact Written.element_braces ⟨hname, hkey⟩ ⟨hargs, harguments⟩
      (Grammar.skipSpaces_of_afterOpening? hopen)
      (elements_lowered hinside helements (.inr ⟨_, rfl⟩) lines) hline
termination_by (s.length, 0)
decreasing_by exact .left _ _ hshorter

theorem elements_lowered {s rest : List Char} {es : List Element} {hle : rest.length ≤ s.length}
    (hs : s <:+ source) (h : elements (Text.lineEnds source) s = .read es rest hle)
    (hrest : rest = [] ∨ ∃ r, rest = '\x7d' :: r) (lines : Nat) :
    ∃ hle, elements (Text.lineEnds source + lines) s = .read (lowered lines es) rest hle := by
  obtain ⟨hes, hdone⟩ | ⟨e, middle, more, hmiddle, hmore, hes, helement, helements⟩ :=
    Grammar.elements_cases h
  · subst hdone
    rw [hes]
    exact Written.elements_done hrest
  · have hshorter : (skipBlanks middle).length < s.length :=
      Nat.lt_of_le_of_lt (skipBlanks_length middle) hmiddle
    have hmiddleSource : skipBlanks middle <:+ source :=
      ((Grammar.blanks_skipBlanks middle).suffix.trans (Grammar.element_derives hs helement).suffix).trans hs
    rw [hes]
    exact Written.elements_cons (element_lowered hs helement lines)
      (elements_lowered hmiddleSource helements hrest lines)
termination_by (s.length, 1)
decreasing_by
  · exact .right _ (by decide)
  · exact .left _ _ hshorter

end

/-! ### Two sources -/

theorem elements_append_end {s t : List Char} {es es' : List Element}
    {hle : ([] : List Char).length ≤ (skipBlanks s).length}
    (h : elements total (skipBlanks s) = .read es [] hle)
    (ht : ∃ hle, elements (total + Text.lineEnds ('\n' :: t)) (skipBlanks t) = .read es' [] hle) :
    ∃ hle, elements (total + Text.lineEnds ('\n' :: t)) (skipBlanks (s ++ '\n' :: t)) =
      .read (es ++ es') [] hle := by
  obtain ⟨rfl, hdone⟩ | ⟨e, middle, more, hmiddle, hmore, rfl, helement, helements⟩ :=
    Grammar.elements_cases h
  · have hskip : skipBlanks (s ++ '\n' :: t) = skipBlanks t := by
      rw [skipBlanks_append, ← hdone, List.nil_append, Written.skipBlanks_separator (by decide)]
    rw [hskip, List.nil_append]
    exact ht
  · have hne : skipBlanks s ≠ [] := by
      intro hnil
      rw [hnil] at hmiddle
      nomatch hmiddle
    have hshorter : (skipBlanks middle).length < (skipBlanks s).length :=
      Nat.lt_of_le_of_lt (skipBlanks_length middle) hmiddle
    rw [skipBlanks_append_of_complete t ⟨⟨hle, h⟩, .inl rfl⟩ hne, List.cons_append]
    exact Written.elements_cons
      (element_append t helement ⟨⟨hmore, helements⟩, .inl rfl⟩)
      (elements_append_end helements ht)
termination_by (skipBlanks s).length
decreasing_by exact hshorter

/-- Two texts that are read give a text that is read when a line feed is put between them: the elements of
the first, and those of the second as far down as the first reaches. -/
theorem readElements_append (a b : String) (as bs : List Element) (ha : readElements a = .ok as)
    (hb : readElements b = .ok bs) :
    readElements (a ++ "\n" ++ b) = .ok (as ++ bs.map (·.lowered (1 + a.toList.count '\n'))) := by
  obtain ⟨hle, ha⟩ := Grammar.readChars_eq_ok_iff.1 ha
  obtain ⟨hle', hb⟩ := Grammar.readChars_eq_ok_iff.1 hb
  have htotal : Text.lineEnds a.toList + Text.lineEnds ('\n' :: b.toList) =
      Text.lineEnds b.toList + (1 + a.toList.count '\n') := by
    simp only [Text.lineEnds, List.count_cons_self]
    omega
  have hlowered := elements_lowered (Grammar.blanks_skipBlanks b.toList).suffix hb (.inl rfl)
    (1 + a.toList.count '\n')
  rw [← htotal] at hlowered
  have hchars : (a ++ "\n" ++ b).toList = a.toList ++ '\n' :: b.toList := by
    simp
  rw [readElements, hchars, Grammar.readChars_eq_ok_iff, Text.lineEnds_append, ← lowered_eq_map]
  exact elements_append_end ha hlowered

def nestedPair : Written.Document where
  before := []
  inside := .last (.node (.ofString "b") .none
    (.braces [false] [.lineFeed] (.last (.node (.ofString "c") .none .none)) []))
  after := []

/-- A comment that the end of a text ends does not reach into the text put behind it. -/
theorem readElements_append_comment :
    readElements "a // x" = .ok [⟨"a", .empty, [], [], 1⟩] ∧
    readElements "b \x7b\nc\x7d" = .ok [⟨"b", .empty, [], [⟨"c", .empty, [], [], 2⟩], 1⟩] ∧
    readElements ("a // x" ++ "\n" ++ "b \x7b\nc\x7d") =
      .ok [⟨"a", .empty, [], [], 1⟩, ⟨"b", .empty, [], [⟨"c", .empty, [], [], 3⟩], 2⟩] := by
  have ha : readElements "a // x" = .ok [⟨"a", .empty, [], [], 1⟩] := by
    have hblanks : Grammar.Blanks [' ', '/', '/', ' ', 'x'] [] :=
      .separator rfl (@Grammar.Blanks.lineComment [' ', 'x'] _ _ (by decide) .text (.nil []))
    have hargs : ∃ hle, arguments [' ', '/', '/', ' ', 'x'] = .read [] [' ', '/', '/', ' ', 'x'] hle :=
      Written.arguments_none (.gap [false] (.cons rfl (by decide)))
    have helement : ∃ hlt, element 0 ['a', ' ', '/', '/', ' ', 'x'] =
        .found ⟨"a", .empty, [], [], 1⟩ [' ', '/', '/', ' ', 'x'] hlt :=
      Written.element_plain ⟨Nat.lt_succ_self _, rfl⟩ hargs nofun rfl
    have hdone : ∃ hle, elements 0 (skipBlanks [' ', '/', '/', ' ', 'x']) = .read [] [] hle := by
      rw [skipBlanks_of_blanks hblanks, Written.skipBlanks_nil]
      exact Written.elements_done (.inl rfl)
    have hskip : skipBlanks "a // x".toList = ['a', ' ', '/', '/', ' ', 'x'] :=
      Written.skipBlanks_of_not_separator (by decide) (by decide) _
    rw [readElements, Grammar.readChars_eq_ok_iff, hskip]
    exact Written.elements_cons helement hdone
  have hb : readElements "b \x7b\nc\x7d" = .ok [⟨"b", .empty, [], [⟨"c", .empty, [], [], 2⟩], 1⟩] := by
    have htext : String.ofList nestedPair.text = "b \x7b\nc\x7d" := by decide
    rw [← htext, Written.readElements_text nestedPair (by decide)]
    rfl
  refine ⟨ha, hb, ?_⟩
  rw [readElements_append _ _ _ _ ha hb]
  rfl

end Source

end Changelog
