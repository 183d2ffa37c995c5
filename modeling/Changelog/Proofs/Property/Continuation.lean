import Changelog.Proofs.Property.Written

/-!
# Broken lines

A line of a property file can be broken in two: a backslash ends the first part, and the second part
stands in the next line after a gap.  The logical lines stay as they are, and so do the entries.
-/

namespace Changelog.PropertyFile

open Text (lineBefore lineAfter lines)

theorem trailing_append_backslash (s : List Char) : trailing (s ++ ['\\']) = trailing s + 1 := by
  simp [trailing]

/-- Backslashes at the end of `s` count only where none but backslashes follow them. -/
theorem trailing_append (s t : List Char) :
    trailing (s ++ t) = trailing t ∨ trailing (s ++ t) = trailing s + trailing t := by
  induction t using List.reverseRecOn with
  | nil => exact Or.inr (congrArg trailing (List.append_nil s))
  | append_singleton t c ih =>
    rw [← List.append_assoc]
    by_cases hc : c = '\\'
    · rw [hc, trailing_append_backslash, trailing_append_backslash]
      omega
    · rw [trailing_append_singleton hc, trailing_append_singleton hc]
      exact Or.inl rfl

theorem trailing_append_of_zero {s : List Char} (h : trailing s = 0) (t : List Char) :
    trailing (s ++ t) = trailing t := by
  have hsplit := trailing_append s t
  omega

theorem trailing_of_not_mem {s : List Char} (h : '\\' ∉ s) : trailing s = 0 := by
  rcases List.eq_nil_or_concat s with rfl | ⟨init, c, rfl⟩
  · rfl
  · rw [List.concat_eq_append] at h ⊢
    have hc : c ≠ '\\' := fun heq => h (by simp [heq])
    exact trailing_append_singleton hc init

theorem trailing_lineBefore (s : List Char) : trailing (lineBefore s) = trailing s := by
  have hsplit : s.rdropWhile (· != '\n') ++ lineBefore s = s := List.rdropWhile_append_rtakeWhile
  have habove : trailing (s.rdropWhile (· != '\n')) = 0 := by
    rcases List.eq_nil_or_concat (s.rdropWhile (· != '\n')) with hnil | ⟨init, c, hinit⟩
    · rw [hnil]
      rfl
    · have hsome : s.rdropWhile (· != '\n') ≠ [] := by simp [hinit]
      have hlast := List.rdropWhile_last_not (· != '\n') s hsome
      have hc : c = '\n' := by simpa [hinit] using hlast
      rw [hinit, List.concat_eq_append, hc, trailing_append_singleton (by decide)]
  have hrest := trailing_append_of_zero habove (lineBefore s)
  rw [hsplit] at hrest
  exact hrest.symm

theorem trailing_trimStart (s : List Char) : trailing (Text.trimStart s) = trailing s := by
  have hsplit : s.takeWhile Text.isBlank ++ Text.trimStart s = s := List.takeWhile_append_dropWhile
  have hfree : '\\' ∉ s.takeWhile Text.isBlank := fun hc => absurd (List.mem_takeWhile_imp hc) (by decide)
  have hrest := trailing_append_of_zero (trailing_of_not_mem hfree) (Text.trimStart s)
  rw [hsplit] at hrest
  exact hrest.symm

theorem continued?_append {own : List Char} (heven : trailing own % 2 = 0) (rest : List Char) :
    continued? (own ++ rest) = (continued? rest).map (own ++ ·) := by
  have hparity : trailing (own ++ rest) % 2 = trailing rest % 2 := by
    have hsplit := trailing_append own rest
    omega
  show (if trailing (own ++ rest) % 2 = 1 then some (own ++ rest).dropLast else none) =
    (if trailing rest % 2 = 1 then some rest.dropLast else none).map (own ++ ·)
  rw [hparity]
  split
  · next hodd =>
    have hsome : rest ≠ [] := by
      rintro rfl
      exact absurd hodd (by decide)
    rw [List.dropLast_append_of_ne_nil hsome, Option.map_some]
  · rfl

theorem continued?_break {own : List Char} (heven : trailing own % 2 = 0) :
    continued? (own ++ ['\\']) = some own := by
  rw [continued?_append heven]
  exact congrArg some (List.append_nil own)

theorem readLines_cons_of_trimStart {raw raw' : List Char} (h : Text.trimStart raw = Text.trimStart raw')
    (entries : List (String × String)) (pending : List Char) (rest : List (List Char)) :
    readLines entries pending (raw :: rest) = readLines entries pending (raw' :: rest) := by
  rw [readLines, readLines, h]

theorem readLines_append {xs ys : List (List Char)}
    (h : ∀ entries pending, readLines entries pending xs = readLines entries pending ys)
    (above : List (List Char)) (entries : List (String × String)) (pending : List Char) :
    readLines entries pending (above ++ xs) = readLines entries pending (above ++ ys) := by
  induction above generalizing entries pending with
  | nil => exact h entries pending
  | cons raw above ih =>
    rw [List.cons_append, List.cons_append, readLines, readLines]
    split
    · exact ih entries []
    · split
      · exact ih entries _
      · exact ih _ []

theorem readLines_empty (entries : List (String × String)) (pending : List Char) :
    readLines entries pending [[]] = readLines entries pending [] := by
  by_cases h : pending = []
  · subst h
    rfl
  · have hidle : ¬(pending = [] ∧ isIdle (Text.trimStart []) = true) := fun hand => h hand.1
    have hline : readLines entries pending [[]] = put entries (entryOf (pending ++ [])) := by
      rw [readLines, if_neg hidle]
      rfl
    rw [hline, readLines, if_neg h, List.append_nil]

theorem readLines_last {last : List Char} (h : '\n' ∉ last) (entries : List (String × String))
    (pending : List Char) : readLines entries pending (lines last) = readLines entries pending [last] := by
  rw [Text.lines_of_not_mem h]
  split
  · next hnil =>
    rw [hnil]
    exact (readLines_empty entries pending).symm
  · rfl

theorem isIdle_append {own : List Char} (hsome : own ≠ [])
    (h : ∀ c, own.head? = some c → c ≠ '#' ∧ c ≠ '!') (rest : List Char) :
    isIdle (own ++ rest) = false := by
  obtain ⟨c, others, rfl⟩ := List.exists_cons_of_ne_nil hsome
  obtain ⟨hhash, hbang⟩ := h c rfl
  simp [isIdle, hhash, hbang]

/-! ### A line and its two parts -/

section Break

variable {own rest gap : List Char} (hnext : ∀ c, rest.head? = some c → Text.isBlank c = false)
  (hgap : ∀ c ∈ gap, Text.isBlank c = true) (below : List (List Char)) (entries : List (String × String))
  (pending : List Char)

include hnext hgap

theorem trimStart_gap : Text.trimStart (gap ++ rest) = rest := by
  rw [Text.trimStart_append hgap, Text.trimStart_of_head hnext]

/-- Where the first part is blank, the second one is read as the whole line is. -/
theorem readLines_break_of_blank (hblank : ∀ c ∈ own, Text.isBlank c = true) :
    readLines entries pending ((own ++ ['\\']) :: (gap ++ rest) :: below) =
      readLines entries pending ((own ++ rest) :: below) := by
  have hfirst : Text.trimStart (own ++ ['\\']) = ['\\'] := Text.trimStart_append hblank _
  have hwhole : Text.trimStart (gap ++ rest) = Text.trimStart (own ++ rest) := by
    rw [trimStart_gap hnext hgap, Text.trimStart_append hblank, Text.trimStart_of_head hnext]
  have hidle : ¬(pending = [] ∧ isIdle ['\\'] = true) := fun hand => absurd hand.2 (by decide)
  have hgoesOn : continued? ['\\'] = some [] := by decide
  rw [readLines, hfirst, if_neg hidle, hgoesOn]
  dsimp only
  rw [List.append_nil]
  exact readLines_cons_of_trimStart hwhole entries pending below

theorem readLines_break_of_begun (heven : trailing own % 2 = 0) (hown : Text.trimStart own ≠ [])
    (hentry : ∀ c, (Text.trimStart own).head? = some c → c ≠ '#' ∧ c ≠ '!') :
    readLines entries pending ((own ++ ['\\']) :: (gap ++ rest) :: below) =
      readLines entries pending ((own ++ rest) :: below) := by
  have hsplit : ∀ more, Text.trimStart (own ++ more) = Text.trimStart own ++ more :=
    Text.trimStart_append_of_ne_nil hown
  have hidle : ∀ more, ¬(pending = [] ∧ isIdle (Text.trimStart own ++ more) = true) := by
    intro more hand
    rw [isIdle_append hown hentry] at hand
    exact absurd hand.2 Bool.false_ne_true
  have hpending : ¬(pending ++ Text.trimStart own = [] ∧ isIdle rest = true) :=
    fun hand => hown (List.append_eq_nil_iff.1 hand.1).2
  have heven' : trailing (Text.trimStart own) % 2 = 0 := by
    rw [trailing_trimStart]
    exact heven
  have hfirst : readLines entries pending ((own ++ ['\\']) :: (gap ++ rest) :: below) =
      readLines entries (pending ++ Text.trimStart own) ((gap ++ rest) :: below) := by
    rw [readLines, hsplit, if_neg (hidle _), continued?_break heven']
  -- From here on the pending line is no longer empty, and what is open after `rest` is open after both.
  rw [hfirst, readLines, trimStart_gap hnext hgap, if_neg hpending, readLines, hsplit, if_neg (hidle _),
    continued?_append heven']
  cases continued? rest with
  | none =>
    show readLines (put entries (entryOf ((pending ++ Text.trimStart own) ++ rest))) [] below = _
    rw [List.append_assoc]
    rfl
  | some head =>
    show readLines entries ((pending ++ Text.trimStart own) ++ head) below = _
    rw [List.append_assoc]
    rfl

/-- Broken before something that is not white space, a line does what it did as a whole, whatever logical
line it goes on or begins. -/
theorem readLines_break (heven : trailing own % 2 = 0)
    (hentry : ∀ c, (Text.trimStart (own ++ rest)).head? = some c → c ≠ '#' ∧ c ≠ '!') :
    readLines entries pending ((own ++ ['\\']) :: (gap ++ rest) :: below) =
      readLines entries pending ((own ++ rest) :: below) := by
  by_cases hown : Text.trimStart own = []
  · exact readLines_break_of_blank hnext hgap below entries pending (List.dropWhile_eq_nil_iff.1 hown)
  · refine readLines_break_of_begun hnext hgap below entries pending heven hown fun c hc => hentry c ?_
    rw [Text.trimStart_append_of_ne_nil hown, List.head?_append, hc]
    rfl

end Break

/-- A backslash, a line feed and a gap can be put in at any point of a line that is no comment, if the
backslashes before it are even in number and if no white space follows on the line: the entries are the
same.  It does not matter whether an entry goes on at that point, begins or ends there, or whether an
escape is cut in two. -/
theorem read_broken {s t gap : List Char} (hwithin : s.getLast? = some '\r' → t.head? ≠ some '\n')
    (hentry : ∀ c, (Text.trimStart (lineBefore s ++ lineAfter t)).head? = some c → c ≠ '#' ∧ c ≠ '!')
    (heven : trailing s % 2 = 0) (hnext : ∀ c, (lineAfter t).head? = some c → Text.isBlank c = false)
    (hgap : ∀ c ∈ gap, isGap c = true) :
    read (String.ofList (s ++ '\\' :: '\n' :: (gap ++ t))) = read (String.ofList (s ++ t)) := by
  obtain ⟨above, habove⟩ := Text.lines_from_lineBefore s
  have hown := Text.not_mem_lineBefore s
  have hblank : ∀ c ∈ gap, Text.isBlank c = true := fun c hc => isBlank_of_isGap (hgap c hc)
  have hfeed : '\n' ∉ gap := fun hc => (oneLine_of_isGap (hgap _ hc)).1 rfl
  have hbreak := fun below entries pending =>
    readLines_break hnext hblank below entries pending (trailing_lineBefore s ▸ heven) hentry
  have hfirst : lines (lineBefore s ++ '\\' :: '\n' :: (gap ++ t)) =
      (lineBefore s ++ ['\\']) :: lines (gap ++ t) := by
    have hsplit : lineBefore s ++ '\\' :: '\n' :: (gap ++ t) =
        (lineBefore s ++ ['\\']) ++ '\n' :: (gap ++ t) := by simp
    have hpiece : '\n' ∉ lineBefore s ++ ['\\'] := by simpa using hown
    have hstrip : Text.stripReturn (lineBefore s ++ ['\\']) = lineBefore s ++ ['\\'] := by
      simp [Text.stripReturn]
    rw [hsplit, Text.lines_append_cons hpiece, hstrip]
  rw [read, read, String.toList_ofList, String.toList_ofList, habove, habove, hfirst]
  refine readLines_append (fun entries pending => ?_) above [] []
  -- The line that is broken may be the last one, or end somewhere in `t`.
  rcases Text.lines_to_lineAfter t with ⟨hself, hlast⟩ | ⟨below, hbelow⟩
  · rw [hself] at hbreak
    have hwhole : '\n' ∉ lineBefore s ++ t := by simp [hown, hlast]
    have hsecond : '\n' ∉ gap ++ t := by simp [hfeed, hlast]
    refine (readLines_append (readLines_last hsecond) [lineBefore s ++ ['\\']] entries pending).trans ?_
    rw [readLines_last hwhole]
    exact hbreak [] entries pending
  · have hreturn : gap.getLast? = some '\r' → t.head? ≠ some '\n' := fun hlast =>
      absurd rfl (oneLine_of_isGap (hgap _ (List.mem_of_getLast? hlast))).2
    have hreturn' : (lineBefore s).getLast? = some '\r' → t.head? ≠ some '\n' := by
      intro hlast
      obtain ⟨above, hsuffix⟩ : lineBefore s <:+ s := List.rtakeWhile_suffix _ _
      refine hwithin ?_
      rw [← hsuffix, List.getLast?_append, hlast]
      rfl
    rw [hbelow gap hfeed hreturn, hbelow (lineBefore s) hown hreturn']
    exact hbreak below entries pending

theorem read_broken_inEscape :
    read "# names\na = x\\\n  caf\\u00\\\n\t e9 \\\\\r\nb:2" = [("a", "xcafé \\"), ("b", "2")] ∧
    read "# names\na = x\\\n  caf\\u00e9 \\\\\r\nb:2" = [("a", "xcafé \\"), ("b", "2")] := by
  have hplain : read "# names\na = x\\\n  caf\\u00e9 \\\\\r\nb:2" = [("a", "xcafé \\"), ("b", "2")] := by
    with_unfolding_all decide
  let s := "# names\na = x\\\n  caf\\u00".toList
  let t := "e9 \\\\\r\nb:2".toList
  have hentry : ∀ c, (Text.trimStart (lineBefore s ++ lineAfter t)).head? = some c →
      c ≠ '#' ∧ c ≠ '!' := by
    intro c hc
    obtain rfl : 'c' = c := Option.some.inj hc
    decide
  have hnext : ∀ c, (lineAfter t).head? = some c → Text.isBlank c = false := by
    intro c hc
    obtain rfl : 'e' = c := Option.some.inj hc
    decide
  have hgap : ∀ c ∈ ['\t', ' '], isGap c = true := by simp [isGap]
  have hbroken := read_broken (s := s) (t := t) (by decide) hentry (by decide) hnext hgap
  exact ⟨hbroken.trans hplain, hplain⟩

end Changelog.PropertyFile
