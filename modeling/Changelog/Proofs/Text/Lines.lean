import Changelog.Text.Blank
import Changelog.Text.Lines
import Changelog.Proofs.Text.Runs
import Mathlib.Data.List.DropRight

/-!
# Lines of a text

A line with a line feed after it is the first line of a text.  What is blank at the start of a line, or
a carriage return at its end, goes before a line is looked at.  Every point of a text stands on a line,
between what is before it and what is after it there.
-/

namespace Changelog.Text

theorem lines_append_cons {piece : List Char} (h : '\n' ∉ piece) (rest : List Char) :
    lines (piece ++ '\n' :: rest) = stripReturn piece :: lines rest := by
  rw [lines, lines, List.splitOn_append_cons_self_of_not_mem h]
  cases hrest : rest.splitOn '\n' with
  | nil => exact absurd hrest (List.splitOn_ne_nil _ _)
  | cons first others => rw [linesOfPieces] <;> simp

theorem lines_of_not_mem {s : List Char} (h : '\n' ∉ s) : lines s = if s = [] then [] else [s] := by
  rw [lines, List.splitOn_eq_singleton h]
  cases s <;> simp [linesOfPieces]

theorem stripReturn_append (line : List Char) : stripReturn (line ++ ['\r']) = line := by
  rw [stripReturn, if_pos (by simp), List.dropLast_concat]

theorem stripReturn_of_not_mem {line : List Char} (h : '\r' ∉ line) : stripReturn line = line :=
  if_neg fun hlast => h (List.mem_of_getLast? hlast)

/-- What stands on its line before the end of a text. -/
def lineBefore (s : List Char) : List Char := s.rtakeWhile (· != '\n')

def lineAfter : List Char → List Char
  | [] => []
  | '\n' :: _ => []
  | '\r' :: '\n' :: _ => []
  | c :: rest => c :: lineAfter rest

theorem not_mem_lineBefore (s : List Char) : '\n' ∉ lineBefore s := by
  intro hmem
  have hfeed := List.mem_rtakeWhile_imp hmem
  simp at hfeed

theorem lineBefore_of_not_mem {s : List Char} (h : '\n' ∉ s) : lineBefore s = s := by
  refine List.rtakeWhile_eq_self_iff.2 fun c hc => ?_
  have hne : c ≠ '\n' := fun heq => h (heq ▸ hc)
  simpa using hne

theorem lineBefore_append_cons (piece s : List Char) :
    lineBefore (piece ++ '\n' :: s) = lineBefore s := by
  induction s using List.reverseRecOn with
  | nil => simp [lineBefore]
  | append_singleton s c ih =>
    have hsplit : piece ++ '\n' :: (s ++ [c]) = (piece ++ '\n' :: s) ++ [c] := by simp
    unfold lineBefore at ih ⊢
    rw [hsplit, List.rtakeWhile_concat, List.rtakeWhile_concat, ih]

theorem lines_from_lineBefore (s : List Char) :
    ∃ above, ∀ rest, lines (s ++ rest) = above ++ lines (lineBefore s ++ rest) := by
  by_cases h : '\n' ∈ s
  · obtain ⟨piece, later, hsplit, hpiece⟩ := List.eq_append_cons_of_mem h
    have hshorter : later.length < s.length := by
      rw [hsplit, List.length_append, List.length_cons]
      omega
    obtain ⟨above, habove⟩ := lines_from_lineBefore later
    refine ⟨stripReturn piece :: above, fun rest => ?_⟩
    rw [hsplit, lineBefore_append_cons, List.append_assoc, List.cons_append, lines_append_cons hpiece,
      habove, List.cons_append]
  · exact ⟨[], fun rest => by rw [lineBefore_of_not_mem h, List.nil_append]⟩
termination_by s.length

/-- A text is one line, or whatever is put before it on its first line belongs to that line and to no
other.  A carriage return at the end of what is put before must not come to stand before a line feed. -/
theorem lines_to_lineAfter (t : List Char) :
    (lineAfter t = t ∧ '\n' ∉ t) ∨
      ∃ below, ∀ own, '\n' ∉ own → (own.getLast? = some '\r' → t.head? ≠ some '\n') →
        lines (own ++ t) = (own ++ lineAfter t) :: below := by
  fun_induction lineAfter t with
  | case1 => exact Or.inl ⟨rfl, List.not_mem_nil⟩
  | case2 rest =>
    refine Or.inr ⟨lines rest, fun own hown hreturn => ?_⟩
    have hstrip : stripReturn own = own := if_neg fun hlast => hreturn hlast rfl
    rw [lines_append_cons hown, hstrip, List.append_nil]
  | case3 rest =>
    refine Or.inr ⟨lines rest, fun own hown _ => ?_⟩
    have hsplit : own ++ '\r' :: '\n' :: rest = (own ++ ['\r']) ++ '\n' :: rest := by simp
    have hpiece : '\n' ∉ own ++ ['\r'] := by simpa using hown
    rw [hsplit, lines_append_cons hpiece, stripReturn_append, List.append_nil]
  | case4 c rest hfeed hreturnFeed ih =>
    have hc : c ≠ '\n' := fun heq => hfeed heq
    rcases ih with ⟨hself, hnot⟩ | ⟨below, hbelow⟩
    · refine Or.inl ⟨by rw [hself], ?_⟩
      simpa [Ne.symm hc] using hnot
    -- The character goes over to what is put before, where it is no return in front of a line feed.
    · refine Or.inr ⟨below, fun own hown _ => ?_⟩
      have hsplit : ∀ more, own ++ c :: more = (own ++ [c]) ++ more := fun more => by simp
      have hpiece : '\n' ∉ own ++ [c] := by simpa [Ne.symm hc] using hown
      have hlast : (own ++ [c]).getLast? = some '\r' → rest.head? ≠ some '\n' := by
        intro hlast hhead
        obtain ⟨more, rfl⟩ := List.head?_eq_some_iff.1 hhead
        simp only [List.getLast?_append, List.getLast?_singleton, Option.some_or, Option.some.injEq]
          at hlast
        exact hreturnFeed more hlast rfl
      rw [hsplit rest, hbelow _ hpiece hlast, hsplit (lineAfter rest)]

theorem trimStart_append {gap : List Char} (h : ∀ c ∈ gap, isBlank c = true) (rest : List Char) :
    trimStart (gap ++ rest) = trimStart rest :=
  List.dropWhile_append_of_pos h

theorem trimStart_append_of_ne_nil {s : List Char} (h : trimStart s ≠ []) (rest : List Char) :
    trimStart (s ++ rest) = trimStart s ++ rest :=
  List.dropWhile_append.trans (if_neg fun hempty => h (List.isEmpty_iff.1 hempty))

theorem trimStart_of_head {s : List Char} (h : ∀ c, s.head? = some c → isBlank c = false) :
    trimStart s = s := by
  cases s with
  | nil => rfl
  | cons c rest => exact List.dropWhile_cons_of_neg (by simp [h c rfl])

end Changelog.Text
