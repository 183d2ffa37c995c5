import Changelog.Proofs.Source.Written
import Changelog.Proofs.Text.Runs

namespace Changelog.Written

open Changelog.Source

theorem atLineEnd?_inside (inside rest : List Char)
    (oneLine : '\n' ∉ inside ∧ '\r' ∉ inside) :
    atLineEnd? (inside ++ '\n' :: rest) = some ('\n' :: rest) := by
  have hdrop : (inside ++ '\n' :: rest).dropWhile (fun c => c != '\n' && c != '\r') =
      '\n' :: rest := by
    rw [List.dropWhile_append_of_pos]
    · simp
    · intro c hc
      have hfeed : c ≠ '\n' := ne_of_mem_of_not_mem hc oneLine.1
      have hreturn : c ≠ '\r' := ne_of_mem_of_not_mem hc oneLine.2
      simp [hfeed, hreturn]
  simp only [atLineEnd?, hdrop]

theorem afterCommentEnd?_inside (inside rest : List Char) (hopen : ¬['*', '/'] <:+: inside) :
    afterCommentEnd? (inside ++ '*' :: '/' :: rest) = some rest := by
  induction inside with
  | nil => simp [afterCommentEnd?]
  | cons c inside ih =>
    have htail : ¬['*', '/'] <:+: inside := fun h => hopen (List.infix_cons h)
    have hne : ∀ after, (c :: inside) ++ '*' :: '/' :: rest ≠ '*' :: '/' :: after := by
      intro after heq
      cases inside with
      | nil =>
        simp at heq
      | cons d more =>
        simp only [List.cons_append, List.cons.injEq] at heq
        obtain ⟨rfl, rfl, -⟩ := heq
        exact hopen ⟨[], more, rfl⟩
    rw [List.cons_append, afterCommentEnd?]
    · exact ih htail
    · intro after hc hr
      exact hne after (by rw [List.cons_append, hc, hr])

theorem skipBlanks_separator {c : Char} (h : isSeparator c = true) (rest : List Char) :
    skipBlanks (c :: rest) = skipBlanks rest := by
  have hslash : c ≠ '/' := by
    rintro rfl
    revert h
    decide
  rw [skipBlanks]
  · rw [if_pos h]
  · intro r hc
    exact absurd hc hslash
  · intro r hc
    exact absurd hc hslash

theorem skipBlanks_of_not_separator {c : Char} (h : isSeparator c = false) (hslash : c ≠ '/')
    (rest : List Char) : skipBlanks (c :: rest) = c :: rest := by
  rw [skipBlanks]
  · rw [if_neg (by simp [h])]
  · intro r hc
    exact absurd hc hslash
  · intro r hc
    exact absurd hc hslash

theorem skipBlanks_nil : skipBlanks [] = [] := by
  rw [skipBlanks]

theorem skipBlanks_blank (b : Blank) (rest : List Char) :
    skipBlanks (b.text ++ rest) = skipBlanks rest := by
  cases b with
  | lineComment inside oneLine =>
    have hend := atLineEnd?_inside inside rest oneLine
    simp only [Blank.text, List.cons_append, List.append_assoc, List.nil_append]
    rw [skipBlanks, hend]
    exact skipBlanks_separator (by decide) rest
  | blockComment inside hopen =>
    have hend := afterCommentEnd?_inside inside rest hopen
    simp only [Blank.text, List.cons_append, List.append_assoc, List.nil_append]
    rw [skipBlanks, hend]
  | space => exact skipBlanks_separator (by decide) rest
  | tab => exact skipBlanks_separator (by decide) rest
  | lineFeed => exact skipBlanks_separator (by decide) rest
  | carriageReturn => exact skipBlanks_separator (by decide) rest
  | semicolon => exact skipBlanks_separator (by decide) rest

theorem skipBlanks_filler (f : Filler) (rest : List Char) :
    skipBlanks (f.text ++ rest) = skipBlanks rest := by
  induction f with
  | nil => rfl
  | cons b f ih =>
    show skipBlanks ((b.text ++ Filler.text f) ++ rest) = skipBlanks rest
    rw [List.append_assoc, skipBlanks_blank, ih]

theorem skipSpaces_gap (g : Gap) (rest : List Char) :
    skipSpaces (g.text ++ rest) = skipSpaces rest := by
  unfold skipSpaces
  rw [List.dropWhile_append_of_pos]
  intro c hc
  obtain ⟨tab, -, rfl⟩ := List.mem_map.1 hc
  cases tab <;> decide

theorem skipSpaces_of_not_space {c : Char} (h : isSpace c = false) (rest : List Char) :
    skipSpaces (c :: rest) = c :: rest := by
  simp [skipSpaces, h]

/-- Past spaces and tabs the text goes on with one of the given characters, or not at all. -/
def Next (allowed rest : List Char) : Prop := ∀ c, (skipSpaces rest).head? = some c → c ∈ allowed

def fillerStarts : List Char := ['\n', '\r', ';', '/']

/-- What may come after an element without a block. -/
def elementEnds : List Char := '\x7d' :: fillerStarts

def literalEnds : List Char := ',' :: ')' :: ']' :: '\x7b' :: elementEnds

namespace Next

variable {allowed rest : List Char}

theorem mono {other : List Char} (h : Next allowed rest) (hsub : allowed ⊆ other) :
    Next other rest :=
  fun c hc => hsub (h c hc)

theorem nil : Next allowed [] := by
  intro c hc
  simp [skipSpaces] at hc

theorem cons {c : Char} (hspace : isSpace c = false) (hc : c ∈ allowed) :
    Next allowed (c :: rest) := by
  intro d hd
  rw [skipSpaces_of_not_space hspace] at hd
  simp only [List.head?_cons, Option.some.injEq] at hd
  exact hd ▸ hc

theorem gap (g : Gap) (h : Next allowed rest) : Next allowed (g.text ++ rest) := by
  intro c hc
  rw [skipSpaces_gap] at hc
  exact h c hc

theorem filler (f : Filler) (hsub : fillerStarts ⊆ allowed) (h : Next allowed rest) :
    Next allowed (f.text ++ rest) := by
  induction f with
  | nil => exact h
  | cons b f ih =>
    have happend : Filler.text (b :: f) ++ rest = b.text ++ (Filler.text f ++ rest) := by
      show (b.text ++ Filler.text f) ++ rest = _
      rw [List.append_assoc]
    rw [happend]
    cases b with
    | space => exact gap [false] ih
    | tab => exact gap [true] ih
    | lineFeed => exact cons (by decide) (hsub (by decide))
    | carriageReturn => exact cons (by decide) (hsub (by decide))
    | semicolon => exact cons (by decide) (hsub (by decide))
    | lineComment inside oneLine => exact cons (by decide) (hsub (by decide))
    | blockComment inside hopen => exact cons (by decide) (hsub (by decide))

theorem separator (s : Separator) (rest : List Char) : Next elementEnds (s.filler.text ++ rest) := by
  obtain ⟨newLine, more⟩ := s
  cases newLine
  · exact cons (by decide) (by decide)
  · exact cons (by decide) (by decide)

theorem head {c : Char} (h : Next allowed rest) (hc : rest.head? = some c) :
    c ∈ ' ' :: '\t' :: allowed := by
  cases rest with
  | nil => simp at hc
  | cons d more =>
    simp only [List.head?_cons, Option.some.injEq] at hc
    subst hc
    by_cases hs : isSpace d = true
    · have : d = ' ' ∨ d = '\t' := by simpa [isSpace] using hs
      rcases this with rfl | rfl <;> simp
    · have hd := h d (by rw [skipSpaces_of_not_space (by simpa using hs)]; rfl)
      exact List.mem_cons_of_mem _ (List.mem_cons_of_mem _ hd)

theorem skipSpaces_ne {c : Char} (h : Next allowed rest) (hc : c ∉ allowed) (after : List Char) :
    skipSpaces rest ≠ c :: after := by
  intro heq
  exact hc (h c (by rw [heq]; rfl))

end Next

theorem nameGoesOn_of_next {rest : List Char} (h : Next literalEnds rest) :
    nameGoesOn rest = false := by
  have hall : ∀ c ∈ ' ' :: '\t' :: literalEnds, isNameChar c = false :=
    Text.forall_mem_of_all (by decide)
  cases rest with
  | nil => rfl
  | cons c more => exact hall c (h.head rfl)

end Changelog.Written
