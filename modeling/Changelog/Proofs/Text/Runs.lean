import Mathlib.Data.List.Basic

namespace Changelog.Text

theorem forall_mem_of_all {p : Char → Prop} [DecidablePred p] {s : List Char}
    (h : s.all (fun c => decide (p c)) = true) : ∀ c ∈ s, p c := by
  simpa using h

theorem takeWhile_append_of_head {p : Char → Bool} {body rest : List Char}
    (hbody : ∀ c ∈ body, p c = true) (hrest : ∀ c, rest.head? = some c → p c = false) :
    (body ++ rest).takeWhile p = body ∧ (body ++ rest).dropWhile p = rest := by
  rw [List.takeWhile_append_of_pos hbody, List.dropWhile_append_of_pos hbody]
  cases rest with
  | nil => simp
  | cons c more => simp [hrest c rfl]

/-- Two runs of one class that begin the same text are the same. -/
theorem run_append_inj {p : Char → Bool} {a b r r' : List Char} (ha : ∀ c ∈ a, p c = true)
    (hb : ∀ c ∈ b, p c = true) (hr : ∀ c, r.head? = some c → p c = false)
    (hr' : ∀ c, r'.head? = some c → p c = false) (h : a ++ r = b ++ r') : a = b ∧ r = r' := by
  obtain ⟨htake, hdrop⟩ := takeWhile_append_of_head ha hr
  obtain ⟨htake', hdrop'⟩ := takeWhile_append_of_head hb hr'
  exact ⟨by rw [← htake, h, htake'], by rw [← hdrop, h, hdrop']⟩

theorem not_of_mem_splitOnP {p : Char → Bool} {s piece : List Char} (h : piece ∈ s.splitOnP p) :
    ∀ c ∈ piece, p c = false := by
  induction s generalizing piece with
  | nil =>
    obtain rfl : piece = [] := List.mem_singleton.1 h
    nofun
  | cons c s ih =>
    rw [List.splitOnP_cons_eq_if_modifyHead] at h
    split at h
    · rcases List.mem_cons.1 h with rfl | h
      · nofun
      · exact ih h
    · next hc =>
      cases hpieces : s.splitOnP p with
      | nil => exact absurd hpieces (List.splitOnP_ne_nil _ _)
      | cons first others =>
        rw [hpieces] at h ih
        rcases List.mem_cons.1 h with rfl | h
        · exact List.forall_mem_cons.2 ⟨Bool.eq_false_iff.2 hc, ih (List.mem_cons_self ..)⟩
        · exact ih (List.mem_cons_of_mem _ h)

theorem not_mem_intercalate {c : Char} {between : List Char} {texts : List (List Char)}
    (hbetween : c ∉ between) (htexts : ∀ text ∈ texts, c ∉ text) : c ∉ between.intercalate texts := by
  induction texts with
  | nil => exact List.not_mem_nil
  | cons text rest ih =>
    obtain ⟨htext, hrest⟩ := List.forall_mem_cons.1 htexts
    cases rest with
    | nil => rwa [List.intercalate_singleton]
    | cons next others =>
      rw [List.intercalate_cons_cons, List.mem_append, List.mem_append, not_or, not_or]
      exact ⟨⟨htext, hbetween⟩, ih hrest⟩

theorem not_mem_toDigits {c : Char} (h : c.isDigit = false) (n : Nat) : c ∉ Nat.toDigits 10 n := by
  intro hmem
  have hdigit : c.isDigit = true := Nat.isDigit_of_mem_toDigits (by decide) (by decide) hmem
  exact Bool.false_ne_true (h.symm.trans hdigit)

theorem not_mem_repr {c : Char} (h : c.isDigit = false) (n : Nat) : c ∉ n.repr.toList := by
  rw [Nat.repr_eq_ofList_toDigits, String.toList_ofList]
  exact not_mem_toDigits h n

end Changelog.Text
