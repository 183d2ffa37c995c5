/-!
# Sets of code points

A set of code points is a list of closed ranges.  Large sets, the tables of the Unicode standard, are
kept as text: hexadecimal ranges apart by blanks, such as `41-5a 61-7a aa`.  Sets whose ranges stand in
order are combined by one walk over them; the main statements say which members the results have.
-/

namespace Changelog.Text

/-- A set of code points as closed ranges `(first, last)`. -/
abbrev CodePoints := List (Nat × Nat)

namespace CodePoints

def contains (ranges : CodePoints) (n : Nat) : Bool :=
  ranges.any fun r => r.1 ≤ n && n ≤ r.2

def count (ranges : CodePoints) : Nat :=
  ranges.foldl (fun n r => n + (r.2 + 1 - r.1)) 0

def single (n : Nat) : CodePoints := [(n, n)]

def full : CodePoints := [(0, 0x10ffff)]

def ascii : CodePoints := [(0, 0x7f)]

def joinFrom (r : Nat × Nat) : CodePoints → CodePoints
  | [] => [r]
  | s :: rest => if s.1 ≤ r.2 + 1 then joinFrom (r.1, max r.2 s.2) rest else r :: joinFrom s rest

/-- Ranges in order, with those that overlap or touch made one. -/
def join : CodePoints → CodePoints
  | [] => []
  | r :: rest => joinFrom r rest

def union (a b : CodePoints) : CodePoints := join (a.merge b fun r s => r.1 ≤ s.1)

def unionAll (sets : List CodePoints) : CodePoints := sets.foldr union []

/-- What ranges in order leave out of the code points from `start` on. -/
def gaps (start : Nat) : CodePoints → CodePoints
  | [] => if start ≤ 0x10ffff then [(start, 0x10ffff)] else []
  | r :: rest =>
    if start < r.1 then (start, r.1 - 1) :: gaps (max start (r.2 + 1)) rest
    else gaps (max start (r.2 + 1)) rest

def complement (a : CodePoints) : CodePoints := gaps 0 a

def inter (a b : CodePoints) : CodePoints := complement (union (complement a) (complement b))

def diff (a b : CodePoints) : CodePoints := complement (union (complement a) b)

def symmDiff (a b : CodePoints) : CodePoints := union (diff a b) (diff b a)

theorem contains_cons (r : Nat × Nat) (rest : CodePoints) (n : Nat) :
    contains (r :: rest) n = (decide (r.1 ≤ n ∧ n ≤ r.2) || contains rest n) := by
  simp [contains]

theorem contains_append (a b : CodePoints) (n : Nat) :
    contains (a ++ b) n = (contains a n || contains b n) := by
  simp [contains]

theorem contains_merge (a b : CodePoints) (before : Nat × Nat → Nat × Nat → Bool) (n : Nat) :
    contains (a.merge b before) n = (contains a n || contains b n) := by
  rw [← contains_append, Bool.eq_iff_iff]
  simp only [contains, List.any_eq_true, List.mem_merge, List.mem_append]

/-- Ranges that hold something, none of which starts before one in front of it. -/
def InOrder (a : CodePoints) : Prop := a.Pairwise (fun r s => r.1 ≤ s.1) ∧ ∀ r ∈ a, r.1 ≤ r.2

theorem InOrder.tail {r : Nat × Nat} {rest : CodePoints} (h : InOrder (r :: rest)) :
    InOrder rest :=
  ⟨(List.pairwise_cons.1 h.1).2, fun s hs => h.2 s (List.mem_cons_of_mem _ hs)⟩

theorem InOrder.merge {a b : CodePoints} (ha : InOrder a) (hb : InOrder b) :
    InOrder (a.merge b fun r s => r.1 ≤ s.1) := by
  refine ⟨?_, fun r hr => ?_⟩
  · let le (r s : Nat × Nat) : Bool := r.1 ≤ s.1
    have trans (x y z : Nat × Nat) (hxy : le x y) (hyz : le y z) : le x z := by
      simp [le] at hxy hyz ⊢; omega
    have total (x y : Nat × Nat) : le x y || le y x := by simp [le]; omega
    have sorted := List.pairwise_merge trans total a b
      (ha.1.imp fun h => by simpa [le] using h) (hb.1.imp fun h => by simpa [le] using h)
    exact sorted.imp fun h => by simpa [le] using h
  · rcases List.mem_merge.1 hr with h | h
    · exact ha.2 r h
    · exact hb.2 r h

theorem contains_joinFrom (r : Nat × Nat) (rest : CodePoints) (n : Nat) (h : InOrder (r :: rest)) :
    contains (joinFrom r rest) n = contains (r :: rest) n := by
  induction rest generalizing r with
  | nil => rfl
  | cons s rest ih =>
    have hr : r.1 ≤ r.2 := h.2 r (by simp)
    have hs : s.1 ≤ s.2 := h.2 s (by simp)
    have hrs : r.1 ≤ s.1 := (List.pairwise_cons.1 h.1).1 s (by simp)
    rw [joinFrom]
    split
    · have joined : InOrder ((r.1, max r.2 s.2) :: rest) := by
        refine ⟨List.pairwise_cons.2 ⟨fun t ht => ?_, h.tail.tail.1⟩, fun t ht => ?_⟩
        · exact (List.pairwise_cons.1 h.1).1 t (List.mem_cons_of_mem _ ht)
        · rcases List.mem_cons.1 ht with rfl | ht
          · simp only; omega
          · exact h.tail.tail.2 t ht
      rw [ih _ joined]
      simp only [contains_cons, ← Bool.or_assoc, ← Bool.decide_or]
      congr 2
      exact propext (by omega)
    · rw [contains_cons, ih s h.tail, contains_cons r]

theorem contains_union {a b : CodePoints} (ha : InOrder a) (hb : InOrder b) (n : Nat) :
    contains (union a b) n = (contains a n || contains b n) := by
  rw [← contains_merge a b (fun r s => r.1 ≤ s.1), union]
  have h := ha.merge hb
  generalize a.merge b _ = m at h
  cases m with
  | nil => rfl
  | cons r rest => exact contains_joinFrom r rest n h

theorem contains_gaps (start : Nat) (a : CodePoints) (n : Nat) (h : InOrder a) (hn : n ≤ 0x10ffff) :
    contains (gaps start a) n = (decide (start ≤ n) && !contains a n) := by
  induction a generalizing start with
  | nil =>
    rw [gaps]
    split
    · simp [contains, hn]
    · have : ¬ start ≤ n := by omega
      simp [contains, this]
  | cons r rest ih =>
    have hr : r.1 ≤ r.2 := h.2 r (by simp)
    rw [gaps]
    split
    · rw [contains_cons, ih _ h.tail, contains_cons]
      have later : contains rest n = true → r.1 ≤ n := by
        intro hin
        obtain ⟨s, hs, hsn⟩ := List.any_eq_true.1 hin
        have := (List.pairwise_cons.1 h.1).1 s hs
        simp at hsn
        omega
      cases hc : contains rest n
      · rw [Bool.eq_iff_iff]
        simp
        omega
      · have := later hc
        simp
        omega
    · rw [ih _ h.tail, contains_cons]
      cases contains rest n
      · rw [Bool.eq_iff_iff]
        simp
        omega
      · simp

theorem contains_complement {a : CodePoints} (h : InOrder a) {n : Nat} (hn : n ≤ 0x10ffff) :
    contains (complement a) n = !contains a n := by
  simp [complement, contains_gaps 0 a n h hn]

end CodePoints

def hexDigit? (c : Char) : Option Nat :=
  if '0' ≤ c ∧ c ≤ '9' then some (c.toNat - 48)
  else if 'a' ≤ c ∧ c ≤ 'f' then some (c.toNat - 87)
  else if 'A' ≤ c ∧ c ≤ 'F' then some (c.toNat - 55)
  else none

/-- The number that hexadecimal digits write; other characters are passed over. -/
def hexValue (digits : List Char) : Nat :=
  (digits.filterMap hexDigit?).foldl (fun n d => 16 * n + d) 0

/-- The range that `first-last` or a single code point writes. -/
def rangeOfText (word : List Char) : Nat × Nat :=
  let first := word.takeWhile (· ≠ '-')
  match word.dropWhile (· ≠ '-') with
  | [] => (hexValue first, hexValue first)
  | _ :: last => (hexValue first, hexValue last)

def CodePoints.ofText (text : String) : CodePoints :=
  ((text.toList.splitOnP (fun c => c == ' ' || c == '\n')).filter (!·.isEmpty)).map rangeOfText

example : CodePoints.ofText "41-5a aa\n b5" = [(0x41, 0x5a), (0xaa, 0xaa), (0xb5, 0xb5)] := by
  decide +kernel

end Changelog.Text
