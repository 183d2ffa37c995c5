import Changelog.Property.File
import Mathlib.Data.List.Basic

/-!
# Spelled keys and values

Every character of a key or a value can be spelled in several ways: as it stands, after a backslash, by
a letter after a backslash, or by the UTF-16 units it has.  Whatever spelling is taken, reading it gives
the character.
-/

namespace Changelog.PropertyFile

def units (c : Char) : List Nat :=
  if c.toNat < 0x10000 then [c.toNat]
  else [0xD800 + (c.toNat - 0x10000) / 0x400, 0xDC00 + (c.toNat - 0x10000) % 0x400]

theorem toNat_bounds (c : Char) : c.toNat < 0xD800 ∨ (0xDFFF < c.toNat ∧ c.toNat < 0x110000) := c.valid

theorem decodeUnits_single {u : Nat} (hhigh : isHighUnit u = false) (hlow : isLowUnit u = false)
    (rest : List Nat) : decodeUnits (u :: rest) = Char.ofNat u :: decodeUnits rest := by
  cases rest with
  | nil => simp [decodeUnits, hhigh, hlow]
  | cons v rest => simp [decodeUnits, hhigh, hlow]

theorem decodeUnits_pair {u v : Nat} (hhigh : isHighUnit u = true) (hlow : isLowUnit v = true)
    (rest : List Nat) : decodeUnits (u :: v :: rest) =
      Char.ofNat (0x10000 + (u - 0xD800) * 0x400 + (v - 0xDC00)) :: decodeUnits rest := by
  simp [decodeUnits, hhigh, hlow]

theorem decodeUnits_units_append (c : Char) (rest : List Nat) :
    decodeUnits (units c ++ rest) = c :: decodeUnits rest := by
  have hc := toNat_bounds c
  unfold units
  split
  · have hhigh : isHighUnit c.toNat = false := by
      simp only [isHighUnit, Bool.and_eq_false_iff, decide_eq_false_iff_not]
      omega
    have hlow : isLowUnit c.toNat = false := by
      simp only [isLowUnit, Bool.and_eq_false_iff, decide_eq_false_iff_not]
      omega
    rw [List.singleton_append, decodeUnits_single hhigh hlow, Char.ofNat_toNat]
  · have hhigh : isHighUnit (0xD800 + (c.toNat - 0x10000) / 0x400) = true := by
      simp only [isHighUnit, Bool.and_eq_true, decide_eq_true_eq]
      omega
    have hlow : isLowUnit (0xDC00 + (c.toNat - 0x10000) % 0x400) = true := by
      simp only [isLowUnit, Bool.and_eq_true, decide_eq_true_eq]
      omega
    have hnat : 0x10000 + (0xD800 + (c.toNat - 0x10000) / 0x400 - 0xD800) * 0x400 +
        (0xDC00 + (c.toNat - 0x10000) % 0x400 - 0xDC00) = c.toNat := by omega
    rw [List.cons_append, List.singleton_append, decodeUnits_pair hhigh hlow, hnat, Char.ofNat_toNat]

theorem decodeUnits_units (cs : List Char) : decodeUnits (cs.flatMap units) = cs := by
  induction cs with
  | nil => rfl
  | cons c cs ih => rw [List.flatMap_cons, decodeUnits_units_append, ih]

def hexChar (upper : Bool) (d : Nat) : Char :=
  if d < 10 then Char.ofNat (48 + d) else if upper then Char.ofNat (55 + d) else Char.ofNat (87 + d)

theorem hexDigit?_hexChar : ∀ upper : Bool, ∀ d < 16, Text.hexDigit? (hexChar upper d) = some d := by
  decide

theorem hexChar_ne_lineEnd :
    ∀ upper : Bool, ∀ d < 16, hexChar upper d ≠ '\n' ∧ hexChar upper d ≠ '\r' := by
  decide

/-- Which of four hexadecimal digits are capitals, where they are letters. -/
structure Capitals where
  first : Bool
  second : Bool
  third : Bool
  fourth : Bool

def unitDigits (u : Nat) (capitals : Capitals) : List Char :=
  [hexChar capitals.first (u / 0x1000 % 16), hexChar capitals.second (u / 0x100 % 16),
   hexChar capitals.third (u / 0x10 % 16), hexChar capitals.fourth (u % 16)]

theorem unit?_unitDigits {u : Nat} (hu : u < 0x10000) (capitals : Capitals) :
    unit? (unitDigits u capitals) = some u := by
  have hdigit : ∀ upper n, Text.hexDigit? (hexChar upper (n % 16)) = some (n % 16) := fun upper n =>
    hexDigit?_hexChar upper _ (Nat.mod_lt _ (by decide))
  have hvalue : Text.hexValue (unitDigits u capitals) = u := by
    simp only [Text.hexValue, unitDigits, List.filterMap_cons, hdigit, List.filterMap_nil,
      List.foldl_cons, List.foldl_nil]
    omega
  rw [unit?, if_pos, hvalue]
  refine ⟨rfl, ?_⟩
  simp [unitDigits, hdigit]

def unitText (u : Nat) (capitals : Capitals) : List Char := '\\' :: 'u' :: unitDigits u capitals

theorem unescape_plain {c : Char} (hc : c ≠ '\\') (us : List Nat) (rest : List Char) :
    unescape us (c :: rest) = decodeUnits us ++ c :: unescape [] rest := by
  rw [unescape]
  · intro rest' heq
    exact absurd heq hc
  · intro heq
    exact absurd heq hc
  · intro d rest' heq
    exact absurd heq hc

theorem unescape_escaped {c : Char} (hc : c ≠ 'u') (us : List Nat) (rest : List Char) :
    unescape us ('\\' :: c :: rest) = decodeUnits us ++ unescapeChar c :: unescape [] rest := by
  rw [unescape]
  intro heq
  exact absurd heq hc

theorem unescape_unit {u : Nat} (hu : u < 0x10000) (capitals : Capitals) (us : List Nat)
    (rest : List Char) : unescape us (unitText u capitals ++ rest) = unescape (us ++ [u]) rest := by
  have htake : (unitDigits u capitals ++ rest).take 4 = unitDigits u capitals := rfl
  have hdrop : (unitDigits u capitals ++ rest).drop 4 = rest := rfl
  show unescape us ('\\' :: 'u' :: (unitDigits u capitals ++ rest)) = _
  rw [unescape, htake, unit?_unitDigits hu, hdrop]

/-! ### Spelled characters -/

/-- A character of a key or a value, as it is written. -/
inductive Spelled
  | plain (c : Char) (free : c ≠ '\\' ∧ c ≠ '\n' ∧ c ≠ '\r')
  | escaped (c : Char) (free : c ∉ ['t', 'n', 'r', 'f', 'u', '\n', '\r'])
  | tab
  | lineFeed
  | carriageReturn
  | formFeed
  | coded (c : Char) (first second : Capitals)

namespace Spelled

def text : Spelled → List Char
  | plain c _ => [c]
  | escaped c _ => ['\\', c]
  | tab => ['\\', 't']
  | lineFeed => ['\\', 'n']
  | carriageReturn => ['\\', 'r']
  | formFeed => ['\\', 'f']
  | coded c first second => (List.zipWith unitText (units c) [first, second]).flatten

def char : Spelled → Char
  | plain c _ => c
  | escaped c _ => c
  | tab => '\t'
  | lineFeed => '\n'
  | carriageReturn => '\r'
  | formFeed => Char.ofNat 12
  | coded c _ _ => c

def plain? : Spelled → Option Char
  | plain c _ => some c
  | _ => none

end Spelled

namespace Spelled

def texts (s : List Spelled) : List Char := s.flatMap text

def chars (s : List Spelled) : List Char := s.map char

theorem texts_cons (x : Spelled) (s : List Spelled) : texts (x :: s) = x.text ++ texts s := rfl

end Spelled

theorem coded_text (c : Char) (first second : Capitals) :
    (∃ u < 0x10000, units c = [u] ∧ (Spelled.coded c first second).text = unitText u first) ∨
      ∃ u < 0x10000, ∃ v < 0x10000, units c = [u, v] ∧
        (Spelled.coded c first second).text = unitText u first ++ unitText v second := by
  have hbounds := toNat_bounds c
  by_cases hc : c.toNat < 0x10000
  · have hunits : units c = [c.toNat] := if_pos hc
    exact Or.inl ⟨_, hc, hunits, by simp [Spelled.text, hunits]⟩
  · have hunits : units c =
        [0xD800 + (c.toNat - 0x10000) / 0x400, 0xDC00 + (c.toNat - 0x10000) % 0x400] := if_neg hc
    exact Or.inr ⟨_, by omega, _, by omega, hunits, by simp [Spelled.text, hunits]⟩

theorem unescapeChar_of_not_mem {c : Char} (h : c ∉ ['t', 'n', 'r', 'f', 'u', '\n', '\r']) :
    unescapeChar c = c := by
  simp only [List.mem_cons, List.not_mem_nil, or_false, not_or] at h
  rw [unescapeChar, if_neg h.1, if_neg h.2.1, if_neg h.2.2.1, if_neg h.2.2.2.1]

theorem unescape_coded (c : Char) (first second : Capitals) (us : List Nat) (rest : List Char) :
    unescape us ((Spelled.coded c first second).text ++ rest) = unescape (us ++ units c) rest := by
  obtain ⟨u, hu, hunits, htext⟩ | ⟨u, hu, v, hv, hunits, htext⟩ := coded_text c first second
  · rw [htext, unescape_unit hu, hunits]
  · rw [htext, List.append_assoc, unescape_unit hu, unescape_unit hv, hunits, List.append_assoc]
    rfl

/-- Spelled characters are read whatever units stand before them. -/
theorem unescape_units_texts (s : List Spelled) (before : List Char) :
    unescape (before.flatMap units) (Spelled.texts s) = before ++ Spelled.chars s := by
  induction s generalizing before with
  | nil =>
    show unescape (before.flatMap units) [] = before ++ []
    rw [unescape, decodeUnits_units, List.append_nil]
  | cons x s ih =>
    have hchars : Spelled.chars (x :: s) = x.char :: Spelled.chars s := rfl
    have hself : unescape [] (Spelled.texts s) = Spelled.chars s := ih []
    have hescape : ∀ c, c ≠ 'u' → unescape (before.flatMap units) ('\\' :: c :: Spelled.texts s) =
        before ++ unescapeChar c :: Spelled.chars s := by
      intro c hc
      rw [unescape_escaped hc, decodeUnits_units, hself]
    rw [Spelled.texts_cons, hchars]
    cases x with
    | plain c free =>
      show unescape _ (c :: Spelled.texts s) = _
      rw [unescape_plain free.1, decodeUnits_units, hself]
      rfl
    | escaped c free =>
      have hu : c ≠ 'u' := fun heq => free (by simp [heq])
      refine (hescape c hu).trans ?_
      rw [unescapeChar_of_not_mem free]
      rfl
    | tab => exact hescape 't' (by decide)
    | lineFeed => exact hescape 'n' (by decide)
    | carriageReturn => exact hescape 'r' (by decide)
    | formFeed => exact hescape 'f' (by decide)
    -- Units of a character join those before it, which are decoded when something else follows.
    | coded c first second =>
      have hbefore : before.flatMap units ++ units c = (before ++ [c]).flatMap units := by simp
      rw [unescape_coded, hbefore, ih, List.append_assoc]
      rfl

theorem unescape_texts (s : List Spelled) : unescape [] (Spelled.texts s) = Spelled.chars s :=
  unescape_units_texts s []

namespace Spelled

theorem head?_text (x : Spelled) : x.text.head? = some (x.plain?.getD '\\') := by
  cases x with
  | coded c first second =>
    obtain ⟨u, -, -, htext⟩ | ⟨u, -, v, -, -, htext⟩ := coded_text c first second <;> rw [htext] <;> rfl
  | _ => rfl

theorem head?_texts (s : List Spelled) :
    (texts s).head? = s.head?.map fun x => x.plain?.getD '\\' := by
  cases s with
  | nil => rfl
  | cons x s =>
    rw [texts_cons, List.head?_append, x.head?_text]
    rfl

end Spelled

def OneLine (s : List Char) : Prop := ∀ c ∈ s, c ≠ '\n' ∧ c ≠ '\r'

theorem OneLine.append {s t : List Char} (hs : OneLine s) (ht : OneLine t) : OneLine (s ++ t) := by
  intro c hc
  rcases List.mem_append.1 hc with hc | hc
  · exact hs c hc
  · exact ht c hc

theorem oneLine_unitText (u : Nat) (capitals : Capitals) : OneLine (unitText u capitals) := by
  have hdigit : ∀ upper n, hexChar upper (n % 16) ≠ '\n' ∧ hexChar upper (n % 16) ≠ '\r' :=
    fun upper n => hexChar_ne_lineEnd upper _ (Nat.mod_lt _ (by decide))
  intro c hc
  simp only [unitText, unitDigits, List.mem_cons, List.not_mem_nil, or_false] at hc
  rcases hc with rfl | rfl | rfl | rfl | rfl | rfl
  · decide
  · decide
  all_goals exact hdigit _ _

theorem Spelled.oneLine_text (x : Spelled) : OneLine x.text := by
  cases x with
  | plain c free => simpa [OneLine, text] using free.2
  | escaped c free =>
    simp only [List.mem_cons, List.not_mem_nil, or_false, not_or] at free
    simpa [OneLine, text] using free.2.2.2.2.2
  | coded c first second =>
    obtain ⟨u, -, -, htext⟩ | ⟨u, -, v, -, -, htext⟩ := coded_text c first second
    · exact htext ▸ oneLine_unitText u first
    · exact htext ▸ (oneLine_unitText u first).append (oneLine_unitText v second)
  | _ => simp [OneLine, text]

theorem Spelled.oneLine_texts (s : List Spelled) : OneLine (texts s) := by
  intro c hc
  obtain ⟨x, -, hc⟩ := List.mem_flatMap.1 hc
  exact x.oneLine_text c hc

/-! ### Backslashes at the end -/

/-- How many backslashes stand at the end of a text. -/
def trailing (s : List Char) : Nat := (s.reverse.takeWhile (· == '\\')).length

theorem trailing_append_singleton {c : Char} (hc : c ≠ '\\') (s : List Char) :
    trailing (s ++ [c]) = 0 := by
  simp [trailing, hc]

/-- Put at the end of a text, `u` leaves no backslash open that was not open before. -/
def Closed (u : List Char) : Prop := ∀ s, trailing s % 2 = 0 → trailing (s ++ u) % 2 = 0

namespace Closed

theorem nil : Closed [] := by
  intro s hs
  rw [List.append_nil]
  exact hs

theorem append {u v : List Char} (hu : Closed u) (hv : Closed v) : Closed (u ++ v) := by
  intro s hs
  rw [← List.append_assoc]
  exact hv _ (hu s hs)

theorem of_last {u : List Char} {c : Char} (hc : c ≠ '\\') : Closed (u ++ [c]) := by
  intro s _
  rw [← List.append_assoc, trailing_append_singleton hc]

theorem escape (c : Char) : Closed ['\\', c] := by
  by_cases hc : c = '\\'
  · intro s hs
    have hlength : trailing (s ++ ['\\', c]) = trailing s + 2 := by simp [trailing, hc]
    omega
  · exact of_last (u := ['\\']) hc

theorem of_forall {u : List Char} (h : ∀ c ∈ u, c ≠ '\\') : Closed u := by
  rcases List.eq_nil_or_concat u with rfl | ⟨init, c, rfl⟩
  · exact nil
  · rw [List.concat_eq_append]
    exact of_last (h c (by simp))

end Closed

theorem closed_unitText (u : Nat) (capitals : Capitals) : Closed (unitText u capitals) := by
  have hdigit : ∀ upper : Bool, ∀ d < 16, hexChar upper d ≠ '\\' := by decide
  exact Closed.of_last (u := ['\\', 'u', _, _, _]) (hdigit _ _ (Nat.mod_lt _ (by decide)))

theorem Spelled.closed_text (x : Spelled) : Closed x.text := by
  cases x with
  | plain c free => exact Closed.of_last (u := []) free.1
  | coded c first second =>
    obtain ⟨u, -, -, htext⟩ | ⟨u, -, v, -, -, htext⟩ := coded_text c first second
    · exact htext ▸ closed_unitText u first
    · exact htext ▸ (closed_unitText u first).append (closed_unitText v second)
  | _ => exact Closed.escape _

theorem Spelled.closed_texts (s : List Spelled) : Closed (texts s) := by
  induction s with
  | nil => exact Closed.nil
  | cons x s ih => exact x.closed_text.append ih

theorem continued?_of_closed {line : List Char} (h : Closed line) : continued? line = none := by
  have heven : trailing line % 2 = 0 := h [] rfl
  have hodd : ¬(line.reverse.takeWhile (· == '\\')).length % 2 = 1 := by
    show ¬trailing line % 2 = 1
    omega
  exact if_neg hodd

end Changelog.PropertyFile
