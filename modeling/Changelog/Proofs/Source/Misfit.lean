import Changelog.Proofs.Source.Fault
import Changelog.Proofs.Source.Grammar

/-!
# Integers that do not fit

A document in which integers do not fit 64 bits is refused for the first of them, wherever it stands, and
with all its digits.
-/

namespace Changelog.Written

open Changelog.Source
open Changelog.Grammar (FractionFollows)

/-! ### Numerals and what stands before them -/

/-- A numeral of a text, with everything that stands before it. -/
structure Place where
  before : List Char
  numeral : Numeral

def Place.behind (text : List Char) (p : Place) : Place := ⟨text ++ p.before, p.numeral⟩

def behind (text : List Char) (places : List Place) : List Place := places.map (Place.behind text)

theorem behind_behind (a b : List Char) (places : List Place) :
    behind a (behind b places) = behind (a ++ b) places := by
  simp [behind, Place.behind]

theorem behind_append (text : List Char) (a b : List Place) :
    behind text (a ++ b) = behind text a ++ behind text b := List.map_append

theorem behind_empty (places : List Place) : behind [] places = places := List.map_id places

mutual

def Literal.numerals : Literal → List Place
  | .int n => [⟨[], n⟩]
  | .list items _ => behind ['['] items.numerals
  | _ => []

def Items.numerals : Items → List Place
  | .nil => []
  | .cons before v after more =>
    behind before.text v.numerals ++
      behind (before.text ++ (v.text ++ after.text)) more.numeralsAfter

def Items.numeralsAfter : Items → List Place
  | .nil => []
  | .cons before v after more =>
    behind (',' :: before.text) v.numerals ++
      behind (',' :: (before.text ++ (v.text ++ after.text))) more.numeralsAfter

end

def Argument.numerals : Argument → List Place
  | .named key gap before v => behind (key.text ++ (gap.text ++ ':' :: before.text)) v.numerals
  | .positional v => v.numerals

def slotsNumeralsAfter : List Slot → List Place
  | [] => []
  | s :: more =>
    behind (',' :: s.before.text) s.argument.numerals ++ behind (',' :: s.text) (slotsNumeralsAfter more)

def slotsNumerals : List Slot → List Place
  | [] => []
  | s :: more => behind s.before.text s.argument.numerals ++ behind s.text (slotsNumeralsAfter more)

def bareNumerals : List BareSlot → List Place
  | [] => []
  | s :: more =>
    behind (s.gap.text ++ ',' :: s.before.text) s.argument.numerals ++ behind s.text (bareNumerals more)

def Arguments.numerals : Arguments → List Place
  | .none => []
  | .parens gap slots _ => behind (gap.text ++ ['(']) (slotsNumerals slots)
  | .bare tab gap first more =>
    behind (Gap.text (tab :: gap)) (first.numerals ++ behind first.text (bareNumerals more))

mutual

def Element.numerals : Element → List Place
  | .node name args block =>
    behind name.text (args.numerals ++ behind args.text block.numerals)

def Block.numerals : Block → List Place
  | .none => []
  | .braces gap before inside _ => behind (gap.text ++ '\x7b' :: before.text) inside.numerals

def Forest.numerals : Forest → List Place
  | .nil => []
  | .last e => e.numerals
  | .cons e apart more => e.numerals ++ behind (e.text ++ apart.filler.text) more.numerals

end

def Document.numerals (d : Document) : List Place := behind d.before.text d.inside.numerals

/-! ### Where all integers fit -/

def AllFit (places : List Place) : Prop := ∀ p ∈ places, p.numeral.fits = true

theorem AllFit.nil : AllFit [] := fun _ h => nomatch h

theorem AllFit.append {a b : List Place} (ha : AllFit a) (hb : AllFit b) : AllFit (a ++ b) := by
  intro p hp
  rcases List.mem_append.1 hp with hp | hp
  · exact ha p hp
  · exact hb p hp

theorem AllFit.behind {places : List Place} (h : AllFit places) (text : List Char) :
    AllFit (behind text places) := by
  intro p hp
  obtain ⟨q, hq, rfl⟩ := List.mem_map.1 hp
  exact h q hq

mutual

theorem Literal.allFit (v : Literal) (h : v.fits = true) : AllFit v.numerals := by
  cases v with
  | int n =>
    rw [Literal.numerals]
    intro p hp
    obtain rfl := List.mem_singleton.1 hp
    simpa [Literal.fits] using h
  | list items ending =>
    rw [Literal.numerals]
    exact (items.allFit (by simpa [Literal.fits] using h)).1.behind _
  | null | bool | string =>
    rw [Literal.numerals]
    · exact .nil
    all_goals nofun

theorem Items.allFit (items : Items) (h : items.fits = true) :
    AllFit items.numerals ∧ AllFit items.numeralsAfter := by
  cases items with
  | nil =>
    rw [Items.numerals, Items.numeralsAfter]
    exact ⟨.nil, .nil⟩
  | cons before v after more =>
    rw [Items.fits, Bool.and_eq_true] at h
    have hv := v.allFit h.1
    have hmore := (more.allFit h.2).2
    rw [Items.numerals, Items.numeralsAfter]
    exact ⟨(hv.behind _).append (hmore.behind _), (hv.behind _).append (hmore.behind _)⟩

end

theorem Argument.allFit (a : Argument) (h : a.fits = true) : AllFit a.numerals := by
  cases a with
  | named key gap before v => exact (v.allFit h).behind _
  | positional v => exact v.allFit h

theorem allFit_slots (slots : List Slot) (h : slots.all (·.argument.fits) = true) :
    AllFit (slotsNumerals slots) ∧ AllFit (slotsNumeralsAfter slots) := by
  induction slots with
  | nil => exact ⟨.nil, .nil⟩
  | cons s slots ih =>
    rw [List.all_cons, Bool.and_eq_true] at h
    have hs := s.argument.allFit h.1
    have hmore := (ih h.2).2
    exact ⟨(hs.behind _).append (hmore.behind _), (hs.behind _).append (hmore.behind _)⟩

theorem allFit_bareSlots (slots : List BareSlot) (h : slots.all (·.argument.fits) = true) :
    AllFit (bareNumerals slots) := by
  induction slots with
  | nil => exact .nil
  | cons s slots ih =>
    rw [List.all_cons, Bool.and_eq_true] at h
    exact ((s.argument.allFit h.1).behind _).append ((ih h.2).behind _)

theorem Arguments.allFit (args : Arguments) (h : args.fits = true) : AllFit args.numerals := by
  cases args with
  | none => exact .nil
  | parens gap slots ending =>
    rw [Arguments.fits, Arguments.list, List.all_map] at h
    exact (allFit_slots slots h).1.behind _
  | bare tab gap first more =>
    rw [Arguments.fits, Arguments.list, List.all_cons, List.all_map, Bool.and_eq_true] at h
    exact ((first.allFit h.1).append ((allFit_bareSlots more h.2).behind _)).behind _

mutual

theorem Element.allFit (e : Element) (h : e.fits = true) : AllFit e.numerals := by
  cases e with
  | node name args block =>
    rw [Element.fits, Bool.and_eq_true] at h
    rw [Element.numerals]
    exact ((args.allFit h.1).append ((block.allFit h.2).behind _)).behind _

theorem Block.allFit (b : Block) (h : b.fits = true) : AllFit b.numerals := by
  cases b with
  | none =>
    rw [Block.numerals]
    exact .nil
  | braces gap before inside after =>
    rw [Block.numerals]
    exact (inside.allFit (by simpa [Block.fits] using h)).behind _

theorem Forest.allFit (f : Forest) (h : f.fits = true) : AllFit f.numerals := by
  cases f with
  | nil =>
    rw [Forest.numerals]
    exact .nil
  | last e =>
    rw [Forest.numerals]
    exact e.allFit (by simpa [Forest.fits] using h)
  | cons e apart more =>
    rw [Forest.fits, Bool.and_eq_true] at h
    rw [Forest.numerals]
    exact (e.allFit h.1).append ((more.allFit h.2).behind _)

end

/-! ### Reading a numeral that does not fit -/

def NumberEnds (rest : List Char) : Prop :=
  (∀ c, rest.head? = some c → Text.isAsciiDigit c = false) ∧ ¬FractionFollows rest

theorem numberEnds_of_next {rest : List Char} (h : Next literalEnds rest) : NumberEnds rest := by
  have hall : ∀ c ∈ ' ' :: '\t' :: literalEnds, Text.isAsciiDigit c = false ∧ c ≠ '.' :=
    Text.forall_mem_of_all (by decide)
  refine ⟨fun c hc => (hall c (h.head hc)).1, ?_⟩
  rintro ⟨c, more, rfl, -⟩
  exact (hall '.' (h.head rfl)).2 rfl

section Numeral

variable {n : Numeral} {rest : List Char}

theorem takeWhile_numeral (n : Numeral) (h : NumberEnds rest) :
    (n.digits.map digitChar ++ rest).takeWhile Text.isAsciiDigit = n.digits.map digitChar ∧
      (n.digits.map digitChar ++ rest).dropWhile Text.isAsciiDigit = rest := by
  refine Text.takeWhile_append_of_head (fun c hc => ?_) h.1
  obtain ⟨d, -, rfl⟩ := List.mem_map.1 hc
  exact isAsciiDigit_digitChar d

theorem integerText_numeral (n : Numeral) (h : NumberEnds rest) :
    integerText (n.text ++ rest) = n.text := by
  rw [integerText, splitSign_numeral, (takeWhile_numeral n h).1]
  rfl

theorem number_misfit (hfits : n.fits = false) (h : NumberEnds rest) :
    number (n.text ++ rest) = .fault (.outOfRange (n.text ++ rest)) := by
  have hdigits : n.digits.map digitChar ≠ [] := by simp [Numeral.digits]
  have hfits' : fitsInt64 n.value = false := hfits
  have hfraction : ¬(rest.head? = some '.' ∧ (rest.drop 1).takeWhile Text.isAsciiDigit ≠ []) := by
    rintro ⟨hpoint, hsome⟩
    obtain ⟨more, rfl⟩ := List.head?_eq_some_iff.1 hpoint
    cases more with
    | nil => exact hsome rfl
    | cons c more =>
      refine h.2 ⟨c, more, rfl, ?_⟩
      by_contra hc
      exact hsome (List.takeWhile_cons_of_neg hc)
  obtain ⟨htake, hdrop⟩ := takeWhile_numeral n h
  simp only [number, splitSign_numeral, htake, hdrop, dif_neg hdigits, hfraction, if_false,
    intValue_digits, hfits', Bool.not_false, if_true]

theorem literal_misfit (hfits : n.fits = false) (h : NumberEnds rest) :
    literal (n.text ++ rest) = .fault (.outOfRange (n.text ++ rest)) := by
  have hscalar : scalar (n.text ++ rest) = .fault (.outOfRange (n.text ++ rest)) := by
    unfold scalar
    split
    · next heq =>
      rw [quoted?_numeral] at heq
      nomatch heq
    · rw [number_misfit hfits h]
  rw [literal.eq_def, hscalar]

end Numeral

/-! ### Coming to the first misfit -/

def firstMisfit? (places : List Place) : Option Place := places.find? fun p => !p.numeral.fits

theorem firstMisfit?_behind (text : List Char) (places : List Place) :
    firstMisfit? (behind text places) = (firstMisfit? places).map (Place.behind text) := by
  rw [firstMisfit?, behind, List.find?_map]
  rfl

theorem firstMisfit?_append_of_allFit {earlier : List Place} (h : AllFit earlier) (later : List Place) :
    firstMisfit? (earlier ++ later) = firstMisfit? later := by
  have hnone : earlier.find? (fun p => !p.numeral.fits) = none := by
    refine List.find?_eq_none.2 fun q hq => ?_
    rw [h q hq]
    exact Bool.false_ne_true
  rw [firstMisfit?, List.find?_append, hnone, Option.none_or]
  rfl

theorem firstMisfit?_append_of_some {places : List Place} {p : Place} (h : firstMisfit? places = some p)
    (later : List Place) : firstMisfit? (places ++ later) = some p := by
  rw [firstMisfit?] at h ⊢
  rw [List.find?_append, h, Option.some_or]

variable {total : Nat}

/-- Reading a text comes to the first of the given numerals that does not fit. -/
def Meets (total : Nat) (c : Call) (text : List Char) (places : List Place) : Prop :=
  ∃ p after, firstMisfit? places = some p ∧ text = p.before ++ (p.numeral.text ++ after) ∧
    NumberEnds after ∧ Comes total c (.literal (p.numeral.text ++ after))

namespace Meets

variable {c c' : Call} {t t' : List Char} {places earlier later : List Place}

theorem of_tries (h : Meets total c t places) (hc : Tries total c' c) (text : List Char)
    (ht : t' = text ++ t) : Meets total c' t' (behind text places) := by
  obtain ⟨p, after, hp, rfl, hend, hcomes⟩ := h
  refine ⟨p.behind text, after, ?_, ?_, hend, .head hc hcomes⟩
  · rw [firstMisfit?_behind, hp, Option.map_some]
  · rw [ht, ← List.append_assoc]
    rfl

theorem append (h : Meets total c t places) (later : List Place) : Meets total c t (places ++ later) := by
  obtain ⟨p, after, hp, hrest⟩ := h
  exact ⟨p, after, firstMisfit?_append_of_some hp later, hrest⟩

theorem after_fitting (h : Meets total c t places) (hearlier : AllFit earlier) :
    Meets total c t (earlier ++ places) := by
  obtain ⟨p, after, hp, hrest⟩ := h
  exact ⟨p, after, (firstMisfit?_append_of_allFit hearlier places).trans hp, hrest⟩

end Meets

theorem leaves_of_found {α : Type} {s rest : List Char} {x : Reading α s} {v : α}
    (h : ∃ hlt, x = .found v rest hlt) : x.Leaves rest :=
  ⟨v, h⟩

mutual

theorem literal_meets (v : Literal) {rest : List Char} (hfits : v.fits = false)
    (hnext : Next literalEnds rest) :
    Meets total (.literal (v.text ++ rest)) (v.text ++ rest) v.numerals := by
  cases v with
  | int n =>
    have hn : n.fits = false := by simpa [Literal.fits] using hfits
    rw [Literal.numerals]
    exact ⟨⟨[], n⟩, rest, by simp [firstMisfit?, hn], rfl, numberEnds_of_next hnext, .refl⟩
  | list items ending =>
    have htext : (Literal.list items ending).text ++ rest =
        '[' :: (items.text ++ (ending.text ++ ']' :: rest)) := by
      simp [Literal.text]
    rw [htext, Literal.numerals]
    exact items_meets items ending rest (by simpa [Literal.fits] using hfits)
  | null | bool | string => simp [Literal.fits] at hfits

theorem items_meets (items : Items) (ending : Ending) (rest : List Char) (hfits : items.fits = false) :
    Meets total (.literal ('[' :: (items.text ++ (ending.text ++ ']' :: rest))))
      ('[' :: (items.text ++ (ending.text ++ ']' :: rest))) (behind ['['] items.numerals) := by
  cases items with
  | nil => simp [Items.fits] at hfits
  | cons before v after more =>
    have hnext : Next literalEnds (after.text ++ (more.textAfter ++ (ending.text ++ ']' :: rest))) :=
      Next.filler after (by decide) (next_textAfter more ending rest)
    have hskip := ((solid_literal v).append
      (after.text ++ (more.textAfter ++ (ending.text ++ ']' :: rest)))).skipBlanks_filler_append before
    have htext : Items.text (.cons before v after more) ++ (ending.text ++ ']' :: rest) =
        before.text ++ (v.text ++ (after.text ++ (more.textAfter ++ (ending.text ++ ']' :: rest)))) := by
      simp [Items.text]
    rw [htext, Items.numerals, behind_append, behind_behind, behind_behind]
    -- either the first item holds the first misfit, or it is read and the misfit comes later
    cases hv : v.fits with
    | false =>
      have hfirst : Tries total _ _ := .item
        (before.text ++ (v.text ++ (after.text ++ (more.textAfter ++ (ending.text ++ ']' :: rest)))))
      rw [hskip] at hfirst
      exact ((literal_meets v hv hnext).of_tries hfirst _ (by simp)).append _
    | true =>
      have hmore : more.fits = false := by simpa [Items.fits, hv] using hfits
      have hlater := leaves_of_found (literal_text v hv hnext)
      rw [← hskip] at hlater
      have htail := (moreItems_meets more after ending rest hmore).of_tries (.moreItems hlater)
        ('[' :: (before.text ++ v.text)) rfl
      rw [behind_behind] at htail
      simpa using htail.after_fitting ((v.allFit hv).behind ('[' :: before.text))

theorem moreItems_meets (items : Items) (after : Filler) (ending : Ending) (rest : List Char)
    (hfits : items.fits = false) :
    Meets total (.moreItems (after.text ++ (items.textAfter ++ (ending.text ++ ']' :: rest))))
      (after.text ++ (items.textAfter ++ (ending.text ++ ']' :: rest)))
      (behind after.text items.numeralsAfter) := by
  cases items with
  | nil => simp [Items.fits] at hfits
  | cons before v after' more =>
    have hnext : Next literalEnds (after'.text ++ (more.textAfter ++ (ending.text ++ ']' :: rest))) :=
      Next.filler after' (by decide) (next_textAfter more ending rest)
    have hskip := ((solid_literal v).append
      (after'.text ++ (more.textAfter ++ (ending.text ++ ']' :: rest)))).skipBlanks_filler_append before
    have htext : Items.textAfter (.cons before v after' more) ++ (ending.text ++ ']' :: rest) =
        ',' :: (before.text ++
          (v.text ++ (after'.text ++ (more.textAfter ++ (ending.text ++ ']' :: rest))))) := by
      simp [Items.textAfter]
    have hcomma : skipBlanks (after.text ++ (Items.textAfter (.cons before v after' more) ++
        (ending.text ++ ']' :: rest))) = ',' :: (before.text ++
          (v.text ++ (after'.text ++ (more.textAfter ++ (ending.text ++ ']' :: rest))))) := by
      rw [htext, skipBlanks_filler, skipBlanks_comma]
    rw [Items.numeralsAfter, behind_append, behind_behind, behind_behind]
    cases hv : v.fits with
    | false =>
      have hfirst : Tries total _ _ := .nextItem hcomma
      rw [hskip] at hfirst
      exact ((literal_meets v hv hnext).of_tries hfirst _ (by simp [htext])).append _
    | true =>
      have hmore : more.fits = false := by simpa [Items.fits, hv] using hfits
      have hlater := leaves_of_found (literal_text v hv hnext)
      rw [← hskip] at hlater
      have htail := (moreItems_meets more after' ending rest hmore).of_tries (.laterItems hcomma hlater)
        (after.text ++ ',' :: (before.text ++ v.text)) rfl
      rw [behind_behind] at htail
      simpa [htext] using htail.after_fitting ((v.allFit hv).behind (after.text ++ ',' :: before.text))

end

theorem argument_meets (a : Argument) {rest : List Char} (hfits : a.fits = false)
    (hnext : Next literalEnds rest) :
    Meets total (.argument (a.text ++ rest)) (a.text ++ rest) a.numerals := by
  cases a with
  | named key gap before v =>
    have hskip := ((solid_literal v).append rest).skipBlanks_filler_append before
    have htext : (Argument.named key gap before v).text ++ rest =
        key.text ++ (gap.text ++ ':' :: (before.text ++ (v.text ++ rest))) := by
      simp [Argument.text]
    have hcolon : skipSpaces (gap.text ++ ':' :: (before.text ++ (v.text ++ rest))) =
        ':' :: (before.text ++ (v.text ++ rest)) := by
      rw [skipSpaces_gap, skipSpaces_of_not_space (by decide)]
    have hnamed : Tries total _ _ := .named (leaves_of_found
      (name_text key (nameGoesOn_gap (by decide) gap (before.text ++ (v.text ++ rest))))) hcolon
    rw [hskip] at hnamed
    rw [htext]
    exact (literal_meets v hfits hnext).of_tries hnamed _ (by simp)
  | positional v =>
    have htry : Meets total (.argument (v.text ++ rest)) (v.text ++ rest) _ :=
      (literal_meets v hfits hnext).of_tries (.positional (namedArgument_literal v hnext)) [] rfl
    rw [behind_empty] at htry
    exact htry

theorem moreArguments_meets (slots : List Slot) (after : Filler) (ending : Ending) (rest : List Char)
    (hfits : slots.all (·.argument.fits) = false) :
    Meets total (.moreArguments (after.text ++ (slotsAfter slots ++ (ending.text ++ ')' :: rest))))
      (after.text ++ (slotsAfter slots ++ (ending.text ++ ')' :: rest)))
      (behind after.text (slotsNumeralsAfter slots)) := by
  induction slots generalizing after with
  | nil => simp at hfits
  | cons s slots ih =>
    obtain ⟨before, a, after'⟩ := s
    have hnext : Next literalEnds (after'.text ++ (slotsAfter slots ++ (ending.text ++ ')' :: rest))) :=
      Next.filler after' (by decide) (next_slotsAfter slots ending rest)
    have hskip := ((solid_argument a).append
      (after'.text ++ (slotsAfter slots ++ (ending.text ++ ')' :: rest)))).skipBlanks_filler_append before
    have htext : slotsAfter (⟨before, a, after'⟩ :: slots) ++ (ending.text ++ ')' :: rest) =
        ',' :: (before.text ++
          (a.text ++ (after'.text ++ (slotsAfter slots ++ (ending.text ++ ')' :: rest))))) := by
      simp [slotsAfter, Slot.text]
    have hcomma : skipBlanks (after.text ++ (slotsAfter (⟨before, a, after'⟩ :: slots) ++
        (ending.text ++ ')' :: rest))) = ',' :: (before.text ++
          (a.text ++ (after'.text ++ (slotsAfter slots ++ (ending.text ++ ')' :: rest))))) := by
      rw [htext, skipBlanks_filler, skipBlanks_comma]
    rw [slotsNumeralsAfter, behind_append, behind_behind, behind_behind]
    cases ha : a.fits with
    | false =>
      have hfirst : Tries total _ _ := .nextInParens hcomma
      rw [hskip] at hfirst
      exact ((argument_meets a ha hnext).of_tries hfirst _ (by simp [htext])).append _
    | true =>
      have hmore : slots.all (·.argument.fits) = false := by simpa [ha] using hfits
      have hlater := leaves_of_found (argument_text a ha hnext)
      rw [← hskip] at hlater
      have htail := (ih after' hmore).of_tries (.laterInParens hcomma hlater)
        (after.text ++ ',' :: (before.text ++ a.text)) rfl
      rw [behind_behind] at htail
      simpa [htext, Slot.text] using
        htail.after_fitting ((a.allFit ha).behind (after.text ++ ',' :: before.text))

theorem moreBareArguments_meets (slots : List BareSlot) {rest : List Char}
    (hfits : slots.all (·.argument.fits) = false) (h : Next argumentsEnds rest) :
    Meets total (.moreBareArguments (slots.flatMap BareSlot.text ++ rest))
      (slots.flatMap BareSlot.text ++ rest) (bareNumerals slots) := by
  induction slots with
  | nil => simp at hfits
  | cons s slots ih =>
    obtain ⟨gap, before, a⟩ := s
    have hnext := next_bareSlots slots h
    have hskip := ((solid_argument a).append
      (slots.flatMap BareSlot.text ++ rest)).skipBlanks_filler_append before
    have htext : List.flatMap BareSlot.text (⟨gap, before, a⟩ :: slots) ++ rest =
        gap.text ++ ',' :: (before.text ++ (a.text ++ (slots.flatMap BareSlot.text ++ rest))) := by
      simp [BareSlot.text]
    have hcomma : skipSpaces (List.flatMap BareSlot.text (⟨gap, before, a⟩ :: slots) ++ rest) =
        ',' :: (before.text ++ (a.text ++ (slots.flatMap BareSlot.text ++ rest))) := by
      rw [htext, skipSpaces_gap, skipSpaces_of_not_space (by decide)]
    rw [bareNumerals]
    cases ha : a.fits with
    | false =>
      have hfirst : Tries total _ _ := .nextBare hcomma
      rw [hskip] at hfirst
      exact ((argument_meets a ha hnext).of_tries hfirst _ (by simp [BareSlot.text])).append _
    | true =>
      have hmore : slots.all (·.argument.fits) = false := by simpa [ha] using hfits
      have hlater := leaves_of_found (argument_text a ha hnext)
      rw [← hskip] at hlater
      exact ((ih hmore).of_tries (.laterBare hcomma hlater) _ (by simp [BareSlot.text])).after_fitting
        ((a.allFit ha).behind _)

theorem arguments_meets (args : Arguments) {rest : List Char} (hfits : args.fits = false)
    (h : Next argumentsEnds rest) :
    Meets total (.arguments (args.text ++ rest)) (args.text ++ rest) args.numerals := by
  cases args with
  | none => simp [Arguments.fits, Arguments.list] at hfits
  | parens gap slots ending =>
    have hslots : slots.all (·.argument.fits) = false := by
      rw [Arguments.fits, Arguments.list, List.all_map] at hfits
      exact hfits
    have htext : (Arguments.parens gap slots ending).text ++ rest =
        gap.text ++ '(' :: (slotsText slots ++ (ending.text ++ ')' :: rest)) := by
      simp [Arguments.text]
    have hopen : skipSpaces ((Arguments.parens gap slots ending).text ++ rest) =
        '(' :: (slotsText slots ++ (ending.text ++ ')' :: rest)) := by
      rw [htext, skipSpaces_gap, skipSpaces_of_not_space (by decide)]
    cases slots with
    | nil => simp at hslots
    | cons s slots =>
      obtain ⟨before, a, after⟩ := s
      have hnext : Next literalEnds (after.text ++ (slotsAfter slots ++ (ending.text ++ ')' :: rest))) :=
        Next.filler after (by decide) (next_slotsAfter slots ending rest)
      have hskip : skipBlanks (slotsText (⟨before, a, after⟩ :: slots) ++ (ending.text ++ ')' :: rest)) =
          a.text ++ (after.text ++ (slotsAfter slots ++ (ending.text ++ ')' :: rest))) := by
        rw [← ((solid_argument a).append _).skipBlanks_filler_append before]
        simp [slotsText, Slot.text]
      rw [Arguments.numerals, slotsNumerals, behind_append, behind_behind, behind_behind]
      -- Either the misfit is in the first argument, or that is read and the misfit is in what follows it.
      cases ha : a.fits with
      | false =>
        have hfirst : Tries total _ _ := .inParens hopen
        rw [hskip] at hfirst
        refine ((argument_meets a ha hnext).of_tries hfirst _ ?_).append _
        simp [htext, slotsText, Slot.text]
      | true =>
        have hmore : slots.all (·.argument.fits) = false := by simpa [ha] using hslots
        have hlater := leaves_of_found (argument_text a ha hnext)
        rw [← hskip] at hlater
        have htail : Meets total _ _ _ := (moreArguments_meets slots after ending rest hmore).of_tries
          (.moreInParens hopen hlater) (gap.text ++ '(' :: (before.text ++ a.text)) rfl
        rw [behind_behind] at htail
        simpa [htext, slotsText, Slot.text] using
          htail.after_fitting ((a.allFit ha).behind (gap.text ++ '(' :: before.text))
  | bare tab gap first more =>
    have hsolid := (solid_argument first).append (more.flatMap BareSlot.text ++ rest)
    have htext : (Arguments.bare tab gap first more).text ++ rest =
        Gap.text (tab :: gap) ++ (first.text ++ (more.flatMap BareSlot.text ++ rest)) := by
      simp [Arguments.text]
    have hskip : skipSpaces ((Arguments.bare tab gap first more).text ++ rest) =
        first.text ++ (more.flatMap BareSlot.text ++ rest) := by
      rw [htext, skipSpaces_gap, hsolid.skipSpaces_eq]
    -- Bare arguments are tried only where no parenthesis opens.
    have hparen : ∀ r, skipSpaces ((Arguments.bare tab gap first more).text ++ rest) ≠ '(' :: r := by
      obtain ⟨c, t, heq, -, -, hc⟩ := hsolid
      intro r hr
      rw [hskip, heq, List.cons.injEq] at hr
      exact hc hr.1
    have hspace : startsWithSpace ((Arguments.bare tab gap first more).text ++ rest) = true := by
      rw [htext]
      cases tab <;> rfl
    rw [Arguments.numerals, behind_append]
    cases ha : first.fits with
    | false =>
      have hfirst : Tries total _ _ := .bare hparen hspace
      rw [hskip] at hfirst
      exact ((argument_meets first ha (next_bareSlots more h)).of_tries hfirst _ htext).append _
    | true =>
      have hmore : more.all (·.argument.fits) = false := by
        simpa [Arguments.fits, Arguments.list, ha] using hfits
      have hlater := leaves_of_found (argument_text first ha (next_bareSlots more h))
      rw [← hskip] at hlater
      rw [behind_behind]
      exact ((moreBareArguments_meets more hmore h).of_tries (.moreBare hparen hspace hlater) _
        (by rw [htext, List.append_assoc])).after_fitting ((first.allFit ha).behind _)

mutual

theorem element_meets (e : Element) {line : Nat} {rest : List Char} (hfits : e.fits = false)
    (hplaced : Placed total line (e.text ++ rest)) (hnext : Next elementEnds rest) :
    Meets total (.element (e.text ++ rest)) (e.text ++ rest) e.numerals := by
  cases e with
  | node n args block =>
    have hblock := next_block block hnext
    have htext : (Element.node n args block).text ++ rest =
        n.text ++ (args.text ++ (block.text ++ rest)) := by
      simp [Element.text]
    rw [htext] at hplaced ⊢
    have hname := leaves_of_found (name_text n (nameGoesOn_arguments args hblock))
    rw [Element.numerals, behind_append, behind_behind]
    cases hargs : args.fits with
    | false => exact ((arguments_meets args hargs hblock).of_tries (.arguments hname) _ rfl).append _
    | true =>
      have hmore : block.fits = false := by simpa [Element.fits, hargs] using hfits
      have hread := arguments_text args hargs hblock
      have hafter := hplaced.append.append
      cases block with
      | none => simp [Block.fits] at hmore
      | braces gap before inside after =>
        have hinsideFits : inside.fits = false := by simpa [Block.fits] using hmore
        have hbraces : (Block.braces gap before inside after).text ++ rest =
            gap.text ++ '\x7b' :: (before.text ++ (inside.text ++ (after.text ++ '\x7d' :: rest))) := by
          simp [Block.text]
        have hopen : afterOpening? ((Block.braces gap before inside after).text ++ rest) =
            some (before.text ++ (inside.text ++ (after.text ++ '\x7d' :: rest))) := by
          rw [hbraces, afterOpening?, skipSpaces_gap, skipSpaces_of_not_space (by decide)]
          rfl
        have hinside : Placed total (line + n.text.count '\n' + args.text.count '\n' +
            (gap.text ++ ['\x7b']).count '\n' + before.text.count '\n')
            (inside.text ++ (after.text ++ '\x7d' :: rest)) := by
          rw [hbraces, List.append_cons] at hafter
          exact hafter.append.append
        have hblockTries : Tries total _ _ := .block hname ⟨_, hread⟩ hopen
        rw [skipBlanks_filler] at hblockTries
        have htail := (forest_meets inside hinsideFits hinside
          (Next.filler after (by decide) (Next.cons (by decide) (by decide)))).of_tries hblockTries
          (n.text ++ (args.text ++ (gap.text ++ '\x7b' :: before.text))) rfl
        rw [Block.numerals, behind_behind]
        simpa [hbraces] using htail.after_fitting ((args.allFit hargs).behind n.text)

theorem forest_meets (f : Forest) {line : Nat} {rest : List Char} (hfits : f.fits = false)
    (hplaced : Placed total line (f.text ++ rest)) (hnext : Next elementEnds rest) :
    Meets total (.elements (skipBlanks (f.text ++ rest))) (f.text ++ rest) f.numerals := by
  cases f with
  | nil => simp [Forest.fits] at hfits
  | last e =>
    rw [Forest.text] at hplaced ⊢
    rw [((solid_element e).append rest).skipBlanks_eq, Forest.numerals]
    have htry := (element_meets e (by simpa [Forest.fits] using hfits) hplaced hnext).of_tries
      (.element (e.text ++ rest)) [] rfl
    rw [behind_empty] at htry
    exact htry
  | cons e apart more =>
    have htext : (Forest.cons e apart more).text ++ rest =
        e.text ++ (apart.filler.text ++ (more.text ++ rest)) := by
      simp [Forest.text]
    have hsep : Next elementEnds (apart.filler.text ++ (more.text ++ rest)) := Next.separator apart _
    rw [htext] at hplaced ⊢
    rw [((solid_element e).append _).skipBlanks_eq, Forest.numerals]
    cases he : e.fits with
    | false =>
      have htry := (element_meets e he hplaced hsep).of_tries (.element _) [] rfl
      rw [behind_empty] at htry
      exact htry.append _
    | true =>
      have hmore : more.fits = false := by simpa [Forest.fits, he] using hfits
      have hnextElements := Tries.nextElements (leaves_of_found (element_text e he hplaced hsep))
      rw [skipBlanks_filler] at hnextElements
      exact ((forest_meets more hmore hplaced.append.append hnext).of_tries hnextElements _
        (by simp)).after_fitting (e.allFit he)

end

/-! ### Refused texts -/

/-- The source is refused for a numeral at the given place, named with all its digits. -/
structure Place.Refused (p : Place) (source : List Char) (e : SyntaxError) : Prop where
  error : readElements (String.ofList source) = .error e
  line : e.line = p.before.count '\n' + 1
  message : e.cause.message = "integer literal '" ++ String.ofList p.numeral.text ++ "' is out of range"

theorem refused_of_comes {p : Place} {source after : List Char}
    (hsource : source = p.before ++ (p.numeral.text ++ after)) (hfits : p.numeral.fits = false)
    (hend : NumberEnds after) (h : Comes (Text.lineEnds source) (.elements (skipBlanks source))
      (.literal (p.numeral.text ++ after))) :
    ∃ e, p.Refused source e := by
  have hfaults : elements (Text.lineEnds source) (skipBlanks source) =
      .fault (.outOfRange (p.numeral.text ++ after)) :=
    faults_of_comes h (literal_misfit hfits hend)
  have hline : lineAt (Text.lineEnds source) (p.numeral.text ++ after) = p.before.count '\n' + 1 := by
    rw [lineAt, hsource, Text.lineEnds_append, Nat.add_sub_cancel]
    rfl
  refine ⟨(Fault.outOfRange (p.numeral.text ++ after)).toError (Text.lineEnds source), ?_, hline, ?_⟩
  · rw [readElements, String.toList_ofList, readChars, hfaults]
  · rw [Fault.toError, integerText_numeral p.numeral hend]
    rfl

theorem document_meets (d : Document) (hfits : d.fits = false) :
    Meets (Text.lineEnds d.text) (.elements (skipBlanks d.text)) d.text d.numerals := by
  have hplaced : Placed (Text.lineEnds d.text) 1 d.text := ⟨Nat.le_refl 1, Nat.add_comm 1 _⟩
  have hnext : Next elementEnds d.after.text := by
    rw [← List.append_nil d.after.text]
    exact Next.filler d.after (by decide) Next.nil
  have hskip : skipBlanks d.text = skipBlanks (d.inside.text ++ d.after.text) := skipBlanks_filler _ _
  obtain ⟨p, after, hp, htext, hend, hcomes⟩ := forest_meets d.inside hfits hplaced.append hnext
  refine ⟨p.behind d.before.text, after, ?_, ?_, hend, hskip ▸ hcomes⟩
  · rw [Document.numerals, firstMisfit?_behind, hp, Option.map_some]
  · rw [Document.text, htext, ← List.append_assoc]
    rfl

/-- A text is refused for an integer that does not fit wherever reading comes to one: no other reading is
tried, and neither the error nor its place changes on the way.  A document in which some integers do not
fit is so refused for the first of them. -/
theorem refused_of_misfit :
    (∀ (p : Place) (source after : List Char), source = p.before ++ (p.numeral.text ++ after) →
      p.numeral.fits = false → NumberEnds after →
      Comes (Text.lineEnds source) (.elements (skipBlanks source)) (.literal (p.numeral.text ++ after)) →
      ∃ e, p.Refused source e) ∧
    ∀ d : Document, d.fits = false → ∃ p after, firstMisfit? d.numerals = some p ∧
      d.text = p.before ++ (p.numeral.text ++ after) ∧ ∃ e, p.Refused d.text e := by
  refine ⟨fun p source after hsource hfits hend hcomes => refused_of_comes hsource hfits hend hcomes, ?_⟩
  intro d hfits
  obtain ⟨p, after, hp, htext, hend, hcomes⟩ := document_meets d hfits
  have hmisfit : p.numeral.fits = false := by
    have hfound := List.find?_some hp
    simpa using hfound
  exact ⟨p, after, hp, htext, refused_of_comes htext hmisfit hend hcomes⟩

def nearLimit (negative : Bool) (last : Nat) : Numeral :=
  let digit (d : Nat) : Fin 10 := ⟨d % 10, Nat.mod_lt d (by decide)⟩
  ⟨negative, digit 9, [2, 2, 3, 3, 7, 2, 0, 3, 6, 8, 5, 4, 7, 7, 5, 8, 0, last].map digit⟩

def misfitDocument : Document where
  before := []
  inside := .last (.node (.ofString "a")
    (.parens [] [⟨[], .positional (.int (nearLimit false 7)), []⟩] ⟨none, []⟩)
    (.braces [false] [.lineFeed]
      (.last (.node (.ofString "b")
        (.bare false []
          (.positional (.list
            (.cons [] .null [] (.cons [.space] (.int (nearLimit true 9)) [] .nil)) ⟨none, []⟩))
          [⟨[], [.space], .positional (.int (nearLimit false 9))⟩])
        .none))
      [.lineFeed]))
  after := []

theorem comes_behind_decimal (total : Nat) (n : Numeral) (rest : List Char) :
    Comes total (.elements ('a' :: ' ' :: '1' :: '.' :: '5' :: ',' :: ' ' :: (n.text ++ rest)))
      (.literal (n.text ++ rest)) := by
  have hskip : skipBlanks (' ' :: (n.text ++ rest)) = n.text ++ rest :=
    ((solid_literal (.int n)).append rest).skipBlanks_filler_append [.space]
  generalize htext : n.text ++ rest = text at hskip
  have hname : (name ('a' :: ' ' :: '1' :: '.' :: '5' :: ',' :: ' ' :: text)).Leaves
      (' ' :: '1' :: '.' :: '5' :: ',' :: ' ' :: text) := ⟨_, name_text (.ofString "a") rfl⟩
  have hparen : ∀ r, skipSpaces (' ' :: '1' :: '.' :: '5' :: ',' :: ' ' :: text) ≠ '(' :: r :=
    fun r hr => absurd (List.cons.inj hr).1 (by decide)
  have hdecimal : (argument ('1' :: '.' :: '5' :: ',' :: ' ' :: text)).Leaves (',' :: ' ' :: text) := by
    have hnamed : namedArgument ('1' :: '.' :: '5' :: ',' :: ' ' :: text) = .absent :=
      namedArgument_absent fun c hc => .inr (Option.some.inj hc ▸ by decide)
    obtain ⟨hlt, hv⟩ := literal_of_scalar (s := '1' :: '.' :: '5' :: ',' :: ' ' :: text) ⟨_, rfl⟩
    exact ⟨_, hlt, by rw [argument, hnamed, hv]; rfl⟩
  have hlast : Tries total (.moreBareArguments (',' :: ' ' :: text)) (.argument text) := by
    have hnext : Tries total (.moreBareArguments (',' :: ' ' :: text)) _ := .nextBare rfl
    rwa [hskip] at hnext
  have hnamed : namedArgument text = .absent := htext ▸ namedArgument_numeral n rest
  exact .head (.element _) (.head (.arguments hname) (.head (.moreBare hparen rfl hdecimal)
    (.head hlast (.single (.positional hnamed)))))

theorem refused_of_misfit_nested :
    (∃ e, readElements "a(9223372036854775807) \x7b\nb [null, -9223372036854775809], 9223372036854775809\n\x7d" = .error e ∧
      e.line = 2 ∧ e.cause.message = "integer literal '-9223372036854775809' is out of range") ∧
    ∃ e, readElements "a 1.5, 9223372036854775808" = .error e ∧ e.line = 1 ∧
      e.cause.message = "integer literal '9223372036854775808' is out of range" := by
  constructor
  · obtain ⟨p, after, hp, -, e, he⟩ := refused_of_misfit.2 misfitDocument (by decide)
    have htext : String.ofList misfitDocument.text =
        "a(9223372036854775807) \x7b\nb [null, -9223372036854775809], 9223372036854775809\n\x7d" := by
      decide
    have hplace : p.before.count '\n' + 1 = 2 ∧
        "integer literal '" ++ String.ofList p.numeral.text ++ "' is out of range" =
          "integer literal '-9223372036854775809' is out of range" := by
      obtain rfl := Option.some.inj (hp.symm.trans rfl)
      decide
    exact ⟨e, htext ▸ he.error, he.line.trans hplace.1, he.message.trans hplace.2⟩
  · have hstart : skipBlanks (['a', ' ', '1', '.', '5', ',', ' '] ++ ((nearLimit false 8).text ++ [])) =
        'a' :: ' ' :: '1' :: '.' :: '5' :: ',' :: ' ' :: ((nearLimit false 8).text ++ []) :=
      skipBlanks_of_not_separator rfl (by decide) _
    obtain ⟨e, he⟩ := refused_of_misfit.1 ⟨['a', ' ', '1', '.', '5', ',', ' '], nearLimit false 8⟩ _ [] rfl
      (by decide) ⟨nofun, nofun⟩ (by rw [hstart]; exact comes_behind_decimal _ _ [])
    have htext : String.ofList (['a', ' ', '1', '.', '5', ',', ' '] ++ ((nearLimit false 8).text ++ [])) =
        "a 1.5, 9223372036854775808" := by
      decide
    exact ⟨e, htext ▸ he.error, he.line.trans (by decide), he.message.trans (by decide)⟩

end Changelog.Written
