import Changelog.Proofs.Source.Document
import Mathlib.Logic.Relation

/-!
# Faults

A reader has the fault of every other reader that it tries: no alternative, option or repetition of the
grammar tries another way once there is one.  So the first integer that a text is read up to and that
does not fit 64 bits is what the text is refused for.
-/

namespace Changelog.Source

variable {total : Nat} {s r : List Char} {f : Fault}

/-- The reader finds its construct, and `rest` follows it. -/
def Reading.Leaves {α : Type} {s : List Char} (x : Reading α s) (rest : List Char) : Prop :=
  ∃ value shorter, x = .found value rest shorter

def Run.Leaves {α : Type} {s : List Char} (x : Run α s) (rest : List Char) : Prop :=
  ∃ value noLonger, x = .read value rest noLonger

theorem literal_fault (h : literal (skipBlanks r) = .fault f ∨
    ∃ rest, (literal (skipBlanks r)).Leaves rest ∧ moreItems rest = .fault f) :
    literal ('[' :: r) = .fault f := by
  have hitems : items (skipBlanks r) = .fault f := by
    rw [items]
    rcases h with h | ⟨rest, ⟨v, hlt, hv⟩, h⟩
    · rw [h]
    · rw [hv]
      dsimp only
      rw [h]
  have hscalar : scalar ('[' :: r) = .absent := Written.scalar_absent fun c hc => by
    rw [List.head?_cons, Option.some.injEq] at hc
    exact hc ▸ by decide
  rw [literal.eq_def, hscalar]
  simp only [hitems]

theorem moreItems_fault (hs : skipBlanks s = ',' :: r) (h : literal (skipBlanks r) = .fault f ∨
    ∃ rest, (literal (skipBlanks r)).Leaves rest ∧ moreItems rest = .fault f) :
    moreItems s = .fault f := by
  rw [moreItems.eq_def]
  split
  · next r' hr' =>
    obtain rfl := (List.cons.inj (hs.symm.trans hr')).2
    rcases h with h | ⟨rest, ⟨v, hlt, hv⟩, h⟩
    · rw [h]
    · rw [hv]
      dsimp only
      rw [h]
  · next hne => exact absurd hs (hne r)

theorem argument_fault_named {afterName : List Char} (hname : (name s).Leaves afterName)
    (hcolon : skipSpaces afterName = ':' :: r) (h : literal (skipBlanks r) = .fault f) :
    argument s = .fault f := by
  obtain ⟨key, hlt, hname⟩ := hname
  have hnamed : namedArgument s = .fault f := by
    unfold namedArgument
    rw [hname]
    dsimp only
    split
    · next r' hr' =>
      obtain rfl := (List.cons.inj (hcolon.symm.trans hr')).2
      rw [h]
    · next hne => exact absurd hcolon (hne r)
  rw [argument, hnamed]

theorem argument_fault_positional (hnamed : namedArgument s = .absent) (h : literal s = .fault f) :
    argument s = .fault f := by
  rw [argument, hnamed, h]

theorem moreArguments_fault (hs : skipBlanks s = ',' :: r) (h : argument (skipBlanks r) = .fault f ∨
    ∃ rest, (argument (skipBlanks r)).Leaves rest ∧ moreArguments rest = .fault f) :
    moreArguments s = .fault f := by
  rw [moreArguments.eq_def]
  split
  · next r' hr' =>
    obtain rfl := (List.cons.inj (hs.symm.trans hr')).2
    rcases h with h | ⟨rest, ⟨a, hlt, ha⟩, h⟩
    · rw [h]
    · rw [ha]
      dsimp only
      rw [h]
  · next hne => exact absurd hs (hne r)

theorem moreBareArguments_fault (hs : skipSpaces s = ',' :: r)
    (h : argument (skipBlanks r) = .fault f ∨
      ∃ rest, (argument (skipBlanks r)).Leaves rest ∧ moreBareArguments rest = .fault f) :
    moreBareArguments s = .fault f := by
  rw [moreBareArguments.eq_def]
  split
  · next r' hr' =>
    obtain rfl := (List.cons.inj (hs.symm.trans hr')).2
    rcases h with h | ⟨rest, ⟨a, hlt, ha⟩, h⟩
    · rw [h]
    · rw [ha]
      dsimp only
      rw [h]
  · next hne => exact absurd hs (hne r)

theorem arguments_fault_parens (hs : skipSpaces s = '(' :: r)
    (h : argument (skipBlanks r) = .fault f ∨
      ∃ rest, (argument (skipBlanks r)).Leaves rest ∧ moreArguments rest = .fault f) :
    arguments s = .fault f := by
  have hparens : argumentsInParens (skipBlanks r) = .fault f := by
    rw [argumentsInParens]
    rcases h with h | ⟨rest, ⟨a, hlt, ha⟩, h⟩
    · rw [h]
    · rw [ha]
      dsimp only
      rw [h]
  unfold arguments
  split
  · next r' hr' =>
    obtain rfl := (List.cons.inj (hs.symm.trans hr')).2
    rw [hparens]
  · next hne => exact absurd hs (hne r)

theorem arguments_fault_bare (hs : ∀ r, skipSpaces s ≠ '(' :: r) (hspace : startsWithSpace s = true)
    (h : argument (skipSpaces s) = .fault f ∨
      ∃ rest, (argument (skipSpaces s)).Leaves rest ∧ moreBareArguments rest = .fault f) :
    arguments s = .fault f := by
  rw [Written.arguments_of_no_paren hs, bareArguments, if_pos hspace]
  rcases h with h | ⟨rest, ⟨a, hlt, ha⟩, h⟩
  · rw [h]
  · rw [ha]
    dsimp only
    rw [h]

theorem element_fault {afterName : List Char} (hname : (name s).Leaves afterName)
    (h : arguments afterName = .fault f ∨
      ∃ afterArgs inside, (arguments afterName).Leaves afterArgs ∧ afterOpening? afterArgs = some inside ∧
        elements total (skipBlanks inside) = .fault f) :
    element total s = .fault f := by
  obtain ⟨key, hlt, hname⟩ := hname
  rw [element, hname]
  dsimp only
  rcases h with h | ⟨afterArgs, inside, ⟨as, hle, has⟩, hopen, h⟩
  · rw [h]
  · rw [has]
    dsimp only
    split
    · next inside' hinside =>
      obtain rfl := Option.some.inj (hopen.symm.trans hinside)
      rw [h]
    · next hnone =>
      rw [hopen] at hnone
      nomatch hnone

theorem elements_fault (h : element total s = .fault f ∨
    ∃ rest, (element total s).Leaves rest ∧ elements total (skipBlanks rest) = .fault f) :
    elements total s = .fault f := by
  rw [elements]
  rcases h with h | ⟨rest, ⟨e, hlt, he⟩, h⟩
  · rw [h]
  · rw [he]
    dsimp only
    rw [h]

/-! ### What a text is read up to -/

inductive Call
  | elements (s : List Char)
  | element (s : List Char)
  | arguments (s : List Char)
  | moreArguments (s : List Char)
  | moreBareArguments (s : List Char)
  | argument (s : List Char)
  | literal (s : List Char)
  | moreItems (s : List Char)

/-- The reader ends in the fault. -/
def Call.Faults (total : Nat) (f : Fault) : Call → Prop
  | .elements s => Source.elements total s = .fault f
  | .element s => Source.element total s = .fault f
  | .arguments s => Source.arguments s = .fault f
  | .moreArguments s => Source.moreArguments s = .fault f
  | .moreBareArguments s => Source.moreBareArguments s = .fault f
  | .argument s => Source.argument s = .fault f
  | .literal s => Source.literal s = .fault f
  | .moreItems s => Source.moreItems s = .fault f

/-- The readers that a reader tries, in a text with `total` line feeds. -/
inductive Tries (total : Nat) : Call → Call → Prop
  | element (s : List Char) : Tries total (.elements s) (.element s)
  | nextElements {s rest : List Char} (h : (element total s).Leaves rest) :
      Tries total (.elements s) (.elements (skipBlanks rest))
  | arguments {s rest : List Char} (h : (name s).Leaves rest) : Tries total (.element s) (.arguments rest)
  | block {s afterName afterArgs inside : List Char} (hname : (name s).Leaves afterName)
      (hargs : (arguments afterName).Leaves afterArgs) (hopen : afterOpening? afterArgs = some inside) :
      Tries total (.element s) (.elements (skipBlanks inside))
  | inParens {s r : List Char} (hs : skipSpaces s = '(' :: r) :
      Tries total (.arguments s) (.argument (skipBlanks r))
  | moreInParens {s r rest : List Char} (hs : skipSpaces s = '(' :: r)
      (h : (argument (skipBlanks r)).Leaves rest) : Tries total (.arguments s) (.moreArguments rest)
  | bare {s : List Char} (hs : ∀ r, skipSpaces s ≠ '(' :: r) (hspace : startsWithSpace s = true) :
      Tries total (.arguments s) (.argument (skipSpaces s))
  | moreBare {s rest : List Char} (hs : ∀ r, skipSpaces s ≠ '(' :: r) (hspace : startsWithSpace s = true)
      (h : (argument (skipSpaces s)).Leaves rest) : Tries total (.arguments s) (.moreBareArguments rest)
  | nextInParens {s r : List Char} (hs : skipBlanks s = ',' :: r) :
      Tries total (.moreArguments s) (.argument (skipBlanks r))
  | laterInParens {s r rest : List Char} (hs : skipBlanks s = ',' :: r)
      (h : (argument (skipBlanks r)).Leaves rest) : Tries total (.moreArguments s) (.moreArguments rest)
  | nextBare {s r : List Char} (hs : skipSpaces s = ',' :: r) :
      Tries total (.moreBareArguments s) (.argument (skipBlanks r))
  | laterBare {s r rest : List Char} (hs : skipSpaces s = ',' :: r)
      (h : (argument (skipBlanks r)).Leaves rest) :
      Tries total (.moreBareArguments s) (.moreBareArguments rest)
  | named {s afterName r : List Char} (hname : (name s).Leaves afterName)
      (hcolon : skipSpaces afterName = ':' :: r) : Tries total (.argument s) (.literal (skipBlanks r))
  | positional {s : List Char} (h : namedArgument s = .absent) : Tries total (.argument s) (.literal s)
  | item (r : List Char) : Tries total (.literal ('[' :: r)) (.literal (skipBlanks r))
  | moreItems {r rest : List Char} (h : (literal (skipBlanks r)).Leaves rest) :
      Tries total (.literal ('[' :: r)) (.moreItems rest)
  | nextItem {s r : List Char} (hs : skipBlanks s = ',' :: r) :
      Tries total (.moreItems s) (.literal (skipBlanks r))
  | laterItems {s r rest : List Char} (hs : skipBlanks s = ',' :: r)
      (h : (literal (skipBlanks r)).Leaves rest) : Tries total (.moreItems s) (.moreItems rest)

/-- Reading comes from one reader to the other. -/
abbrev Comes (total : Nat) : Call → Call → Prop := Relation.ReflTransGen (Tries total)

theorem faults_of_tries {a b : Call} (h : Tries total a b) (hb : b.Faults total f) :
    a.Faults total f := by
  cases h with
  | element => exact elements_fault (.inl hb)
  | nextElements h => exact elements_fault (.inr ⟨_, h, hb⟩)
  | arguments h => exact element_fault h (.inl hb)
  | block hname hargs hopen => exact element_fault hname (.inr ⟨_, _, hargs, hopen, hb⟩)
  | inParens hs => exact arguments_fault_parens hs (.inl hb)
  | moreInParens hs h => exact arguments_fault_parens hs (.inr ⟨_, h, hb⟩)
  | bare hs hspace => exact arguments_fault_bare hs hspace (.inl hb)
  | moreBare hs hspace h => exact arguments_fault_bare hs hspace (.inr ⟨_, h, hb⟩)
  | nextInParens hs => exact moreArguments_fault hs (.inl hb)
  | laterInParens hs h => exact moreArguments_fault hs (.inr ⟨_, h, hb⟩)
  | nextBare hs => exact moreBareArguments_fault hs (.inl hb)
  | laterBare hs h => exact moreBareArguments_fault hs (.inr ⟨_, h, hb⟩)
  | named hname hcolon => exact argument_fault_named hname hcolon hb
  | positional h => exact argument_fault_positional h hb
  | item => exact literal_fault (.inl hb)
  | moreItems h => exact literal_fault (.inr ⟨_, h, hb⟩)
  | nextItem hs => exact moreItems_fault hs (.inl hb)
  | laterItems hs h => exact moreItems_fault hs (.inr ⟨_, h, hb⟩)

theorem faults_of_comes {a b : Call} (h : Comes total a b) (hb : b.Faults total f) :
    a.Faults total f := by
  induction h using Relation.ReflTransGen.head_induction_on with
  | refl => exact hb
  | head hstep _ ih => exact faults_of_tries hstep ih

end Changelog.Source
