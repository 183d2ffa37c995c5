import Changelog.Json.Basic
import Changelog.Text.CodePoints
import Changelog.Proofs.Text.Runs

/-!
# Telling JSON texts apart

The indented text of a value without floats says what the value is and where it ends, so two values
that are laid out alike are the same.
-/

namespace Changelog.Json

def letterChar (letter : Char) : Char :=
  if letter = 'n' then '\n'
  else if letter = 'r' then '\r'
  else if letter = 't' then '\t'
  else if letter = 'b' then Char.ofNat 8
  else if letter = 'f' then Char.ofNat 12
  else letter

def unescaped? : List Char → Option (Char × List Char)
  | '\\' :: 'u' :: '0' :: '0' :: a :: b :: rest => some (Char.ofNat (Text.hexValue [a, b]), rest)
  | '\\' :: letter :: rest => some (letterChar letter, rest)
  | c :: rest => some (c, rest)
  | [] => none

theorem escapeLetter?_eq_some {c letter : Char} (h : escapeLetter? c = some letter) :
    letter ≠ 'u' ∧ letterChar letter = c := by
  unfold escapeLetter? at h
  split_ifs at h with h1 h2 h3 h4 h5 h6 h7 <;> cases h <;> subst_vars <;> decide

theorem hexDigits_control :
    ∀ n < 0x20, Char.ofNat (Text.hexValue [hexDigit (n / 16), hexDigit (n % 16)]) = Char.ofNat n := by
  decide

theorem unescaped?_escapeChar (c : Char) (rest : List Char) :
    unescaped? (escapeChar c ++ rest) = some (c, rest) := by
  unfold escapeChar
  split
  · next letter h =>
    obtain ⟨hu, hc⟩ := escapeLetter?_eq_some h
    show unescaped? ('\\' :: letter :: rest) = _
    rw [unescaped?, hc]
    intro a b rest' heq
    exact absurd heq hu
  · next h =>
    split
    · next hcontrol =>
      show some (Char.ofNat (Text.hexValue [hexDigit (c.toNat / 16), hexDigit (c.toNat % 16)]), rest) = _
      rw [hexDigits_control c.toNat hcontrol, Char.ofNat_toNat]
    · have hne : c ≠ '\\' := by
        rintro rfl
        exact absurd h (by decide)
      show unescaped? (c :: rest) = _
      rw [unescaped?]
      · intro a b rest' heq
        exact absurd heq hne
      · intro letter rest' heq
        exact absurd heq hne

theorem escapeChar_inj {c d : Char} {r r' : List Char}
    (h : escapeChar c ++ r = escapeChar d ++ r') : c = d ∧ r = r' := by
  have hread := congrArg unescaped? h
  rw [unescaped?_escapeChar, unescaped?_escapeChar, Option.some.injEq, Prod.mk.injEq] at hread
  exact hread

theorem escapeChar_ne_quote (c : Char) (r r' : List Char) : escapeChar c ++ r ≠ '"' :: r' := by
  intro h
  have hread := unescaped?_escapeChar c r
  rw [h] at hread
  obtain ⟨rfl, -⟩ : '"' = c ∧ r' = r := by simpa [unescaped?] using hread
  exact absurd h (by simp [escapeChar, escapeLetter?])

theorem escape_inj {s t r r' : List Char} (h : escape s ++ '"' :: r = escape t ++ '"' :: r') :
    s = t ∧ r = r' := by
  induction s generalizing t with
  | nil =>
    cases t with
    | nil => exact ⟨rfl, (List.cons.inj h).2⟩
    | cons d t =>
      rw [escape_cons, List.append_assoc] at h
      exact absurd h.symm (escapeChar_ne_quote d _ _)
  | cons c s ih =>
    cases t with
    | nil =>
      rw [escape_cons, List.append_assoc] at h
      exact absurd h (escapeChar_ne_quote c _ _)
    | cons d t =>
      rw [escape_cons, escape_cons, List.append_assoc, List.append_assoc] at h
      obtain ⟨rfl, htail⟩ := escapeChar_inj h
      obtain ⟨rfl, hrest⟩ := ih htail
      exact ⟨rfl, hrest⟩

theorem quote_inj {s t : String} {r r' : List Char}
    (h : quote s.toList ++ r = quote t.toList ++ r') : s = t ∧ r = r' := by
  simp only [quote, List.cons_append, List.append_assoc, List.nil_append, List.cons.injEq,
    true_and] at h
  obtain ⟨hst, hr⟩ := escape_inj h
  exact ⟨String.toList_injective hst, hr⟩

/-! ### Numbers -/

def isNumeral (c : Char) : Bool := c.isDigit || c == '-'

theorem toDigits_injective {m n : Nat} (h : Nat.toDigits 10 m = Nat.toDigits 10 n) : m = n := by
  have hvalue := congrArg (Nat.ofDigitChars 10 · 0) h
  simpa only [Nat.ofDigitChars_ten_toDigits] using hvalue

theorem isDigit_of_mem {n : Nat} {c : Char} (h : c ∈ Nat.toDigits 10 n) : c.isDigit = true :=
  Nat.isDigit_of_mem_toDigits (by decide) (by decide) h

theorem toList_int (i : Int) : (toString i).toList =
    if 0 ≤ i then Nat.toDigits 10 i.toNat else '-' :: Nat.toDigits 10 (-i).toNat := by
  rw [Int.toString_eq_repr, Int.repr_eq_if]
  split
  · rw [Nat.repr_eq_ofList_toDigits, String.toList_ofList]
  · rw [String.toList_append, Nat.repr_eq_ofList_toDigits, String.toList_ofList,
      String.toList_ofList]
    rfl

theorem isNumeral_of_mem {i : Int} {c : Char} (h : c ∈ (toString i).toList) :
    isNumeral c = true := by
  rw [isNumeral, Bool.or_eq_true, beq_iff_eq]
  rw [toList_int] at h
  split at h
  · exact Or.inl (isDigit_of_mem h)
  · rcases List.mem_cons.1 h with rfl | h
    · exact Or.inr rfl
    · exact Or.inl (isDigit_of_mem h)

theorem toDigits_ne_minus (m n : Nat) : Nat.toDigits 10 m ≠ '-' :: Nat.toDigits 10 n := by
  intro h
  have hdigit := isDigit_of_mem (h ▸ List.mem_cons_self .. : '-' ∈ Nat.toDigits 10 m)
  exact absurd hdigit (by decide)

theorem toList_int_injective {i j : Int} (h : (toString i).toList = (toString j).toList) : i = j := by
  rw [toList_int, toList_int] at h
  split at h <;> split at h
  · have := toDigits_injective h
    omega
  · exact absurd h (toDigits_ne_minus _ _)
  · exact absurd h.symm (toDigits_ne_minus _ _)
  · have := toDigits_injective (List.cons.inj h).2
    omega

/-- What stands after a value: the text ends, or a comma or a line feed follows. -/
def Ends (rest : List Char) : Prop := ∀ c, rest.head? = some c → c = ',' ∨ c = '\n'

theorem Ends.isNumeral {rest : List Char} (h : Ends rest) (c : Char) (hc : rest.head? = some c) :
    isNumeral c = false := by
  rcases h c hc with rfl | rfl <;> decide

theorem int_inj {i j : Int} {r r' : List Char} (hr : Ends r) (hr' : Ends r')
    (h : (toString i).toList ++ r = (toString j).toList ++ r') : i = j ∧ r = r' := by
  obtain ⟨hij, hrest⟩ := Text.run_append_inj (fun _ => isNumeral_of_mem)
    (fun _ => isNumeral_of_mem) hr.isNumeral hr'.isNumeral h
  exact ⟨toList_int_injective hij, hrest⟩

/-! ### Items apart by commas -/

def following (depth : Nat) (last : Char) : List (List Char) → List Char
  | [] => newLine depth ++ [last]
  | text :: texts => ',' :: newLine (depth + 1) ++ text ++ following depth last texts

theorem intercalate_following (depth : Nat) (last : Char) (text : List Char)
    (texts : List (List Char)) :
    (',' :: newLine (depth + 1)).intercalate (text :: texts) ++ (newLine depth ++ [last]) =
      text ++ following depth last texts := by
  induction texts generalizing text with
  | nil => simp [following]
  | cons t texts ih =>
    rw [List.intercalate_cons_cons, following, List.append_assoc, List.append_assoc, ih]
    simp only [List.append_assoc]

theorem indented_cons (depth : Nat) (first last : Char) (text : List Char)
    (texts : List (List Char)) :
    indented depth first last (text :: texts) =
      first :: (newLine (depth + 1) ++ (text ++ following depth last texts)) := by
  rw [← intercalate_following]
  simp only [indented, List.cons_append, List.append_assoc]

theorem ends_following (depth : Nat) (last : Char) (texts : List (List Char)) (rest : List Char) :
    Ends (following depth last texts ++ rest) := by
  intro c hc
  cases texts with
  | nil => exact Or.inr (Option.some.inj hc).symm
  | cons text texts => exact Or.inl (Option.some.inj hc).symm

section Items

variable {α : Type} {text : α → List Char} {depth : Nat} {first last : Char} {P : α → Prop}

/-- The text of `x` says that it is `x`, among all that have the property, and where it ends. -/
def Apart (text : α → List Char) (P : α → Prop) (x : α) : Prop :=
  ∀ y, P y → ∀ r r', Ends r → Ends r' → text x ++ r = text y ++ r' → x = y ∧ r = r'

theorem following_inj {xs ys : List α} (hxs : ∀ x ∈ xs, Apart text P x) (hys : ∀ y ∈ ys, P y)
    {r r' : List Char} (h : following depth last (xs.map text) ++ r =
      following depth last (ys.map text) ++ r') : xs = ys ∧ r = r' := by
  induction xs generalizing ys with
  | nil =>
    cases ys with
    | nil =>
      simp only [List.map_nil, following, List.append_assoc] at h
      exact ⟨rfl, (List.cons.inj (List.append_cancel_left h)).2⟩
    | cons y ys => exact absurd (List.cons.inj h).1 (by decide)
  | cons x xs ih =>
    cases ys with
    | nil => exact absurd (List.cons.inj h).1 (by decide)
    | cons y ys =>
      simp only [List.map_cons, following, List.cons_append, List.append_assoc] at h
      have htext := List.append_cancel_left (List.cons.inj h).2
      obtain ⟨rfl, hrest⟩ := hxs x (List.mem_cons_self ..) y (hys y (List.mem_cons_self ..)) _ _
        (ends_following depth last _ r) (ends_following depth last _ r') htext
      obtain ⟨rfl, hr⟩ := ih (fun x hx => hxs x (List.mem_cons_of_mem _ hx))
        (fun y hy => hys y (List.mem_cons_of_mem _ hy)) hrest
      exact ⟨rfl, hr⟩

theorem indented_inj (hlast : last ≠ '\n') {xs ys : List α} (hxs : ∀ x ∈ xs, Apart text P x)
    (hys : ∀ y ∈ ys, P y) {r r' : List Char} (h : indented depth first last (xs.map text) ++ r =
      indented depth first last (ys.map text) ++ r') : xs = ys ∧ r = r' := by
  cases xs with
  | nil =>
    cases ys with
    | nil => exact ⟨rfl, (List.cons.inj (List.cons.inj h).2).2⟩
    | cons y ys =>
      rw [List.map_cons, indented_cons] at h
      exact absurd (List.cons.inj (List.cons.inj h).2).1 hlast
  | cons x xs =>
    cases ys with
    | nil =>
      rw [List.map_cons, indented_cons] at h
      exact absurd (List.cons.inj (List.cons.inj h).2).1.symm hlast
    | cons y ys =>
      simp only [List.map_cons, indented_cons, List.cons_append, List.append_assoc] at h
      have htext := List.append_cancel_left (List.cons.inj h).2
      obtain ⟨rfl, hrest⟩ := hxs x (List.mem_cons_self ..) y (hys y (List.mem_cons_self ..)) _ _
        (ends_following depth last _ r) (ends_following depth last _ r') htext
      obtain ⟨rfl, hr⟩ := following_inj (fun x hx => hxs x (List.mem_cons_of_mem _ hx))
        (fun y hy => hys y (List.mem_cons_of_mem _ hy)) hrest
      exact ⟨rfl, hr⟩

end Items

/-! ### Values -/

mutual

def floatFree : Json → Bool
  | .float _ => false
  | .array items => floatFreeItems items
  | .object members => floatFreeMembers members
  | _ => true

def floatFreeItems : List Json → Bool
  | [] => true
  | v :: rest => floatFree v && floatFreeItems rest

def floatFreeMembers : List (String × Json) → Bool
  | [] => true
  | m :: rest => floatFree m.2 && floatFreeMembers rest

end

theorem floatFreeItems_eq (items : List Json) : floatFreeItems items = items.all floatFree := by
  induction items with
  | nil => rfl
  | cons v rest ih => rw [floatFreeItems, ih, List.all_cons]

theorem floatFreeMembers_eq (members : List (String × Json)) :
    floatFreeMembers members = members.all fun m => floatFree m.2 := by
  induction members with
  | nil => rfl
  | cons m rest ih => rw [floatFreeMembers, ih, List.all_cons]

theorem prettyItems_eq (depth : Nat) (items : List Json) :
    prettyItems depth items = items.map (prettyChars depth) := by
  induction items with
  | nil => rfl
  | cons v rest ih => rw [prettyItems, ih, List.map_cons]

def memberText (depth : Nat) (m : String × Json) : List Char :=
  quote m.1.toList ++ ':' :: ' ' :: prettyChars depth m.2

theorem prettyMembers_eq (depth : Nat) (members : List (String × Json)) :
    prettyMembers depth members = members.map (memberText depth) := by
  induction members with
  | nil => rfl
  | cons m rest ih => rw [prettyMembers, ih, List.map_cons, memberText]

/-- The kinds of values; `true` and `false` are kinds of their own. -/
inductive Kind
  | null
  | bool (b : Bool)
  | int
  | float
  | string
  | array
  | object

def kind : Json → Kind
  | .null => .null
  | .bool b => .bool b
  | .int _ => .int
  | .float _ => .float
  | .string _ => .string
  | .array _ => .array
  | .object _ => .object

def kindOf (c : Char) : Kind :=
  if c = 'n' then .null
  else if c = 't' then .bool true
  else if c = 'f' then .bool false
  else if c = '"' then .string
  else if c = '[' then .array
  else if c = '\x7b' then .object
  else .int

theorem kindOf_numeral {c : Char} (h : isNumeral c = true) : kindOf c = .int := by
  have hall : ∀ d ∈ ['n', 't', 'f', '"', '[', '\x7b'], isNumeral d = false :=
    Text.forall_mem_of_all (by decide)
  have hne : ∀ d ∈ ['n', 't', 'f', '"', '[', '\x7b'], c ≠ d := by
    rintro d hd rfl
    exact Bool.false_ne_true ((hall c hd).symm.trans h)
  simp only [List.forall_mem_cons, List.not_mem_nil, false_imp_iff, implies_true, and_true] at hne
  obtain ⟨h1, h2, h3, h4, h5, h6⟩ := hne
  rw [kindOf, if_neg h1, if_neg h2, if_neg h3, if_neg h4, if_neg h5, if_neg h6]

theorem head?_indented (depth : Nat) (first last : Char) (texts : List (List Char)) :
    (indented depth first last texts).head? = some first := by
  cases texts with
  | nil => rfl
  | cons text texts => rw [indented_cons, List.head?_cons]

/-- The first character of a text tells the kind of its value. -/
theorem head?_prettyChars {v : Json} (h : v.floatFree = true) (depth : Nat) :
    ∃ c, (prettyChars depth v).head? = some c ∧ kindOf c = v.kind := by
  cases v with
  | null => exact ⟨'n', rfl, rfl⟩
  | bool b =>
    cases b
    · exact ⟨'f', rfl, rfl⟩
    · exact ⟨'t', rfl, rfl⟩
  | int i =>
    cases htext : (toString i).toList with
    | nil =>
      rw [toList_int] at htext
      split at htext
      · exact absurd htext Nat.toDigits_ne_nil
      · cases htext
    | cons c more =>
      refine ⟨c, by rw [prettyChars, htext, List.head?_cons], kindOf_numeral ?_⟩
      exact isNumeral_of_mem (htext ▸ List.mem_cons_self ..)
  | float x => cases h
  | string s => exact ⟨'"', rfl, rfl⟩
  | array items => exact ⟨'[', head?_indented _ _ _ _, rfl⟩
  | object members => exact ⟨'\x7b', head?_indented _ _ _ _, rfl⟩

theorem kind_eq_of_text {v w : Json} (hv : v.floatFree = true) (hw : w.floatFree = true)
    {depth : Nat} {r r' : List Char} (h : prettyChars depth v ++ r = prettyChars depth w ++ r') :
    v.kind = w.kind := by
  obtain ⟨c, hc, hcv⟩ := head?_prettyChars hv depth
  obtain ⟨d, hd, hdw⟩ := head?_prettyChars hw depth
  have hhead := congrArg List.head? h
  rw [List.head?_append, List.head?_append, hc, hd] at hhead
  obtain rfl : c = d := Option.some.inj hhead
  rw [← hcv, hdw]

theorem apart_member {depth : Nat} {m : String × Json}
    (h : Apart (prettyChars depth) (fun v => v.floatFree = true) m.2) :
    Apart (memberText depth) (fun m => m.2.floatFree = true) m := by
  intro n hn r r' hr hr' heq
  simp only [memberText, List.append_assoc, List.cons_append] at heq
  obtain ⟨hkey, htext⟩ := quote_inj heq
  obtain ⟨hvalue, hrest⟩ := h n.2 hn r r' hr hr' (List.cons.inj (List.cons.inj htext).2).2
  exact ⟨Prod.ext hkey hvalue, hrest⟩

mutual

theorem apart_value (v : Json) (hv : v.floatFree = true) (depth : Nat) :
    Apart (prettyChars depth) (fun w => w.floatFree = true) v := by
  intro w hw r r' hr hr' h
  have hkind := kind_eq_of_text hv hw h
  -- The first characters agree, so only values of one kind are left to compare.
  cases v with
  | null =>
    cases w with
    | null => exact ⟨rfl, List.append_cancel_left h⟩
    | _ => cases hkind
  | bool b =>
    cases w with
    | bool b' =>
      cases hkind
      exact ⟨rfl, List.append_cancel_left h⟩
    | _ => cases hkind
  | int i =>
    cases w with
    | int j =>
      obtain ⟨rfl, hrest⟩ := int_inj hr hr' h
      exact ⟨rfl, hrest⟩
    | _ => cases hkind
  | float x => cases hv
  | string s =>
    cases w with
    | string t =>
      obtain ⟨rfl, hrest⟩ := quote_inj h
      exact ⟨rfl, hrest⟩
    | _ => cases hkind
  | array items =>
    cases w with
    | array items' =>
      simp only [prettyChars, prettyItems_eq] at h
      obtain ⟨rfl, hrest⟩ := indented_inj (by decide) (apart_items items hv (depth + 1))
        (List.all_eq_true.1 (floatFreeItems_eq items' ▸ hw)) h
      exact ⟨rfl, hrest⟩
    | _ => cases hkind
  | object members =>
    cases w with
    | object members' =>
      simp only [prettyChars, prettyMembers_eq] at h
      obtain ⟨rfl, hrest⟩ := indented_inj (by decide) (apart_members members hv (depth + 1))
        (List.all_eq_true.1 (floatFreeMembers_eq members' ▸ hw)) h
      exact ⟨rfl, hrest⟩
    | _ => cases hkind

theorem apart_items (items : List Json) (hitems : floatFreeItems items = true) (depth : Nat) :
    ∀ v ∈ items, Apart (prettyChars depth) (fun w => w.floatFree = true) v := by
  intro v hv
  cases items with
  | nil => nomatch hv
  | cons w rest =>
    rw [floatFreeItems, Bool.and_eq_true] at hitems
    have hfirst := apart_value w hitems.1 depth
    rcases List.mem_cons.1 hv with rfl | hv
    · exact hfirst
    · exact apart_items rest hitems.2 depth v hv

theorem apart_members (members : List (String × Json)) (hmembers : floatFreeMembers members = true)
    (depth : Nat) :
    ∀ m ∈ members, Apart (memberText depth) (fun m => m.2.floatFree = true) m := by
  intro m hm
  cases members with
  | nil => nomatch hm
  | cons n rest =>
    obtain ⟨key, v⟩ := n
    rw [floatFreeMembers, Bool.and_eq_true] at hmembers
    have hfirst := apart_member (m := (key, v)) (apart_value v hmembers.1 depth)
    rcases List.mem_cons.1 hm with rfl | hm
    · exact hfirst
    · exact apart_members rest hmembers.2 depth m hm

end

theorem pretty_inj {v w : Json} (hv : v.floatFree = true) (hw : w.floatFree = true)
    (h : v.pretty = w.pretty) : v = w := by
  have hend : Ends [] := fun c hc => nomatch hc
  have htext : v.prettyChars 0 ++ [] = w.prettyChars 0 ++ [] := by
    rw [List.append_nil, List.append_nil]
    exact String.ofList_injective h
  exact (apart_value v hv 0 w hw [] [] hend hend htext).1

end Changelog.Json
