import Changelog.Proofs.Property.Expansion
import Changelog.Proofs.Text.Runs
import Mathlib.Data.List.TakeWhile

/-!
# Tokens in a text

A text is made of chunks with tokens between them.  Expansion puts a value in the place of each token and
leaves the chunks as they are.  What a value spells, by itself or together with the chunks beside it, is not
looked at again.
-/

namespace Changelog

namespace Expansion

/-- What can stand between the braces of a token. -/
def IsName (name : List Char) : Prop := name ≠ [] ∧ '\x7d' ∉ name

instance (name : List Char) : Decidable (IsName name) := inferInstanceAs (Decidable (_ ∧ _))

section Chars

variable (value? : List Char → Option (List Char))

theorem expandChars_token {name : List Char} (h : IsName name) (rest : List Char) :
    expandChars value? (token name ++ rest) =
      (value? name).getD (token name) ++ expandChars value? rest := by
  obtain ⟨hsome, hclosed⟩ := h
  have hname : ∀ c ∈ name, (c != '\x7d') = true := by
    intro c hc
    have hne : c ≠ '\x7d' := fun heq => hclosed (heq ▸ hc)
    simpa using hne
  have hstop : ∀ c, ('\x7d' :: rest).head? = some c → (c != '\x7d') = false := by
    intro c hc
    obtain rfl : '\x7d' = c := Option.some.inj hc
    rfl
  obtain ⟨htake, hdrop⟩ := Text.takeWhile_append_of_head hname hstop
  have htext : token name ++ rest = '$' :: '\x7b' :: (name ++ '\x7d' :: rest) := by simp [token]
  rw [htext, expandChars]
  split
  · next c after hafter =>
    rw [hdrop] at hafter
    obtain ⟨-, rfl⟩ := List.cons.inj hafter
    rw [htake, if_neg hsome]
  · next hafter =>
    rw [hdrop] at hafter
    cases hafter

theorem expandChars_cons {c : Char} {rest : List Char} (h : c = '$' → rest.head? ≠ some '\x7b') :
    expandChars value? (c :: rest) = c :: expandChars value? rest := by
  rw [expandChars]
  intro inside hc hrest
  refine h hc ?_
  rw [hrest]
  rfl

theorem expandChars_chunk {chunk rest : List Char} (h : ¬['$', '\x7b'] <:+: chunk)
    (hrest : rest.head? ≠ some '\x7b') :
    expandChars value? (chunk ++ rest) = chunk ++ expandChars value? rest := by
  induction chunk with
  | nil => rfl
  | cons c chunk ih =>
    have hnext : c = '$' → (chunk ++ rest).head? ≠ some '\x7b' := by
      rintro rfl hhead
      cases chunk with
      | nil => exact hrest hhead
      | cons d chunk =>
        obtain rfl : d = '\x7b' := Option.some.inj hhead
        exact h ⟨[], chunk, rfl⟩
    rw [List.cons_append, expandChars_cons value? hnext, ih fun hinside => h (List.infix_cons hinside)]
    rfl

/-- No token stands in a text. -/
def TokenFree (s : List Char) : Prop := ∀ name, IsName name → ¬token name <:+: s

theorem TokenFree.tail {c : Char} {s : List Char} (h : TokenFree (c :: s)) : TokenFree s :=
  fun name hname hinside => h name hname (List.infix_cons hinside)

theorem expandChars_of_tokenFree {s : List Char} (h : TokenFree s) : expandChars value? s = s := by
  fun_induction expandChars value? s with
  | case1 => rfl
  | case2 inside name c after hdrop hname ih => rw [ih h.tail]
  | case3 inside name c after hdrop hname ih =>
    have hclosed : '\x7d' ∉ name := by
      intro hmem
      have hne := List.mem_takeWhile_imp hmem
      simp at hne
    have hsplit : inside = name ++ '\x7d' :: after := eq_append_of_dropWhile hdrop
    refine absurd ⟨[], after, ?_⟩ (h name ⟨hname, hclosed⟩)
    rw [hsplit]
    simp [token]
  | case4 inside hdrop ih => rw [ih h.tail]
  | case5 c rest _ ih => rw [ih h.tail]

end Chars

/-! ### Chunks with tokens between them -/

/-- A text as chunks in which no token begins and tokens between them, each with the chunk after it. -/
structure Template where
  start : List Char
  tokens : List (List Char × List Char)
  start_plain : ¬['$', '\x7b'] <:+: start
  isName : ∀ t ∈ tokens, IsName t.1
  plain : ∀ t ∈ tokens, ¬['$', '\x7b'] <:+: t.2

namespace Template

def text (t : Template) : List Char :=
  t.start ++ t.tokens.flatMap fun (name, chunk) => token name ++ chunk

/-- The chunks with the values of the names between them, or the tokens where a name has no value. -/
def filled (value? : String → Option String) (t : Template) : List Char :=
  t.start ++ t.tokens.flatMap fun (name, chunk) =>
    ((value? (String.ofList name)).map String.toList).getD (token name) ++ chunk

end Template

theorem expandChars_tokens (value? : List Char → Option (List Char)) {chunk : List Char}
    (hchunk : ¬['$', '\x7b'] <:+: chunk) {tokens : List (List Char × List Char)}
    (hnames : ∀ t ∈ tokens, IsName t.1) (hplain : ∀ t ∈ tokens, ¬['$', '\x7b'] <:+: t.2) :
    expandChars value? (chunk ++ tokens.flatMap fun (name, chunk) => token name ++ chunk) =
      chunk ++ tokens.flatMap fun (name, chunk) => (value? name).getD (token name) ++ chunk := by
  induction tokens generalizing chunk with
  | nil =>
    rw [List.flatMap_nil, List.flatMap_nil, List.append_nil]
    exact expandChars_of_not_infix hchunk
  | cons t tokens ih =>
    obtain ⟨name, next⟩ := t
    have hname : IsName name := hnames (name, next) (List.mem_cons_self ..)
    have hnext : ¬['$', '\x7b'] <:+: next := hplain (name, next) (List.mem_cons_self ..)
    have hrest := ih hnext (fun t ht => hnames t (List.mem_cons_of_mem _ ht))
      (fun t ht => hplain t (List.mem_cons_of_mem _ ht))
    have hdollar : ∀ more, (token name ++ more).head? ≠ some '\x7b' := by
      intro more hhead
      exact absurd (Option.some.inj hhead) (by decide)
    rw [List.flatMap_cons, List.flatMap_cons, List.append_assoc, List.append_assoc,
      expandChars_chunk value? hchunk (hdollar _), expandChars_token value? hname, hrest]

theorem expandText_template (value? : String → Option String) (t : Template) :
    expandText value? (String.ofList t.text) = String.ofList (t.filled value?) := by
  rw [expandText, String.toList_ofList]
  exact congrArg String.ofList (expandChars_tokens _ t.start_plain t.isName t.plain)

theorem expandText_of_tokenFree (value? : String → Option String) {s : String}
    (h : TokenFree s.toList) : expandText value? s = s := by
  rw [expandText, expandChars_of_tokenFree _ h, String.ofList_toList]

theorem mapStringsAll_eq_map (f : String → String) (items : List Value) :
    mapStringsAll f items = items.map (mapStrings f) := by
  induction items with
  | nil => rfl
  | cons v rest ih => rw [mapStringsAll, ih, List.map_cons]

end Expansion

namespace Value

/-- The members of a list; any other value has none. -/
def items : Value → List Value
  | .list items => items
  | _ => []

/-- The value that one comes to on the way given by places in lists. -/
def at? (v : Value) : List Nat → Option Value
  | [] => some v
  | i :: path => v.items[i]?.bind fun member => member.at? path

end Value

namespace Expander

variable (e : Expander)

theorem text_token {name value : String} (hname : Expansion.IsName name.toList)
    (hvalue : e.value? name = some value) {before : String} (hbefore : Expansion.Plain before)
    (after : String) :
    e.text (before ++ "$\x7b" ++ name ++ "\x7d" ++ after) = before ++ value ++ e.text after := by
  have hchars : (before ++ "$\x7b" ++ name ++ "\x7d" ++ after).toList =
      before.toList ++ (Expansion.token name.toList ++ after.toList) := by
    simp [Expansion.token]
  have hdollar : (Expansion.token name.toList ++ after.toList).head? ≠ some '\x7b' := by
    rw [Expansion.token, List.cons_append, List.cons_append, List.head?_cons]
    decide
  rw [text, Expansion.expandText, hchars, Expansion.expandChars_chunk _ hbefore hdollar,
    Expansion.expandChars_token _ hname, String.ofList_toList, hvalue]
  apply String.toList_inj.1
  simp [text, Expansion.expandText]

theorem value_list (items : List Value) : e.value (.list items) = .list (items.map e.value) := by
  rw [value, Expansion.mapStrings, Expansion.mapStringsAll_eq_map]
  rfl

theorem items_value (v : Value) : (e.value v).items = v.items.map e.value := by
  cases v with
  | list items =>
    rw [value_list]
    rfl
  | _ => rfl

theorem at?_value (v : Value) (path : List Nat) : (e.value v).at? path = (v.at? path).map e.value := by
  induction path generalizing v with
  | nil => rfl
  | cons i path ih =>
    rw [Value.at?, Value.at?, items_value, List.getElem?_map]
    cases v.items[i]? with
    | none => rfl
    | some member => exact ih member

end Expander

/-- Texts are expanded in one pass from left to right: the tokens between chunks give way to the values
that their names have, or stay if they have none, and a text without a token stays as it is.  In values
this happens to the strings at every depth of their lists, and in attributes to every value; nothing else
about them changes. -/
theorem Expander.text_of_template (table : PropertyTable) (document : String) (scope : Scope) :
    let e : Expander := ⟨table, document, scope⟩
    (∀ t : Expansion.Template, e.text (String.ofList t.text) =
      String.ofList (t.filled fun name => table.lookup name document scope)) ∧
    (∀ s : String, Expansion.TokenFree s.toList → e.text s = s) ∧
    (∀ (v : Value) (path : List Nat),
      match v.at? path with
      | none => (e.value v).at? path = none
      | some (.string s) => (e.value v).at? path = some (.string (e.text s))
      | some (.list items) =>
        ∃ members, (e.value v).at? path = some (.list members) ∧ members.length = items.length
      | some other => (e.value v).at? path = some other) ∧
    ∀ a : Attributes, (e.attributes a).keys = a.keys ∧
      ∀ key, (e.attributes a).get? key = (a.get? key).map e.value := by
  intro e
  refine ⟨Expansion.expandText_template _, fun s => Expansion.expandText_of_tokenFree _,
    fun v path => ?_, fun a => ⟨Attributes.keys_mapValues e.value a, e.get?_attributes a⟩⟩
  rw [e.at?_value]
  cases hplace : v.at? path with
  | none => rfl
  | some member =>
    cases member with
    | list items => exact ⟨_, congrArg some (e.value_list items), List.length_map e.value⟩
    | _ => rfl

/-- A value that spells a token of its own, and another one with the chunk after it. -/
def spellingTable : PropertyTable where
  bindings := [
    ⟨"a", "$\x7bb\x7d$", none, none, none, true, "main"⟩,
    ⟨"b", "deep", none, none, none, true, "main"⟩]

def spellingTemplate : Expansion.Template where
  start := "cost $".toList
  tokens := [("a".toList, "\x7bb\x7d ".toList), ("n$\x7b\n".toList, "$".toList)]
  start_plain := by decide +kernel
  isName := by decide
  plain := by decide +kernel

theorem Expander.text_of_template_spelling :
    let e : Expander := ⟨spellingTable, "main", .any⟩
    e.text "cost $$\x7ba\x7d\x7bb\x7d $\x7bn$\x7b\n\x7d$" =
      "cost $$\x7bb\x7d$\x7bb\x7d $\x7bn$\x7b\n\x7d$" ∧
    e.text "$\x7bb $" = "$\x7bb $" ∧
    (e.value (.list [.list [.int 1, .string "$\x7bb\x7d"]])).at? [0, 1] = some (.string "deep") := by
  intro e
  obtain ⟨htemplate, hfree, hvalue, -⟩ := Expander.text_of_template spellingTable "main" .any
  have hopen : Expansion.TokenFree "$\x7bb $".toList := by
    intro name _ hinside
    have hclose : '\x7d' ∈ Expansion.token name := by simp [Expansion.token]
    exact absurd (hinside.subset hclose) (by decide)
  have hdeep : e.text "$\x7bb\x7d" = "deep" := by
    with_unfolding_all rfl
  refine ⟨(htemplate spellingTemplate).trans ?_, hfree _ hopen, ?_⟩
  · with_unfolding_all rfl
  · have hplace := hvalue (.list [.list [.int 1, .string "$\x7bb\x7d"]]) [0, 1]
    exact hplace.trans (congrArg (some <| Value.string ·) hdeep)

end Changelog
