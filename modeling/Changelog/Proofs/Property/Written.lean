import Changelog.Proofs.Property.Spelling
import Changelog.Proofs.Text.Lines
import Changelog.Proofs.Value.Attributes

/-!
# Written property files

A property file is written line by line: entries, with comments and blank lines between them.  However
the keys and values are spelled and set apart, reading the text gives the entries again.
-/

namespace Changelog.PropertyFile

open Spelled (texts chars texts_cons)

def isGap (c : Char) : Bool := c == ' ' || c == '\t'

def signChar (colon : Bool) : Char := if colon then ':' else '='

/-- What sets a value apart from its key: a sign with a gap on either side, or just a gap. -/
inductive Separator : List Char → Prop
  | sign {before after : List Char} (colon : Bool) (hbefore : ∀ c ∈ before, isGap c = true)
      (hafter : ∀ c ∈ after, isGap c = true) : Separator (before ++ signChar colon :: after)
  | gap {blanks : List Char} (hblanks : ∀ c ∈ blanks, isGap c = true) (hsome : blanks ≠ []) :
      Separator blanks

/-- An entry in one line.  Only a sign sets a value apart from an empty key. -/
structure WrittenEntry where
  indent : List Char
  key : List Spelled
  separator : List Char
  value : List Spelled
  indent_gap : ∀ c ∈ indent, isGap c = true
  separates : Separator separator
  sign_of_empty : key = [] → ∃ c ∈ separator, isGap c = false
  key_plain : ∀ x ∈ key, ∀ c, x.plain? = some c → endsKey c = false
  key_head : ∀ x, key.head? = some x → ∀ c, x.plain? = some c → c ≠ '#' ∧ c ≠ '!'
  value_head : ∀ x, value.head? = some x → ∀ c, x.plain? = some c → endsKey c = false

namespace WrittenEntry

def text (e : WrittenEntry) : List Char :=
  e.indent ++ (texts e.key ++ (e.separator ++ texts e.value))

def entry (e : WrittenEntry) : String × String :=
  (String.ofList (chars e.key), String.ofList (chars e.value))

end WrittenEntry

theorem oneLine_of_isGap {c : Char} (h : isGap c = true) : c ≠ '\n' ∧ c ≠ '\r' := by
  constructor <;> rintro rfl <;> exact absurd h (by decide)

theorem isBlank_of_isGap {c : Char} (h : isGap c = true) : Text.isBlank c = true := by
  simp only [isGap, Bool.or_eq_true, beq_iff_eq] at h
  rcases h with rfl | rfl <;> decide

theorem endsKey_of_isBlank {c : Char} (h : Text.isBlank c = true) : endsKey c = true := by
  simp [endsKey, h]

theorem isBlank_of_endsKey_false {c : Char} (h : endsKey c = false) : Text.isBlank c = false := by
  simp only [endsKey, Bool.or_eq_false_iff] at h
  exact h.2

/-- A text that can stand after a separator: no character of a separator is its first. -/
def Apart (s : List Char) : Prop := ∀ c, s.head? = some c → endsKey c = false

theorem Apart.trimStart {s : List Char} (h : Apart s) : Text.trimStart s = s :=
  Text.trimStart_of_head fun c hc => isBlank_of_endsKey_false (h c hc)

theorem Apart.dropSign {s : List Char} (h : Apart s) : dropSign s = s := by
  unfold PropertyFile.dropSign
  split
  · exact absurd (h '=' rfl) (by decide)
  · exact absurd (h ':' rfl) (by decide)
  · rfl

theorem isBlank_signChar (colon : Bool) : Text.isBlank (signChar colon) = false := by
  cases colon <;> decide

namespace Separator

variable {s : List Char}

theorem trimStart_sign {before : List Char} (hbefore : ∀ c ∈ before, isGap c = true) (colon : Bool)
    (rest : List Char) :
    Text.trimStart (before ++ signChar colon :: rest) = signChar colon :: rest :=
  (Text.trimStart_append (fun c hc => isBlank_of_isGap (hbefore c hc)) _).trans
    (Text.trimStart_of_head (by simp [isBlank_signChar]))

theorem trimStart (h : Separator s) (hsign : ∃ c ∈ s, isGap c = false) :
    Separator (Text.trimStart s) := by
  cases h with
  | sign colon hbefore hafter =>
    rw [trimStart_sign hbefore]
    exact @sign [] _ colon (by simp) hafter
  | gap hblanks hsome =>
    obtain ⟨c, hc, hgap⟩ := hsign
    exact absurd (hblanks c hc) (by simp [hgap])

theorem value (h : Separator s) {value : List Char} (hvalue : Apart value) :
    Text.trimStart (dropSign (Text.trimStart (s ++ value))) = value := by
  cases h with
  | sign colon hbefore hafter =>
    have hdrop : ∀ rest, dropSign (signChar colon :: rest) = rest := by cases colon <;> exact fun _ => rfl
    rw [List.append_assoc, List.cons_append, trimStart_sign hbefore, hdrop,
      Text.trimStart_append fun c hc => isBlank_of_isGap (hafter c hc), hvalue.trimStart]
  | gap hblanks hsome =>
    rw [Text.trimStart_append fun c hc => isBlank_of_isGap (hblanks c hc), hvalue.trimStart,
      hvalue.dropSign, hvalue.trimStart]

theorem isGap_or_signChar (h : Separator s) {c : Char} (hc : c ∈ s) :
    isGap c = true ∨ ∃ colon, c = signChar colon := by
  cases h with
  | sign colon hbefore hafter =>
    rcases List.mem_append.1 hc with hc | hc
    · exact Or.inl (hbefore c hc)
    · rcases List.mem_cons.1 hc with rfl | hc
      · exact Or.inr ⟨colon, rfl⟩
      · exact Or.inl (hafter c hc)
  | gap hblanks hsome => exact Or.inl (hblanks c hc)

theorem endsKey_of_mem (h : Separator s) {c : Char} (hc : c ∈ s) : endsKey c = true := by
  rcases h.isGap_or_signChar hc with hgap | ⟨colon, rfl⟩
  · exact endsKey_of_isBlank (isBlank_of_isGap hgap)
  · cases colon <;> decide

theorem oneLine (h : Separator s) : OneLine s := by
  intro c hc
  rcases h.isGap_or_signChar hc with hgap | ⟨colon, rfl⟩
  · exact oneLine_of_isGap hgap
  · cases colon <;> decide

theorem closed (h : Separator s) : Closed s :=
  Closed.of_forall fun c hc heq => absurd (h.endsKey_of_mem hc) (by rw [heq]; decide)

theorem ne_nil (h : Separator s) : s ≠ [] := by
  cases h with
  | sign colon hbefore hafter => simp
  | gap hblanks hsome => exact hsome

end Separator

theorem splitKey_plain {c : Char} (hc : c ≠ '\\') (hend : endsKey c = false) (rest : List Char) :
    splitKey (c :: rest) = (c :: (splitKey rest).1, (splitKey rest).2) := by
  rw [splitKey, if_neg (by simp [hend])]
  intro d rest' heq
  exact absurd heq hc

theorem splitKey_escaped (c : Char) (rest : List Char) :
    splitKey ('\\' :: c :: rest) = ('\\' :: c :: (splitKey rest).1, (splitKey rest).2) := by
  rw [splitKey]

theorem splitKey_run {run : List Char} (h : ∀ c ∈ run, c ≠ '\\' ∧ endsKey c = false)
    (rest : List Char) : splitKey (run ++ rest) = (run ++ (splitKey rest).1, (splitKey rest).2) := by
  induction run with
  | nil => rfl
  | cons c run ih =>
    obtain ⟨hc, hend⟩ := h c (by simp)
    rw [List.cons_append, splitKey_plain hc hend, ih fun d hd => h d (by simp [hd])]
    rfl

theorem splitKey_unitText (u : Nat) (capitals : Capitals) (rest : List Char) :
    splitKey (unitText u capitals ++ rest) =
      (unitText u capitals ++ (splitKey rest).1, (splitKey rest).2) := by
  have hdigit : ∀ upper : Bool, ∀ d < 16, hexChar upper d ≠ '\\' ∧ endsKey (hexChar upper d) = false := by
    decide
  have hdigits : ∀ c ∈ unitDigits u capitals, c ≠ '\\' ∧ endsKey c = false := by
    intro c hc
    simp only [unitDigits, List.mem_cons, List.not_mem_nil, or_false] at hc
    rcases hc with rfl | rfl | rfl | rfl <;> exact hdigit _ _ (Nat.mod_lt _ (by decide))
  show splitKey ('\\' :: 'u' :: (unitDigits u capitals ++ rest)) = _
  rw [splitKey_escaped, splitKey_run hdigits]
  rfl

theorem splitKey_text {x : Spelled} (hx : ∀ c, x.plain? = some c → endsKey c = false)
    (rest : List Char) :
    splitKey (x.text ++ rest) = (x.text ++ (splitKey rest).1, (splitKey rest).2) := by
  cases x with
  | plain c free => exact splitKey_plain free.1 (hx c rfl) rest
  | coded c first second =>
    obtain ⟨u, -, -, htext⟩ | ⟨u, -, v, -, -, htext⟩ := coded_text c first second
    · rw [htext, splitKey_unitText]
    · rw [htext, List.append_assoc, splitKey_unitText, splitKey_unitText, List.append_assoc]
  | _ => exact splitKey_escaped _ rest

theorem splitKey_texts {key : List Spelled}
    (hkey : ∀ x ∈ key, ∀ c, x.plain? = some c → endsKey c = false) (rest : List Char) :
    splitKey (texts key ++ rest) = (texts key ++ (splitKey rest).1, (splitKey rest).2) := by
  induction key with
  | nil => rfl
  | cons x key ih =>
    rw [texts_cons, List.append_assoc, splitKey_text (hkey x (by simp)),
      ih fun y hy => hkey y (by simp [hy]), List.append_assoc]

theorem splitKey_of_endsKey {c : Char} (h : endsKey c = true) (rest : List Char) :
    splitKey (c :: rest) = ([], c :: rest) := by
  rw [splitKey, if_pos h]
  rintro d rest' rfl
  exact absurd h (by decide)

/-! ### Reading an entry -/

namespace WrittenEntry

variable (e : WrittenEntry)

theorem apart_value : Apart (texts e.value) := by
  intro c hc
  rw [Spelled.head?_texts, Option.map_eq_some_iff] at hc
  obtain ⟨x, hx, rfl⟩ := hc
  cases hplain : x.plain? with
  | none => decide
  | some c => exact e.value_head x hx c hplain

/-- The separator without the blanks that are at the start of the line. -/
def lead : List Char := if e.key = [] then Text.trimStart e.separator else e.separator

def line : List Char := texts e.key ++ (e.lead ++ texts e.value)

theorem separator_lead : Separator e.lead := by
  unfold lead
  split
  · next hkey => exact e.separates.trimStart (e.sign_of_empty hkey)
  · exact e.separates

theorem trimStart_text : Text.trimStart e.text = e.line := by
  have hindent : ∀ c ∈ e.indent, Text.isBlank c = true := fun c hc =>
    isBlank_of_isGap (e.indent_gap c hc)
  have hlead := e.separator_lead.ne_nil
  rw [text, Text.trimStart_append hindent, line]
  unfold lead at hlead ⊢
  split
  · next hkey =>
    rw [if_pos hkey] at hlead
    rw [hkey]
    exact Text.trimStart_append_of_ne_nil hlead (texts e.value)
  · next hkey =>
    obtain ⟨x, key, hcons⟩ := List.exists_cons_of_ne_nil hkey
    refine Text.trimStart_of_head fun c hc => ?_
    rw [hcons, texts_cons, List.append_assoc, List.head?_append, x.head?_text] at hc
    obtain rfl : x.plain?.getD '\\' = c := by simpa using hc
    cases hplain : x.plain? with
    | none => decide
    | some d => exact isBlank_of_endsKey_false (e.key_plain x (by simp [hcons]) d hplain)

theorem endsKey_lead_head : ∃ c rest, e.lead = c :: rest ∧ endsKey c = true := by
  obtain ⟨c, rest, hlead⟩ := List.exists_cons_of_ne_nil e.separator_lead.ne_nil
  exact ⟨c, rest, hlead, e.separator_lead.endsKey_of_mem (by simp [hlead])⟩

theorem entryOf_line : entryOf e.line = e.entry := by
  obtain ⟨c, rest, hlead, hend⟩ := e.endsKey_lead_head
  have hsplit : splitKey e.line = (texts e.key, e.lead ++ texts e.value) := by
    rw [line, splitKey_texts e.key_plain, hlead, List.cons_append, splitKey_of_endsKey hend,
      List.append_nil]
  rw [entryOf, hsplit, e.separator_lead.value e.apart_value, unescape_texts, unescape_texts, entry]

theorem isIdle_line : isIdle e.line = false := by
  have hhead : ∀ c rest, c ≠ '#' ∧ c ≠ '!' → isIdle (c :: rest) = false := by
    intro c rest hc
    simp [isIdle, hc.1, hc.2]
  cases hkey : e.key with
  | nil =>
    obtain ⟨c, rest, hlead, hend⟩ := e.endsKey_lead_head
    have hc : c ≠ '#' ∧ c ≠ '!' := by
      constructor <;> rintro rfl <;> exact absurd hend (by decide)
    rw [line, hkey, hlead]
    exact hhead c _ hc
  | cons x key =>
    have hx : x.plain?.getD '\\' ≠ '#' ∧ x.plain?.getD '\\' ≠ '!' := by
      cases hplain : x.plain? with
      | none => decide
      | some d => exact e.key_head x (by simp [hkey]) d hplain
    have htext : x.text = x.plain?.getD '\\' :: x.text.tail :=
      (List.cons_head?_tail x.head?_text).symm
    rw [line, hkey, texts_cons, htext]
    exact hhead _ _ hx

theorem closed_line : Closed e.line :=
  (Spelled.closed_texts e.key).append
    (e.separator_lead.closed.append (Spelled.closed_texts e.value))

theorem oneLine_text : OneLine e.text := by
  have hindent : OneLine e.indent := fun c hc => oneLine_of_isGap (e.indent_gap c hc)
  exact hindent.append ((Spelled.oneLine_texts e.key).append
    (e.separates.oneLine.append (Spelled.oneLine_texts e.value)))

theorem readLines_text (entries : List (String × String)) (rest : List (List Char)) :
    readLines entries [] (e.text :: rest) = readLines (put entries e.entry) [] rest := by
  have hidle : ¬(([] : List Char) = [] ∧ isIdle e.line = true) := by simp [e.isIdle_line]
  rw [readLines, e.trimStart_text, if_neg hidle, continued?_of_closed e.closed_line,
    List.nil_append, e.entryOf_line]

end WrittenEntry

def IdleLine (raw : List Char) : Prop := isIdle (Text.trimStart raw) = true

theorem IdleLine.of_append {gap : List Char} (h : ∀ c ∈ gap, Text.isBlank c = true) {rest : List Char}
    (hrest : IdleLine rest) : IdleLine (gap ++ rest) := by
  rw [IdleLine, Text.trimStart_append h]
  exact hrest

theorem IdleLine.dropLast {raw : List Char} (h : IdleLine raw) : IdleLine raw.dropLast := by
  induction raw with
  | nil => exact h
  | cons c raw ih =>
    cases raw with
    | nil => rfl
    | cons d raw =>
      rw [List.dropLast_cons_cons]
      unfold IdleLine Text.trimStart at h ih ⊢
      rw [List.dropWhile_cons] at h ⊢
      split
      · next hc =>
        rw [if_pos hc] at h
        exact ih h
      · next hc =>
        rw [if_neg hc] at h
        exact h

theorem IdleLine.stripReturn {raw : List Char} (h : IdleLine raw) : IdleLine (Text.stripReturn raw) := by
  unfold Text.stripReturn
  split
  · exact h.dropLast
  · exact h

theorem IdleLine.readLines {raw : List Char} (h : IdleLine raw) (entries : List (String × String))
    (rest : List (List Char)) :
    readLines entries [] (raw :: rest) = PropertyFile.readLines entries [] rest := by
  rw [PropertyFile.readLines]
  exact if_pos ⟨rfl, h⟩

/-! ### Files as they are written -/

inductive WrittenLine
  | blank (text : List Char) (h : ∀ c ∈ text, Text.isBlank c = true ∧ c ≠ '\n')
  | comment (indent : List Char) (bang : Bool) (text : List Char)
      (hindent : ∀ c ∈ indent, Text.isBlank c = true ∧ c ≠ '\n') (htext : '\n' ∉ text)
  | entry (e : WrittenEntry)

namespace WrittenLine

def text : WrittenLine → List Char
  | blank text _ => text
  | comment indent bang text _ _ => indent ++ (if bang then '!' else '#') :: text
  | entry e => e.text

def pair? : WrittenLine → Option (String × String)
  | entry e => some e.entry
  | _ => none

end WrittenLine

/-- The end of a line: a line feed, with a carriage return before it or not. -/
inductive LineEnd
  | lineFeed
  | returnLineFeed

def LineEnd.returns : LineEnd → List Char
  | lineFeed => []
  | returnLineFeed => ['\r']

/-- A file: lines that have an end, and maybe one more. -/
structure WrittenFile where
  ended : List (WrittenLine × LineEnd)
  last : Option WrittenLine

namespace WrittenFile

def text (file : WrittenFile) : List Char :=
  file.ended.flatMap (fun line => line.1.text ++ line.2.returns ++ ['\n']) ++
    (file.last.map WrittenLine.text).getD []

def entries (file : WrittenFile) : List (String × String) :=
  (file.ended.map Prod.fst ++ file.last.toList).filterMap WrittenLine.pair?

end WrittenFile

/-- The entries of a file: each key once, where it is first written, with the value that is written
last. -/
def merged (entries : List (String × String)) : List (String × String) :=
  (entries.map Prod.fst).reverse.dedup.reverse.map fun key =>
    (key, (entries.reverse.lookup key).getD "")

/-! ### Reading a file -/

theorem put_map {keys : List String} (hkeys : keys.Nodup) (f : String → String)
    (e : String × String) :
    put (keys.map fun key => (key, f key)) e =
      (if e.1 ∈ keys then keys else keys ++ [e.1]).map fun key =>
        (key, if key = e.1 then e.2 else f key) := by
  induction keys with
  | nil => simp [put]
  | cons key keys ih =>
    obtain ⟨hnot, hkeys⟩ := List.nodup_cons.1 hkeys
    rw [List.map_cons, put]
    by_cases hkey : key = e.1
    · have hrest : (keys.map fun key => (key, f key)) =
          keys.map fun key => (key, if key = e.1 then e.2 else f key) := by
        refine List.map_congr_left fun other hother => ?_
        have hne : other ≠ e.1 := fun heq => hnot (hkey.trans heq.symm ▸ hother)
        rw [if_neg hne]
      simp [hkey, hrest]
    · rw [if_neg hkey, ih hkeys]
      by_cases hmem : e.1 ∈ keys
      · simp [hmem, hkey]
      · simp [hmem, hkey, Ne.symm hkey]

theorem merged_append_singleton (entries : List (String × String)) (e : String × String) :
    merged (entries ++ [e]) = put (merged entries) e := by
  have hnodup : (entries.map Prod.fst).reverse.dedup.reverse.Nodup :=
    List.nodup_reverse.2 (List.nodup_dedup _)
  have hlookup : ∀ key, ((entries ++ [e]).reverse.lookup key).getD "" =
      if key = e.1 then e.2 else (entries.reverse.lookup key).getD "" := by
    intro key
    rw [List.reverse_append, List.reverse_singleton, List.singleton_append, List.lookup_cons]
    by_cases hkey : key = e.1
    · simp [hkey]
    · simp [hkey, beq_eq_false_iff_ne.2 hkey]
  unfold merged
  rw [put_map hnodup, List.map_append, List.map_cons, List.map_nil,
    Attributes.reverse_dedup_append_singleton]
  simp only [List.mem_reverse, List.mem_dedup, hlookup]

theorem foldl_put_eq_merged (entries : List (String × String)) :
    entries.foldl put [] = merged entries := by
  induction entries using List.reverseRecOn with
  | nil => rfl
  | append_singleton entries e ih =>
    rw [List.foldl_append, ih, merged_append_singleton]
    rfl

theorem readLines_eq_foldl (entries : List (String × String)) (pending : List Char)
    (lines : List (List Char)) :
    ∃ written : List (String × String), readLines entries pending lines = written.foldl put entries := by
  induction lines generalizing entries pending with
  | nil =>
    rw [readLines]
    split
    · exact ⟨[], rfl⟩
    · exact ⟨[entryOf pending], rfl⟩
  | cons raw rest ih =>
    rw [readLines]
    split
    · exact ih entries []
    · split
      · next head _ => exact ih entries (pending ++ head)
      · obtain ⟨written, hwritten⟩ := ih (put entries (entryOf (pending ++ Text.trimStart raw))) []
        exact ⟨entryOf (pending ++ Text.trimStart raw) :: written, hwritten⟩

theorem nodup_read (text : String) : ((read text).map Prod.fst).Nodup := by
  obtain ⟨written, hwritten⟩ := readLines_eq_foldl [] [] (Text.lines text.toList)
  have hkeys : (merged written).map Prod.fst = (written.map Prod.fst).reverse.dedup.reverse := by
    rw [merged, List.map_map]
    exact List.map_id _
  rw [read, hwritten, foldl_put_eq_merged, hkeys]
  exact List.nodup_reverse.2 (List.nodup_dedup _)

namespace WrittenLine

variable (line : WrittenLine)

theorem not_mem_text : '\n' ∉ line.text := by
  cases line with
  | blank text h => exact fun hc => (h _ hc).2 rfl
  | comment indent bang text hindent htext =>
    intro hc
    rcases List.mem_append.1 hc with hc | hc
    · exact (hindent _ hc).2 rfl
    · rcases List.mem_cons.1 hc with hc | hc
      · cases bang <;> exact absurd hc (by decide)
      · exact htext hc
  | entry e => exact fun hc => (e.oneLine_text _ hc).1 rfl

theorem idle_of_pair?_eq_none (h : line.pair? = none) (ending : LineEnd) :
    IdleLine (line.text ++ ending.returns) := by
  have hreturns : ∀ c ∈ ending.returns, Text.isBlank c = true := by
    cases ending <;> exact Text.forall_mem_of_all (by decide)
  cases line with
  | blank text hblank =>
    have hreturn : IdleLine ending.returns := by cases ending <;> rfl
    exact IdleLine.of_append (fun c hc => (hblank c hc).1) hreturn
  | comment indent bang text hindent htext =>
    show IdleLine ((indent ++ (if bang then '!' else '#') :: text) ++ ending.returns)
    rw [List.append_assoc]
    refine IdleLine.of_append (fun c hc => (hindent c hc).1) ?_
    cases bang <;> rfl
  | entry e => cases h

theorem readLines_stripReturn (ending : LineEnd) (entries : List (String × String))
    (rest : List (List Char)) :
    readLines entries [] (Text.stripReturn (line.text ++ ending.returns) :: rest) =
      readLines (line.pair?.toList.foldl put entries) [] rest := by
  cases hentry : line.pair? with
  | none => exact (line.idle_of_pair?_eq_none hentry ending).stripReturn.readLines entries rest
  | some entry =>
    cases line with
    | entry e =>
      obtain rfl : e.entry = entry := by simpa [pair?] using hentry
      have hstrip : Text.stripReturn (e.text ++ ending.returns) = e.text := by
        cases ending with
        | lineFeed =>
          rw [LineEnd.returns, List.append_nil]
          exact Text.stripReturn_of_not_mem fun hc => (e.oneLine_text _ hc).2 rfl
        | returnLineFeed => exact Text.stripReturn_append e.text
      show readLines entries [] (Text.stripReturn (e.text ++ ending.returns) :: rest) = _
      rw [hstrip, e.readLines_text]
      rfl
    | _ => cases hentry

theorem readLines_text (entries : List (String × String)) :
    readLines entries [] (Text.lines line.text) = line.pair?.toList.foldl put entries := by
  rw [Text.lines_of_not_mem line.not_mem_text]
  cases hentry : line.pair? with
  | none =>
    have hidle : IdleLine line.text := by
      simpa [LineEnd.returns] using line.idle_of_pair?_eq_none hentry .lineFeed
    split
    · rfl
    · exact hidle.readLines entries []
  | some entry =>
    cases line with
    | entry e =>
      obtain rfl : e.entry = entry := by simpa [pair?] using hentry
      have hsome : e.text ≠ [] := fun hnil => e.separates.ne_nil (by
        simp only [WrittenEntry.text, List.append_eq_nil_iff] at hnil
        exact hnil.2.2.1)
      show readLines entries [] (if e.text = [] then [] else [e.text]) = _
      rw [if_neg hsome, e.readLines_text]
      rfl
    | _ => cases hentry

end WrittenLine

theorem readLines_ended (ended : List (WrittenLine × LineEnd)) (entries : List (String × String))
    (rest : List Char) :
    readLines entries [] (Text.lines
      (ended.flatMap (fun line => line.1.text ++ line.2.returns ++ ['\n']) ++ rest)) =
      readLines (((ended.map Prod.fst).filterMap WrittenLine.pair?).foldl put entries) []
        (Text.lines rest) := by
  induction ended generalizing entries with
  | nil => rfl
  | cons line ended ih =>
    obtain ⟨line, ending⟩ := line
    have hnot : '\n' ∉ line.text ++ ending.returns := by
      intro hc
      rcases List.mem_append.1 hc with hc | hc
      · exact line.not_mem_text hc
      · cases ending <;> exact absurd hc (by decide)
    have htext : ∀ others : List Char,
        (line.text ++ ending.returns ++ ['\n']) ++ others =
          (line.text ++ ending.returns) ++ '\n' :: others := by simp
    rw [List.flatMap_cons, List.append_assoc, htext, Text.lines_append_cons hnot,
      line.readLines_stripReturn, ih, List.map_cons, List.filterMap_cons]
    cases line.pair? <;> rfl

/-- Reading what was written gives the entries in order; a key written again keeps its place and takes
the later value. -/
theorem read_writtenFile (file : WrittenFile) :
    read (String.ofList file.text) = merged file.entries := by
  rw [read, String.toList_ofList, WrittenFile.text, readLines_ended, ← foldl_put_eq_merged,
    WrittenFile.entries, List.filterMap_append, List.foldl_append]
  cases file.last with
  | none => rfl
  | some line =>
    have hsingle : [line].filterMap WrittenLine.pair? = line.pair?.toList := by
      cases hentry : line.pair? <;> simp [hentry]
    exact (line.readLines_text _).trans (congrArg _ hsingle.symm)

end Changelog.PropertyFile
