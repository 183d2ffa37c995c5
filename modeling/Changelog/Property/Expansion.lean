import Changelog.Value.Attributes

/-!
# Expansion of tokens

A token is `${`, a name and `}`; the name is not empty and holds no `}`.  Expansion goes over a text once
from left to right: the value of a token is not looked at again, and a token without a value stays.
-/

namespace Changelog.Expansion

def token (name : List Char) : List Char := '$' :: '\x7b' :: name ++ ['\x7d']

/-- The text with each token replaced by what `value?` gives for its name. -/
def expandChars (value? : List Char → Option (List Char)) (s : List Char) : List Char :=
  match s with
  | [] => []
  | '$' :: '\x7b' :: inside =>
    let name := inside.takeWhile (· != '\x7d')
    match _h : inside.dropWhile (· != '\x7d') with
    | _ :: after =>
      if name = [] then '$' :: expandChars value? ('\x7b' :: inside)
      else (value? name).getD (token name) ++ expandChars value? after
    | [] => '$' :: expandChars value? ('\x7b' :: inside)
  | c :: rest => c :: expandChars value? rest
termination_by s.length
decreasing_by
  · simp
  · have := (List.dropWhile_sublist (l := inside) (· != '\x7d')).length_le
    rw [_h] at this
    simp only [List.length_cons] at this ⊢
    omega
  · simp
  · simp

def expandText (value? : String → Option String) (s : String) : String :=
  String.ofList (expandChars (fun name => (value? (String.ofList name)).map String.toList) s.toList)

mutual

/-- The value with each string in it changed, in lists at any depth. -/
def mapStrings (f : String → String) : Value → Value
  | .string s => .string (f s)
  | .list items => .list (mapStringsAll f items)
  | v => v

def mapStringsAll (f : String → String) : List Value → List Value
  | [] => []
  | v :: rest => mapStrings f v :: mapStringsAll f rest

end

end Changelog.Expansion
