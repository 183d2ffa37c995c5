/-!
# Quoted JSON strings

A string is written between double quotes.  The quote, the backslash and the control characters are
escaped, the common ones by a letter and the others by four hexadecimal digits; all else stands for
itself.
-/

namespace Changelog.Json

def hexDigit (n : Nat) : Char := if n < 10 then Char.ofNat (48 + n) else Char.ofNat (87 + n)

def escapeLetter? (c : Char) : Option Char :=
  if c = '"' then some '"'
  else if c = '\\' then some '\\'
  else if c = '\n' then some 'n'
  else if c = '\r' then some 'r'
  else if c = '\t' then some 't'
  else if c = Char.ofNat 8 then some 'b'
  else if c = Char.ofNat 12 then some 'f'
  else none

def escapeChar (c : Char) : List Char :=
  match escapeLetter? c with
  | some letter => ['\\', letter]
  | none =>
    if c.toNat < 0x20 then ['\\', 'u', '0', '0', hexDigit (c.toNat / 16), hexDigit (c.toNat % 16)]
    else [c]

def escape (s : List Char) : List Char := s.flatMap escapeChar

def quote (s : List Char) : List Char := '"' :: escape s ++ ['"']

@[simp] theorem escape_cons (c : Char) (s : List Char) : escape (c :: s) = escapeChar c ++ escape s :=
  rfl

example : String.ofList (quote "a\"b\\\n\x01".toList) = "\"a\\\"b\\\\\\n\\u0001\"" := by decide +kernel

end Changelog.Json
