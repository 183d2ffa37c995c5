import Changelog.Text.AsciiCase

/-!
# Resource paths

Paths are strings whose segments stand apart by `/` or `\`.  All that is done with them here is lexical:
no resource is looked at.
-/

namespace Changelog.Path

def isSlash (c : Char) : Bool := c == '/' || c == '\\'

/-- The text before the last slash, if there is one. -/
def directory? : List Char → Option (List Char)
  | [] => none
  | c :: rest =>
    match directory? rest with
    | some d => some (c :: d)
    | none => if isSlash c then some [] else none

def resolveChars (base path : List Char) : List Char :=
  match directory? base with
  | some d => d ++ '/' :: path
  | none => path

/-- `path` as seen from the directory of `base`; a base without a slash leaves it as it is. -/
def resolve (base path : String) : String := String.ofList (resolveChars base.toList path.toList)

def unify (path : List Char) : List Char := path.map fun c => if c = '\\' then '/' else c

/-- The segments walked so far, the last one first, after one more segment: an empty one and `.` stay,
`..` takes back the last step down, and any other goes down. -/
def step (walked : List (List Char)) (segment : List Char) : List (List Char) :=
  if segment = [] ∨ segment = ['.'] then walked
  else if segment = ['.', '.'] then
    match walked with
    | last :: rest => if last = ['.', '.'] then segment :: walked else rest
    | [] => [segment]
  else segment :: walked

def normalSegments (path : List Char) : List (List Char) :=
  (((unify path).splitOn '/').foldl step []).reverse

def keyChars (path : List Char) : List Char :=
  let joined := ['/'].intercalate (normalSegments path)
  if (unify path).head? = some '/' then '/' :: joined else joined

/-- The normal form of a path, the same for all its spellings. -/
def key (path : String) : String := String.ofList (keyChars path.toList)

/-- The last segment of a path, unless it leads upwards. -/
def fileName? (path : List Char) : Option (List Char) :=
  match ((path.splitOn '/').filter fun s => s != [] && s != ['.']).getLast? with
  | some ['.', '.'] => none
  | other => other

/-- What follows the last dot of a file name; a dot at its start does not count. -/
def extensionOfName? (name : List Char) : Option (List Char) :=
  match name.reverse.dropWhile (· != '.') with
  | _ :: _ :: _ => some (name.reverse.takeWhile (· != '.')).reverse
  | _ => none

def hasExtension (path extension : String) : Bool :=
  match (fileName? path.toList).bind extensionOfName? with
  | some e => Text.asciiLower e == Text.asciiLower extension.toList
  | none => false

example : resolve "db/main.changelog" "a.changelog" = "db/a.changelog" := by decide +kernel
example : key "db/./x/..\\a" = "db/a" := by decide +kernel
example : key "/../a//b/" = "/../a/b" := by decide +kernel
example : hasExtension "db/A.ChangeLog" "changelog" = true := by decide +kernel
example : hasExtension ".changelog" "changelog" = false := by decide +kernel

end Changelog.Path
