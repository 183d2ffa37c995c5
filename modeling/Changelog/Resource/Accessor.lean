import Changelog.Resource.Path

/-!
# Access to resources

A changelog names other files by path.  An accessor says what a path holds, which files lie in a
directory, and whether a path exists.  Only finitely many places can be read, so that files which
include each other come to an end.
-/

namespace Changelog

inductive ResourceError
  | notFound
  | alreadyExists
  | notDirectory
  | isDirectory
  | nameTooLong
  | nulInPath
  | invalidText
  | unknownResource
  | undecodable
  | unknownDirectory
deriving DecidableEq, Repr

def ResourceError.message : ResourceError → String
  | .notFound => "No such file or directory (os error 2)"
  | .alreadyExists => "File exists (os error 17)"
  | .notDirectory => "Not a directory (os error 20)"
  | .isDirectory => "Is a directory (os error 21)"
  | .nameTooLong => "File name too long (os error 36)"
  | .nulInPath => "file name contained an unexpected NUL byte"
  | .invalidText => "stream did not contain valid UTF-8"
  | .unknownResource => "no such resource"
  | .undecodable => "not text"
  | .unknownDirectory => "no such directory"

/-- Where the resources of a changelog come from. -/
structure Accessor where
  read : String → Except ResourceError String
  /-- The files directly inside a directory, in no particular order. -/
  list : String → Except ResourceError (List String)
  has : String → Bool
  /-- The normal forms of all paths that can be read. -/
  readable : List String
  key_mem_readable : ∀ path text, read path = .ok text → Path.key path ∈ readable

end Changelog
