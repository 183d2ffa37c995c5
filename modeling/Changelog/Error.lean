import Changelog.Pattern.Error
import Changelog.Source.Document
import Changelog.Resource.Accessor

namespace Changelog

inductive ValueFault
  /-- The element takes named values only. -/
  | positional (element : String)
  | oneText (element : String)
  | rollbackText
  | missingQuery
  | badPattern (pattern : String) (cause : PatternError)
deriving DecidableEq, Repr

def ValueFault.message : ValueFault → String
  | .positional element => "'" ++ element ++ "' does not take positional values"
  | .oneText element => "'" ++ element ++ "' takes exactly one text value"
  | .rollbackText => "'rollback' takes a single SQL string"
  | .missingQuery => "'sqlCheck' requires the SQL to run as its value"
  | .badPattern pattern cause =>
    "invalid regExpReplace pattern '" ++ pattern ++ "': " ++ cause.message

def rootName : String := "databaseChangeLog"

inductive RootFault
  | notSingle (count : Nat)
  | wrongName (found : String)
  | positional
deriving DecidableEq, Repr

def RootFault.message : RootFault → String
  | .notSingle count =>
    "expected a single '" ++ rootName ++ "' element, found " ++ toString count ++
      " top-level elements"
  | .wrongName found => "root element must be '" ++ rootName ++ "', found '" ++ found ++ "'"
  | .positional => "'" ++ rootName ++ "' takes named attributes only"

/-- Why a changelog cannot be read.  Where there is a `context`, it names the document and the change
set. -/
inductive ChangelogError
  | unknownAttribute (element key context : String)
  | renamedAttribute (element old replacement context : String)
  | invalidChoice (key value valid context : String)
  | invalidElement (element parent context : String)
  | missingAttribute (element key context : String)
  | invalidValue (fault : ValueFault) (context : String)
  | nothingToInclude (path : String) (missing : Bool)
  | propertyFileUnreadable (path : String) (cause : ResourceError)
  | malformedRoot (path : String) (fault : RootFault)
  | malformedSource (path : String) (error : Source.SyntaxError)
  | unreadable (path : String) (cause : ResourceError)
  | unknownFilter (name context : String)
  | rollbackTargetNotFound (id author path context : String)
  /-- `chain` holds the documents being read, from the first on, and then `path`. -/
  | circularInclude (path : String) (chain : List String)
deriving DecidableEq, Repr

def ChangelogError.message : ChangelogError → String
  | .unknownAttribute element key context =>
    context ++ ": '" ++ key ++ "' is not a valid attribute of '" ++ element ++ "'"
  | .renamedAttribute element old replacement context =>
    context ++ ": '" ++ old ++ "' is no longer supported on '" ++ element ++ "'; use '" ++
      replacement ++ "' instead"
  | .invalidChoice key value valid context =>
    context ++ ": '" ++ value ++ "' is not a valid value for '" ++ key ++
      "' (expected one of: " ++ valid ++ ")"
  | .invalidElement element parent context =>
    context ++ ": '" ++ element ++ "' is not a valid element of '" ++ parent ++ "'"
  | .missingAttribute element key context =>
    context ++ ": '" ++ element ++ "' requires the '" ++ key ++ "' attribute"
  | .invalidValue fault context => context ++ ": " ++ fault.message
  | .nothingToInclude path missing =>
    "includeAll path '" ++ path ++ "' " ++
      (if missing then "does not exist" else "contains no changelog files")
  | .propertyFileUnreadable path cause =>
    "property file '" ++ path ++ "' could not be opened: " ++ cause.message
  | .malformedRoot path fault => path ++ ": " ++ fault.message
  | .malformedSource path error =>
    "syntax error in " ++ path ++ " at line " ++ toString error.line ++ ": " ++ error.cause.message
  | .unreadable path cause => "IO error reading " ++ path ++ ": " ++ cause.message
  | .unknownFilter name context => context ++ ": unknown resource filter '" ++ name ++ "'"
  | .rollbackTargetNotFound id author path context =>
    context ++ ": rollback refers to change set '" ++ id ++ "' (author '" ++ author ++ "') in '" ++
      path ++ "', which is not defined before it"
  | .circularInclude path chain =>
    "circular include of '" ++ path ++ "' (include chain: " ++ " -> ".intercalate chain ++ ")"

/-- The error below an error of the system, which is reported after it. -/
def ChangelogError.cause? : ChangelogError → Option ResourceError
  | .propertyFileUnreadable _ cause => some cause
  | .unreadable _ cause => some cause
  | _ => none

end Changelog
