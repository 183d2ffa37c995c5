import Changelog.Document.Choice

namespace Changelog

/-- What happens when the checksum of a change set no longer validates. -/
inductive ValidationFailure
  | halt
  | markRan
  | warn
deriving DecidableEq, Repr

instance : Named ValidationFailure where
  all := [.halt, .markRan, .warn]
  name
    | .halt => "HALT"
    | .markRan => "MARK_RAN"
    | .warn => "WARN"

inductive QuotingStrategy
  | legacy
  | allObjects
  | onlyReservedWords
deriving DecidableEq, Repr

instance : Named QuotingStrategy where
  all := [.legacy, .allObjects, .onlyReservedWords]
  name
    | .legacy => "LEGACY"
    | .allObjects => "QUOTE_ALL_OBJECTS"
    | .onlyReservedWords => "QUOTE_ONLY_RESERVED_WORDS"

inductive FailOption
  | halt
  | goOn
  | markRan
  | warn
deriving DecidableEq, Repr

instance : Named FailOption where
  all := [.halt, .goOn, .markRan, .warn]
  name
    | .halt => "HALT"
    | .goOn => "CONTINUE"
    | .markRan => "MARK_RAN"
    | .warn => "WARN"

inductive SqlOutputOption
  | ignore
  | test
  | fail
deriving DecidableEq, Repr

instance : Named SqlOutputOption where
  all := [.ignore, .test, .fail]
  name
    | .ignore => "IGNORE"
    | .test => "TEST"
    | .fail => "FAIL"

end Changelog
