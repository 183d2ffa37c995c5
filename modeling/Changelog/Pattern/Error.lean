namespace Changelog

inductive PatternError
  | malformed
  /-- The pattern that the text writes takes up more than it may. -/
  | tooLarge
deriving DecidableEq, Repr

/-- The text of an error.  What exactly makes a text malformed is left out. -/
def PatternError.message : PatternError → String
  | .malformed => "regex parse error"
  | .tooLarge => "Compiled regex exceeds size limit of 10485760 bytes."

end Changelog
