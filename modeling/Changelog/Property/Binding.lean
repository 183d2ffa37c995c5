namespace Changelog

/-- A value that a name stands for in texts, and where it does. -/
structure Binding where
  name : String
  value : String
  context : Option String
  labels : Option String
  dbms : Option String
  global : Bool
  /-- The physical path of the document that declares it. -/
  sourceDocument : String
deriving DecidableEq, Repr

end Changelog
