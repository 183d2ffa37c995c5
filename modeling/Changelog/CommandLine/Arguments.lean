/-!
# Command line arguments

A command line names one changelog and gives options, each at most once.  An option that takes a value
has it in the next argument or in its own; short options may stand together behind one dash.
-/

namespace Changelog.CommandLine

inductive Choice
  | config
  | format
  | contexts
  | labels
  | database
deriving DecidableEq, Repr

structure Arguments where
  config : Option String := none
  format : Option String := none
  contexts : Option String := none
  labels : Option String := none
  database : Option String := none
  verbose : Bool := false
  changelog : Option String := none

inductive Refusal
  | help
  | misuse
deriving DecidableEq, Repr

def Choice.ofName? (name : String) : Option Choice :=
  match name with
  | "config" => some .config
  | "format" => some .format
  | "contexts" => some .contexts
  | "labels" => some .labels
  | "database" => some .database
  | _ => none

namespace Arguments

def get? (a : Arguments) : Choice → Option String
  | .config => a.config
  | .format => a.format
  | .contexts => a.contexts
  | .labels => a.labels
  | .database => a.database

def set (a : Arguments) (value : String) : Choice → Arguments
  | .config => { a with config := some value }
  | .format => { a with format := some value }
  | .contexts => { a with contexts := some value }
  | .labels => { a with labels := some value }
  | .database => { a with database := some value }

/-- The arguments with an option that is given once; the path of a file is not empty. -/
def choose (a : Arguments) (choice : Choice) (value : String) : Except Refusal Arguments :=
  if (a.get? choice).isSome ∨ (choice = .config ∧ value = "") then .error .misuse
  else .ok (a.set value choice)

def talk (a : Arguments) : Except Refusal Arguments :=
  if a.verbose then .error .misuse else .ok { a with verbose := true }

def name (a : Arguments) (path : String) : Except Refusal Arguments :=
  if a.changelog.isSome then .error .misuse else .ok { a with changelog := some path }

end Arguments

/-- Whether an argument is taken for an option where a value is asked for. -/
def looksLikeOption : List Char → Bool
  | '-' :: _ :: _ => true
  | _ => false

def chooseNext (a : Arguments) (choice : Choice) :
    List String → Except Refusal (Arguments × List String)
  | value :: rest =>
    if looksLikeOption value.toList then .error .misuse
    else (a.choose choice value).map (·, rest)
  | [] => .error .misuse

def shortOptions (a : Arguments) (rest : List String) :
    List Char → Except Refusal (Arguments × List String)
  | [] => .ok (a, rest)
  | 'v' :: more => do shortOptions (← a.talk) rest more
  | 'h' :: _ => .error .help
  | ['c'] => chooseNext a .config rest
  | 'c' :: '=' :: value => (a.choose .config (String.ofList value)).map (·, rest)
  | 'c' :: value => (a.choose .config (String.ofList value)).map (·, rest)
  | _ => .error .misuse

def longOption (a : Arguments) (rest : List String) (written : List Char) :
    Except Refusal (Arguments × List String) :=
  let name := String.ofList (written.takeWhile (· != '='))
  match written.dropWhile (· != '='), Choice.ofName? name with
  | _ :: value, some choice => (a.choose choice (String.ofList value)).map (·, rest)
  | [], some choice => chooseNext a choice rest
  | [], none =>
    if name = "verbose" then a.talk.map (·, rest)
    else if name = "help" then .error .help
    else .error .misuse
  | _ :: _, none => .error .misuse

def option (a : Arguments) (first : String) (rest : List String) :
    Except Refusal (Arguments × List String) :=
  match first.toList with
  | '-' :: '-' :: written => longOption a rest written
  | '-' :: c :: more => shortOptions a rest (c :: more)
  | _ => (a.name first).map (·, rest)

/-- The arguments of a list, at most `fuel` options of it. -/
def readFrom : Nat → Arguments → List String → Except Refusal Arguments
  | _, a, [] => .ok a
  | 0, a, _ => .ok a
  | fuel + 1, a, first :: rest =>
    if first = "--" then rest.foldlM Arguments.name a
    else do
      let (a, rest) ← option a first rest
      readFrom fuel a rest

/-- The arguments of a command line; without an option for it the database is that of the environment. -/
def read (database : Option String) (args : List String) : Except Refusal Arguments := do
  let a ← readFrom args.length {} args
  if a.changelog.isNone then .error .misuse
  else return { a with database := a.database.or database }

end Changelog.CommandLine
