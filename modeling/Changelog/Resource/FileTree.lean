import Changelog.Resource.Accessor

/-!
# File trees

Files and directories by their places, as they are seen from a working directory.  A path is walked
segment by segment: every place it steps from has to be a directory.
-/

namespace Changelog

/-- What stands at a place: a file that holds text, one that holds none, or a directory. -/
inductive FileItem
  | text (content : String)
  | binary
  | directory
deriving DecidableEq, Repr

/-- The names on the way down to a place. -/
abbrev Place := List String

/-- Everything below the root, each with its place, and the place that relative paths begin at. -/
structure FileTree where
  entries : List (Place × FileItem)
  working : Place
deriving Repr

namespace FileTree

/-- What stands at a place; the root is a directory. -/
def item? (tree : FileTree) (place : Place) : Option FileItem :=
  if place = [] then some .directory else tree.entries.lookup place

/-- The place one segment further; the root is above itself. -/
def stepTo (place : Place) (segment : String) : Place :=
  if segment = "" ∨ segment = "." then place
  else if segment = ".." then place.dropLast
  else place ++ [segment]

/-- Whether a segment is no name that a place can have: a name has at most 255 bytes. -/
def isTooLong (segment : String) : Bool := 255 < segment.utf8ByteSize

/-- The place that segments lead to from another. -/
def walk (tree : FileTree) : Place → List String → Except ResourceError Place
  | place, [] => .ok place
  | place, segment :: rest =>
    match tree.item? place with
    | some .directory =>
      if isTooLong segment then .error .nameTooLong else walk tree (stepTo place segment) rest
    | some _ => .error .notDirectory
    | none => .error .notFound

def segments (path : String) : List String :=
  (path.toList.splitOn '/').map String.ofList

def start (tree : FileTree) (path : String) : Place :=
  if path.toList.head? = some '/' then [] else tree.working

def longestPath : Nat := 4095

/-- The place of a path; an empty path has none, and no path has a NUL character in it. -/
def place (tree : FileTree) (path : String) : Except ResourceError Place :=
  if path.toList.contains '\x00' then .error .nulInPath
  else if path = "" then .error .notFound
  else if longestPath < path.utf8ByteSize then .error .nameTooLong
  else tree.walk (tree.start path) (segments path)

def find (tree : FileTree) (path : String) : Except ResourceError (Place × FileItem) := do
  let place ← tree.place path
  match tree.item? place with
  | some item => .ok (place, item)
  | none => .error .notFound

def read (tree : FileTree) (path : String) : Except ResourceError String := do
  match (← tree.find path).2 with
  | .text content => .ok content
  | .binary => .error .invalidText
  | .directory => .error .isDirectory

def has (tree : FileTree) (path : String) : Bool := (tree.find path).toOption.isSome

def fileIn? (place : Place) (entry : Place × FileItem) : Option String :=
  if entry.2 ≠ .directory ∧ entry.1.dropLast = place then entry.1.getLast? else none

def fileNames (tree : FileTree) (path : String) : Except ResourceError (List String) := do
  match ← tree.find path with
  | (place, .directory) => .ok (tree.entries.filterMap (fileIn? place))
  | _ => .error .notDirectory

def put (place : Place) (item : FileItem) : List (Place × FileItem) → List (Place × FileItem)
  | [] => [(place, item)]
  | e :: rest => if e.1 = place then (place, item) :: rest else e :: put place item rest

def set (tree : FileTree) (place : Place) (item : FileItem) : FileTree :=
  { tree with entries := put place item tree.entries }

/-- The tree with a directory at every place that segments lead through from another, and the place
they end at. -/
def makeWay (tree : FileTree) : Place → List String → Except ResourceError (FileTree × Place)
  | place, [] => .ok (tree, place)
  | place, segment :: rest =>
    let next := stepTo place segment
    match tree.item? next with
    | some .directory => makeWay tree next rest
    | some _ => .error (if rest.all (· == "") then .alreadyExists else .notDirectory)
    | none =>
      if isTooLong segment then .error .nameTooLong
      else makeWay (tree.set next .directory) next rest

def makeDirectory (tree : FileTree) (path : String) : Except ResourceError FileTree :=
  if path.toList.contains '\x00' then .error .nulInPath
  else if path = "" then .ok tree
  else if longestPath < path.utf8ByteSize then .error .nameTooLong
  else (tree.makeWay (tree.start path) (segments path)).map Prod.fst

def write (tree : FileTree) (path content : String) : Except ResourceError FileTree := do
  let place ← tree.place path
  if tree.item? place = some .directory then .error .isDirectory
  else .ok (tree.set place (.text content))

/-- The tree without what stands at a place and below it. -/
def remove (tree : FileTree) (place : Place) : FileTree :=
  { tree with entries := tree.entries.filter fun e => !place.isPrefixOf e.1 }

/-! ### Access below a directory -/

/-- `path` as seen from the directory `base`; an absolute path stays as it is. -/
def join (base path : String) : String :=
  if path.toList.head? = some '/' ∨ base = "" then path
  else if base.toList.getLast? = some '/' then base ++ path
  else base ++ "/" ++ path

/-- The normal forms of the paths down to files from a place that `way` leads to, and from up to `ups` places
above it: the root is above itself. -/
def keysFrom (files : List Place) (ups : Nat) (way : String) (place : Place) : List String :=
  (files.filter place.isPrefixOf).map (fun file =>
      way ++ Path.key ("/".intercalate (file.drop place.length))) ++
    match ups with
    | 0 => []
    | ups + 1 => keysFrom files ups (way ++ "../") place.dropLast

/-- The place of the directory at a path; an empty path is the working directory. -/
def directoryPlace (tree : FileTree) (path : String) : Except ResourceError Place :=
  if path = "" then .ok tree.working else tree.place path

/-- The normal forms of the paths by which a file can be read from a directory.  A path goes up no further
than its length allows. -/
def readableFrom (tree : FileTree) (base : String) : List String :=
  let files := (tree.entries.filter fun e => e.2 ≠ .directory).map Prod.fst
  let below :=
    match tree.directoryPlace base with
    | .ok origin => keysFrom files (longestPath / 3) "" origin
    | .error _ => []
  below ++ keysFrom files (longestPath / 3) "/" []

/-- The text of a file, as far as its path has one of the given normal forms. -/
def readAmong (tree : FileTree) (keys : List String) (base path : String) :
    Except ResourceError String :=
  match tree.read (join base path) with
  | .ok text => if Path.key path ∈ keys then .ok text else .error .notFound
  | .error cause => .error cause

def trimSlashes (path : String) : String :=
  String.ofList (path.toList.reverse.dropWhile Path.isSlash).reverse

def listedPath (directory name : String) : String :=
  if trimSlashes directory = "" then name else trimSlashes directory ++ "/" ++ name

def accessor (tree : FileTree) (base : String) : Accessor :=
  let keys := tree.readableFrom base
  { read := tree.readAmong keys base
    list := fun path => (tree.fileNames (join base path)).map (·.map (listedPath path))
    has := fun path => tree.has (join base path)
    readable := keys
    key_mem_readable := by
      intro path text h
      unfold readAmong at h
      split at h
      · split at h
        · assumption
        · cases h
      · cases h }

end FileTree

end Changelog
