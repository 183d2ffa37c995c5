import Changelog.CommandLine.Run

namespace Changelog.CommandLine

def itemOfBytes (bytes : ByteArray) : FileItem :=
  match String.fromUTF8? bytes with
  | some content => .text content
  | none => .binary

partial def itemsFrom (place : Place) (entry : IO.FS.DirEntry) :
    IO (List (Place × FileItem)) := do
  let here := place ++ [entry.fileName]
  match (← entry.path.symlinkMetadata).type with
  | .dir =>
    let inside ← (← entry.path.readDir).toList.mapM (itemsFrom here)
    return (here, .directory) :: inside.flatten
  | .file => return [(here, itemOfBytes (← IO.FS.readBinFile entry.path))]
  | _ => return []

/-- The places above and at a place, but for the root. -/
def waysTo (place : Place) : List Place := (List.range place.length).map fun n => place.take (n + 1)

def currentTree : IO FileTree := do
  let directory ← IO.currentDir
  let working := (FileTree.segments directory.toString).filter (· != "")
  let inside ← (← directory.readDir).toList.mapM (itemsFrom working)
  return ⟨(waysTo working).map (·, FileItem.directory) ++ inside.flatten, working⟩

def writeItem (place : Place) : FileItem → IO Unit
  | .directory => IO.FS.createDirAll ("/" ++ "/".intercalate place)
  | .text content => IO.FS.writeFile ("/" ++ "/".intercalate place) content
  | .binary => return

/-- Writes the items of a tree that are not in another. -/
def writeChanges (before after : FileTree) : IO Unit :=
  (after.entries.filter fun e => !before.entries.contains e).forM fun e => writeItem e.1 e.2

end Changelog.CommandLine

def main (args : List String) : IO UInt32 := do
  let tree ← Changelog.CommandLine.currentTree
  let database ← IO.getEnv "CHANGELOG_DSL_DATABASE"
  let outcome := Changelog.CommandLine.run tree database args
  Changelog.CommandLine.writeChanges tree outcome.tree
  IO.print outcome.output
  IO.eprint outcome.messages
  return outcome.exit
