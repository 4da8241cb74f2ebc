import IndustrySet.Command.Run

set_option autoImplicit false

/-! # The program

Takes what a call may look at from the file system, runs the call, and puts what it changed back. -/

namespace IndustrySet.Program

/-- What lies at a path, if there is something, and the names in it if it is a directory. -/
def look (path : String) : IO (Option (Entry × List String)) := do
  try
    let real ← IO.FS.realPath path
    if ← real.isDir then
      let names := (← real.readDir).toList.map (·.fileName)
      return some (.directory, names)
    else
      return some (.file (← IO.FS.readBinFile real), [])
  catch _ => return none

/-- The tree with what lies at a place, and as many levels below it as given. -/
def takePlace : Nat → FileTree → Place → IO FileTree
  | depth, tree, place => do
    match ← look place.path with
    | none => return tree
    | some (entry, names) =>
      let tree := tree.set place entry
      match depth with
      | 0 => return tree
      | below + 1 => names.foldlM (fun tree name => takePlace below tree (place ++ [name])) tree

/-- The places on the way that a path takes. -/
def placesOn (path : String) : List Place :=
  let start : Place := if Path.isAbsolute path then .root else []
  ((Path.pieces path).foldl (fun (places, place) piece =>
    (place.advance piece :: places, place.advance piece)) ([start], start)).1.reverse

/-- How many levels of a directory a call looks at. -/
def levels : Nat := 2

/-- The tree with what lies at a path and on the way there. -/
def takePath (tree : FileTree) (path : String) : IO FileTree := do
  let places := placesOn path
  let tree ← places.dropLast.foldlM (takePlace 0) tree
  match places.getLast? with
  | some place => takePlace levels tree place
  | none => return tree

/-- The tree with what a command may look at. -/
def take (command : Command) : IO FileTree := do
  let first ← command.givenPaths.foldlM takePath .empty
  (Command.configuredPaths first command).foldlM takePath first

/-- Puts an entry of a tree into the file system. -/
def put (change : Place × Entry) : IO Unit :=
  match change with
  | (place, .directory) => IO.FS.createDirAll place.path
  | (place, .file content) => IO.FS.writeBinFile place.path content

/-- Runs the program with some arguments; the result is its exit code. -/
def run (arguments : List String) : IO UInt32 := do
  let tree ←
    match Command.ofArguments arguments with
    | .run command => take command
    | _ => pure .empty
  let result := call tree arguments
  IO.print result.output
  (result.tree.changesSince tree).forM put
  match result.error with
  | some e => IO.eprintln e.message
  | none => if result.exitCode = 2 then IO.eprint usage
  return result.exitCode.toUInt32

end IndustrySet.Program

/-- The program. -/
def main (arguments : List String) : IO UInt32 :=
  IndustrySet.Program.run arguments
