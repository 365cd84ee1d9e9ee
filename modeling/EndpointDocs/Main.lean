import EndpointDocs.Command
import Std.Time.DateTime.Timestamp

/-!
The program. It reads the files that a command looks at into a tree, runs the command on the tree,
and writes back the directories and files that are new or changed. No module with payload types
can be imported from here.
-/
namespace EndpointDocs.Program

/-- A place as the file system knows it. Names that are no texts are not looked at. -/
def fileAt (place : Place) : String :=
  "/" ++ "/".intercalate (place.map Wide.replaced)

def entryAt (place : Place) : IO (Option Entry) := do
  let file := (← IO.currentDir) / fileAt place
  if ← file.isDir then
    return some .directory
  else if ← file.pathExists then
    return some (.file (← IO.FS.readBinFile file).toList)
  else
    return none

/-- The tree with what stands at a place, if anything does. -/
def addPlace (tree : Tree) (place : Place) : IO Tree := do
  match ← entryAt place with
  | some entry => return if place.isEmpty then tree else tree.set place entry
  | none => return tree

/-- The tree with what a path leads through and to, and the place where it ends. -/
def addNames (tree : Tree) (place : Place) : List Wide → IO (Tree × Place)
  | [] => return (tree, place)
  | name :: rest => do
    let next := if name = ".." then place.dropLast else place ++ [name]
    addNames (← addPlace tree next) next rest

/-- The tree with what a path leads through and to. -/
def addPath (tree : Tree) (path : Path) : IO (Tree × Place) :=
  addNames tree (tree.startOf path) path.names

/-- The tree with all that stands below a directory. Links to directories are not followed. -/
partial def addBelow (tree : Tree) (place : Place) : IO Tree := do
  let directory := (← IO.currentDir) / fileAt place
  if !(← directory.isDir) then
    return tree
  let mut tree := tree
  for child in ← directory.readDir do
    let next := place ++ [Wide.ofString child.fileName]
    match (← child.path.symlinkMetadata).type with
    | .dir => tree ← addBelow (tree.set next .directory) next
    | .symlink => if !(← child.path.isDir) then tree ← addPlace tree next
    | _ => tree ← addPlace tree next
  return tree

/-- The files that a command looks at: its configuration, the glossary sources that this names, the
sources, and the pages of an earlier run. -/
def treeFor (homes : Homes) (request : Command.Request) : IO Tree := do
  let here := Path.ofText (← IO.currentDir).toString
  let (tree, _) ← addPath ⟨here.names, []⟩ here
  let mut tree := tree
  if let some path := request.config then
    tree := (← addPath tree path).1
  if let .ok config := Config.load tree homes request.config then
    for path in config.glossary do
      tree := (← addPath tree path).1
    let (grown, output) ← addPath tree (request.outputDirectory.getD config.outputDirectory)
    tree ← addBelow grown output
  let (grown, root) ← addPath tree request.root
  addBelow grown root

/-- Writes the directories and files of `after` that are new or changed. -/
def writeBack (before after : Tree) : IO Unit := do
  let here ← IO.currentDir
  for (place, entry) in after.entries do
    if before.at? place ≠ some entry then
      let file := here / fileAt place
      match entry with
      | .directory => IO.FS.createDirAll file
      | .file bytes => IO.FS.writeBinFile file bytes.toByteArray

def accounts : IO (List (Wide × Path)) := do
  let lines ← try IO.FS.lines "/etc/passwd" catch _ => pure #[]
  return lines.toList.filterMap fun line =>
    match line.toList.splitOn ':' with
    | [name, _, _, _, _, home, _] => some (name.map .char, Path.ofText (home.map .char))
    | _ => none

def stylesheet : CodeBlock.Stylesheet :=
  ⟨".codehilite \x7b overflow-x: auto \x7d\n.codehilite .nt \x7b font-weight: bold \x7d\n",
    by decide⟩

def environment : IO (List (String × String)) := do
  let found ← Command.environmentNames.mapM fun name => do
    return (← IO.getEnv name).map (name, ·)
  return found.filterMap id

/-- Reports an outcome and writes its files; the status to end with. -/
def conclude (now : Moment) (before : Tree) (outcome : Command.Outcome) : IO UInt32 := do
  writeBack before outcome.tree
  for entry in outcome.log do
    IO.eprintln (now.reportStamp ++ " - " ++ entry.level.name ++ " - " ++ entry.message.replaced)
  IO.print outcome.output.replaced
  match outcome.ending with
  | .exited status => return status.toUInt32
  | .failed error =>
    IO.eprintln error.message.replaced
    return 1

end EndpointDocs.Program

open EndpointDocs in
def main (arguments : List String) : IO UInt32 := do
  let stamp ← Std.Time.Timestamp.now
  let now := Moment.ofMicroseconds (stamp.toNanosecondsSinceUnixEpoch.toInt.toNat / 1000)
  let home := Path.ofText ((← IO.getEnv "HOME").getD "/")
  let accounts ← Program.accounts
  let surroundings : Command.Surroundings :=
    { environment := ← Program.environment
      homes := ⟨home, (List.lookup · accounts)⟩
      modules := []
      look := ⟨none, fun _ => Program.stylesheet⟩
      now }
  let tree ←
    match Command.Options.read arguments with
    | some options => Program.treeFor surroundings.homes (options.request surroundings.environment)
    | none => pure ⟨[], []⟩
  Program.conclude now tree (Command.run surroundings tree arguments)
