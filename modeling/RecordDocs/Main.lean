import RecordDocs.Command.Run

/-!
# The program

The command line on a real file system: the files that a run asks about are read into a file tree,
the run is a function of the tree, and what it changed is written back. Serving needs a server,
which is not part of this program.
-/

namespace RecordDocs.Command

def ofOutside (text : String) : String :=
  Text.ofChars text.toList

def nodeOnDisk (path : String) : IO (Option FileNode) := do
  match ← (IO.FS.readBinFile path).toBaseIO with
  | .ok content => return some (.file content.toList)
  | .error (.inappropriateType ..) => return some .directory
  | .error _ => return none

def diskPath (place : Place) : String :=
  let path := "/" ++ "/".intercalate place
  String.ofList (Text.plainChars path.toList)

def readPlace (tree : FileTree) (place : Place) : IO FileTree := do
  let mut known := tree
  for above in FileTree.placesAbove place ++ [place] do
    if let some node ← nodeOnDisk (diskPath above) then
      known := known.withNode above node
  return known

def readPaths (tree : FileTree) (paths : List Path) : IO FileTree := do
  let mut known := tree
  for path in paths do
    if let .ok resolved := tree.resolve path then
      known ← readPlace known resolved.parts
  return known

/-- The tree of all that an invocation asks about; the schema is known only when the settings
are. -/
def readTree (start : FileTree) (invocation : Invocation) : IO FileTree := do
  let withSettings ← readPaths start (invocation.consulted start)
  let located ← readPaths withSettings (invocation.consulted withSettings)
  readPaths located (invocation.consulted located)

def startTree : IO FileTree := do
  let working := Path.ofString (ofOutside (← IO.currentDir).toString)
  let home := (← IO.getEnv "HOME").map fun home => ("", ofOutside home)
  return .bare working.parts home.toList

def writeBack (before after : FileTree) : IO Unit := do
  for (place, node) in after.changedSince before do
    match node with
    | .directory => IO.FS.createDirAll (diskPath place)
    | .file content => IO.FS.writeBinFile (diskPath place) ⟨content.toArray⟩

/-- Writes a text to a stream, halves as escapes. -/
def writeTo (stream : IO.FS.Stream) (text : String) : IO Unit := do
  let chars := (Text.codes text.toList).flatMap fun code =>
    if Text.isSurrogate code then '\\' :: 'u' :: Text.hexDigits 4 code else Text.hold code
  stream.write ⟨(Text.encodeUtf8 (String.ofList chars)).toArray⟩

def runInvocation (start : FileTree) (invocation : Invocation) : IO UInt32 := do
  let tree ← readTree start invocation
  let (result, progress) := invocation.execute ⟨[], some "fastapi", .stream⟩ tree
  writeBack tree progress.tree
  writeTo (← IO.getStdout) progress.stdout
  match progress.outcome invocation.source.verbosity result with
  | .ok outcome =>
      writeTo (← IO.getStderr) outcome.stderr
      return (outcome.exitCode.getD 0).toUInt32
  | .error cause =>
      let report := Logging.consoleText invocation.source.verbosity progress.messages
      writeTo (← IO.getStderr) (report ++ cause.message ++ "\n")
      return 1

def runOnDisk (words : List String) : IO UInt32 := do
  let start ← startTree
  match Invocation.ofWords (words.map ofOutside) with
  | .ok invocation => runInvocation start invocation
  | .error stop =>
      let outcome := stopOutcome start stop
      writeTo (← IO.getStdout) outcome.stdout
      writeTo (← IO.getStderr) outcome.stderr
      return (outcome.exitCode.getD 0).toUInt32

end RecordDocs.Command

def main (words : List String) : IO UInt32 :=
  RecordDocs.Command.runOnDisk words
