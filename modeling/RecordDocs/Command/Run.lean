import RecordDocs.Command.Invocation
import RecordDocs.Frontend.Discovery
import RecordDocs.Publication

/-!
# Running a command line

A run reads the command line, the settings and the schema, in this order, and then does what the
command asks for. It ends with an exit code and with what it has written: to the two output
streams, and to the file tree. What is the user's fault is reported with exit code one, a command
line that breaks the rules with two. A run goes step by step, and what a step has done is not undone
when a later one fails.
-/

namespace RecordDocs.Command

/-- What standard output is: a text that grows, or a stream that only takes what can be encoded. -/
inductive Output where
  | text
  | stream
  deriving DecidableEq, Repr

def Output.refusal? (output : Output) (text : String) : Option Text.SurrogateRun :=
  match output with
  | .text => none
  | .stream => Text.firstSurrogates? text.toList

/-- What the program finds in place: plug-ins, all that serving needs or the name of what is
missing, and standard output. -/
structure Installation where
  plugins : List Plugin
  missingComponent : Option String
  output : Output

structure Served where
  host : String
  port : Int
  types : List String
  deriving DecidableEq, Repr

inductive RunError where
  | settings (cause : SettingsError)
  | noSchema
  | load (cause : LoadError)
  | noRoots
  | root (cause : RootError)
  | missingComponent (name : String)
  | file (cause : FileError)
  | output (run : Text.SurrogateRun)

def RunError.message : RunError → String
  | .settings cause => cause.message
  | .noSchema => "No schema given. Pass --schema or set `schema` in .getdocs.yml."
  | .load cause => cause.message
  | .noRoots => "No root types given. Pass them as arguments or set `roots` in .getdocs.yml."
  | .root cause => cause.message ++ "\nRun `getdocs types` to list known records."
  | .missingComponent name =>
      "Service mode needs the `service` extra (" ++ name
        ++ " is missing). Install it with `pip install getdocs[service]`."
  | .file cause => cause.message
  | .output run => run.message

/-! ### What is the user's fault -/

/-- Whether the value of a scalar is at fault, as opposed to its form under a declared tag. -/
def isValueFault : Yaml.Fault → Bool
  | .oversizedCharacter => false
  | .notTruthWord _ => false
  | .emptyNumber => false
  | .notTimestamp => false
  | .notText => false
  | .oversizedWeight => false
  | _ => true

/-- Whether the schema, or what was asked of it, is at fault, as opposed to the installation or
the file system. -/
def isSchemaFault : LoadError → Bool
  | .schema _ => true
  | .file (.undecodable _) => true
  | .file .nullCharacter => true
  | .file _ => false
  | .number _ => true
  | .scalar fault => isValueFault fault
  | .definition (.lines _) => false
  | .definition _ => true
  | .unknownFrontends _ => true
  | .brokenPlugin _ _ => false
  | .notFrontend _ => false
  | .plugin fault => fault.isValueFault

/-- Errors that are reported to the user; any other ends the run without a report. -/
def RunError.isReported : RunError → Bool
  | .settings (.fault _) => true
  | .settings _ => false
  | .load cause => isSchemaFault cause
  | .file _ => false
  | .output _ => false
  | _ => true

/-! ### Steps -/

structure Progress where
  messages : List Logging.Message
  stdout : String
  tree : FileTree
  served : Option Served

def Progress.start (tree : FileTree) : Progress :=
  ⟨[], "", tree, none⟩

/-- A part of a run. It goes on from what has been done, and may be ended by an error; what has been
done until then stays done. -/
abbrev Step := ExceptT RunError (StateM Progress)

namespace Step

def report (messages : List Logging.Message) : Step Unit :=
  modify fun progress => { progress with messages := progress.messages ++ messages }

def print (output : Output) (text : String) : Step Unit :=
  match output.refusal? text with
  | some run => throw (.output run)
  | none => modify fun progress => { progress with stdout := progress.stdout ++ text }

def startServer (served : Served) : Step Unit :=
  modify fun progress => { progress with served := some served }

def ofResult {α : Type} (result : Except RunError α) : Step α :=
  ExceptT.mk (pure result)

/-- Changes the files. The tree is left as the change leaves it, also if it fails. -/
def changeFiles (change : FileTree → FileTree.Change) : Step Unit := do
  let changed := change (← get).tree
  modify fun progress => { progress with tree := changed.1 }
  ofResult (changed.2.mapError .file)

end Step

/-! ### Commands -/

def schemaPath (options : SourceOptions) (settings : Settings) : Option Path :=
  match options.schema with
  | none => settings.schema
  | some text => if text.isEmpty then settings.schema else some (.ofString text)

def enabledNames (settings : Settings) : Option (List String) :=
  if settings.enabled.isEmpty then none else some settings.enabled

def loadSchema (installation : Installation) (tree : FileTree) (options : SourceOptions)
    (settings : Settings) : Except RunError LoadedRegistry :=
  match schemaPath options settings with
  | none => .error .noSchema
  | some path => (do
      let frontends ← discover installation.plugins (enabledNames settings)
      loadRegistryWith tree frontends path).mapError .load

structure Source where
  settings : Settings
  registry : Registry

def loadSource (installation : Installation) (options : SourceOptions) : Step Source := do
  let tree := (← get).tree
  let settings ← Step.ofResult
    ((Settings.load tree (.ofString options.config)).mapError .settings)
  let loaded ← Step.ofResult (loadSchema installation tree options settings)
  Step.report loaded.messages
  return ⟨settings, loaded.registry⟩

def noteMessages (notes : List Note) : List Logging.Message :=
  notes.map fun note => ⟨.debug, "builder", note.message⟩

def wroteMessage (rootCount : Nat) (path : Path) : Logging.Message :=
  ⟨.info, "cli",
    "Wrote documentation for " ++ toString rootCount ++ " root type(s) to " ++ path.text⟩

def requestedRoots (settings : Settings) (roots : List String) : List String :=
  if roots.isEmpty then settings.roots else roots

def BuildOptions.wraps (options : BuildOptions) (settings : Settings) : Bool :=
  options.wrapRoot || settings.output.wrapRoot

def BuildOptions.write (options : BuildOptions) (settings : Settings)
    (members : List (Key × Value)) : String :=
  (options.format.getD settings.output.format).write settings.output.indent (.dict members)

def compose (source : Source) (options : BuildOptions) (roots : List String) : Step String :=
  if roots.isEmpty then throw .noRoots
  else do
    let publication := source.registry.table.publish (options.wraps source.settings) roots
    Step.report (noteMessages publication.notes)
    let members ← Step.ofResult (publication.members.mapError .root)
    return options.write source.settings members

structure Draft where
  rootCount : Nat
  text : String

def draft (installation : Installation) (options : BuildOptions) (roots : List String) :
    Step Draft := do
  let source ← loadSource installation options.source
  let roots := requestedRoots source.settings roots
  let text ← compose source options roots
  return ⟨roots.length, text⟩

def BuildOptions.target (options : BuildOptions) : Option Path :=
  (options.output.filter (· != "")).map .ofString

def deliver (output : Output) (target : Option Path) (draft : Draft) : Step Unit :=
  match target with
  | none => Step.print output draft.text
  | some path => do
      Step.changeFiles fun tree => tree.makeDirectories path.parent
      Step.changeFiles fun tree => tree.writeText path draft.text
      Step.report [wroteMessage draft.rootCount path]

def build (installation : Installation) (options : BuildOptions) (roots : List String) :
    Step Unit := do
  let draft ← draft installation options roots
  deliver installation.output options.target draft

def printLines (output : Output) : List String → Step Unit
  | [] => pure ()
  | name :: rest => do
      Step.print output (name ++ "\n")
      printLines output rest

def listTypes (installation : Installation) (options : SourceOptions) : Step Unit := do
  let source ← loadSource installation options
  printLines installation.output source.registry.typeNames

def serve (installation : Installation) (options : ServeOptions) : Step Unit := do
  let source ← loadSource installation options.source
  match installation.missingComponent with
  | some name => throw (.missingComponent name)
  | none => Step.startServer ⟨options.host, options.port, source.registry.typeNames⟩

def Invocation.perform (installation : Installation) : Invocation → Step Unit
  | .build options roots => Command.build installation options roots
  | .types options => Command.listTypes installation options
  | .serve options => Command.serve installation options

def Invocation.target : Invocation → Option Path
  | .build options _ => options.target
  | _ => none

/-- The paths that a run asks a tree about, as far as the tree tells: the settings file, the schema
that the command line or the settings name, and the file to write. -/
def Invocation.consulted (tree : FileTree) (invocation : Invocation) : List Path :=
  let settings := Settings.load tree (.ofString invocation.source.config)
  let schema := (settings.toOption.bind (schemaPath invocation.source)).toList
  let file := Settings.locate tree (.ofString invocation.source.config)
  let asked := .ofString invocation.source.config :: file.toOption.toList
  (asked ++ schema ++ invocation.target.toList).map fun path =>
    (tree.expandHome path).toOption.getD path

/-! ### Outcomes -/

/-- What a run leaves behind. A run that comes to its end has no exit code of its own. -/
structure Outcome where
  exitCode : Option Nat
  stdout : String
  stderr : String
  tree : FileTree
  served : Option Served

def usageLine (program : String) : String :=
  if program == buildGrammar.program then buildGrammar.usage "[roots ...]"
  else if program == typesGrammar.program then typesGrammar.usage ""
  else if program == serveGrammar.program then serveGrammar.usage ""
  else topGrammar.usage "COMMAND ..."

def stopOutcome (tree : FileTree) : Stop → Outcome
  | .help program => ⟨some 0, usageLine program, "", tree, none⟩
  | .usage program fault =>
      ⟨some 2, "", usageLine program ++ program ++ ": error: " ++ fault.message ++ "\n", tree, none⟩

def Progress.outcome (progress : Progress) (verbosity : Logging.Verbosity) :
    Except RunError Unit → Except RunError Outcome
  | .ok () =>
      .ok ⟨none, progress.stdout, Logging.consoleText verbosity progress.messages, progress.tree,
        progress.served⟩
  | .error cause =>
      if cause.isReported then
        let report := Logging.consoleText verbosity progress.messages ++ cause.message ++ "\n"
        .ok ⟨some 1, progress.stdout, report, progress.tree, progress.served⟩
      else .error cause

/-- How an invocation ends on a file tree, and what it has done by then. -/
def Invocation.execute (installation : Installation) (tree : FileTree) (invocation : Invocation) :
    Except RunError Unit × Progress :=
  (invocation.perform installation).run (.start tree)

def Invocation.run (installation : Installation) (tree : FileTree) (invocation : Invocation) :
    Except RunError Outcome :=
  let (result, progress) := invocation.execute installation tree
  progress.outcome invocation.source.verbosity result

def run (installation : Installation) (tree : FileTree) (words : List String) :
    Except RunError Outcome :=
  match Invocation.ofWords words with
  | .error stop => .ok (stopOutcome tree stop)
  | .ok invocation => invocation.run installation tree

end RecordDocs.Command
