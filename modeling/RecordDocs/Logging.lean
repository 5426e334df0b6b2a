import RecordDocs.Files.FileTree

/-!
# Logging

Messages have a level and an origin. The logger passes on what reaches its level to its handlers:
always a console, and a log file if one is given. Setting it up again replaces the handlers of the
last time, which are closed, so no message is ever written twice to the same place.
-/

namespace RecordDocs.Logging

structure Level where
  rank : Int
  deriving DecidableEq, Repr

namespace Level

def debug : Level := ⟨10⟩

def info : Level := ⟨20⟩

def warning : Level := ⟨30⟩

def error : Level := ⟨40⟩

def critical : Level := ⟨50⟩

def named : List (Level × String) :=
  [(debug, "DEBUG"), (info, "INFO"), (warning, "WARNING"), (error, "ERROR"), (critical, "CRITICAL")]

def name (level : Level) : String :=
  (named.lookup level).getD ("Level " ++ toString level.rank)

def ofName? (name : String) : Option Level :=
  (named.find? fun (_, other) => other == name).map Prod.fst

def reaches (level threshold : Level) : Bool :=
  threshold.rank ≤ level.rank

end Level

def topName : String := "getdocs"

def fullName (part : String) : String :=
  if part.isEmpty then topName else topName ++ "." ++ part

structure Message where
  level : Level
  /-- The part of the program the message is from. -/
  part : String
  text : String
  deriving DecidableEq, Repr

inductive Target where
  | console
  | file (place : Place)
  deriving DecidableEq

/-- A handler writes the messages that reach its level to its target. Its number tells when it was
made. -/
structure Handler where
  number : Nat
  target : Target
  level : Level
  deriving DecidableEq

/-- The logger. Until it is set up it has no level, and its messages go to whoever listens above
it. -/
structure Logger where
  level : Option Level
  propagates : Bool
  handlers : List Handler
  closed : List Handler
  deriving DecidableEq

namespace Logger

def initial : Logger :=
  ⟨none, true, [], []⟩

def handlerCount (logger : Logger) : Nat :=
  logger.handlers.length + logger.closed.length

def discard (logger : Logger) (handler : Handler) : Logger :=
  { logger with
    handlers := logger.handlers.erase handler
    closed := logger.closed ++ [handler] }

def attach (logger : Logger) (target : Target) (level : Level) : Logger :=
  { logger with handlers := logger.handlers ++ [⟨logger.handlerCount, target, level⟩] }

end Logger

structure Verbosity where
  verbose : Bool
  quiet : Bool
  deriving DecidableEq, Repr

def Verbosity.level (verbosity : Verbosity) : Level :=
  if verbosity.verbose then .debug else if verbosity.quiet then .warning else .info

theorem Verbosity.level_cases (verbosity : Verbosity) :
    verbosity.verbose ∧ verbosity.level = .debug ∨
      ¬ verbosity.verbose ∧ verbosity.quiet ∧ verbosity.level = .warning ∨
      ¬ verbosity.verbose ∧ ¬ verbosity.quiet ∧ verbosity.level = .info := by
  obtain ⟨verbose, quiet⟩ := verbosity
  cases verbose <;> cases quiet <;> decide

def consoleLine (message : Message) : String :=
  "[" ++ topName ++ "] " ++ message.level.name ++ " " ++ message.text ++ "\n"

/-- How a message reads in a log file, behind a time stamp. -/
def fileLine (time : String) (message : Message) : String :=
  time ++ " " ++ message.level.name ++ " " ++ fullName message.part ++ ": " ++ message.text ++ "\n"

structure Desk where
  logger : Logger
  console : String
  tree : FileTree
  /-- What kept handlers from writing a message. It is reported beside the messages, in the words of
  the logging library. -/
  reports : List Text.SurrogateRun

namespace Desk

def openLog (tree : FileTree) (path : Path) : Except FileError (FileTree × Place) := do
  let absolute : Path :=
    if path.isAbsolute then { path with parts := Path.collapse path.parts }
    else ⟨"/", Path.collapse (tree.workingDirectory ++ path.parts)⟩
  let place ← tree.placeOf absolute
  match tree.nodeAt? place with
  | some .directory => throw (.system .isDirectory absolute.text)
  | some (.file _) => return (tree, place)
  | none => return (tree.withNode place (.file []), place)

/-- Sets the logger up. The old handlers are closed and a console handler takes their place before
the log file is opened, so a file that cannot be opened leaves a logger with the console alone. -/
def configure (desk : Desk) (verbosity : Verbosity) (logFile : Option Path) :
    Desk × Except FileError Unit :=
  let leveled := { desk.logger with level := some verbosity.level, propagates := false }
  let cleared := leveled.handlers.foldl Logger.discard leveled
  let logger := cleared.attach .console verbosity.level
  match logFile with
  | none => ({ desk with logger }, .ok ())
  | some path =>
      match openLog desk.tree path with
      | .error cause => ({ desk with logger }, .error cause)
      | .ok (tree, place) =>
          ({ desk with logger := logger.attach (.file place) .debug, tree }, .ok ())

def appendText (tree : FileTree) (place : Place) (text : String) : FileTree :=
  let before := match tree.nodeAt? place with
    | some (.file content) => content
    | _ => []
  tree.withNode place (.file (before ++ Text.encodeUtf8 text))

def writeLog (desk : Desk) (place : Place) (line : String) : Desk :=
  match Text.firstSurrogates? line.toList with
  | some run => { desk with reports := desk.reports ++ [run] }
  | none => { desk with tree := appendText desk.tree place line }

def handle (time : String) (message : Message) (desk : Desk) (handler : Handler) : Desk :=
  if message.level.reaches handler.level then
    match handler.target with
    | .console => { desk with console := desk.console ++ consoleLine message }
    | .file place => desk.writeLog place (fileLine time message)
  else desk

/-- Logs a message. A logger that was never set up writes warnings and worse to the console,
bare. -/
def log (desk : Desk) (time : String) (message : Message) : Desk :=
  match desk.logger.level with
  | none =>
      if message.level.reaches .warning then
        { desk with console := desk.console ++ message.text ++ "\n" }
      else desk
  | some level =>
      if message.level.reaches level then desk.logger.handlers.foldl (handle time message) desk
      else desk

end Desk

def consoleText (verbosity : Verbosity) (messages : List Message) : String :=
  String.join ((messages.filter fun message => message.level.reaches verbosity.level).map
    consoleLine)

end RecordDocs.Logging
