import RecordDocs.Command.Options
import RecordDocs.Logging
import RecordDocs.Number.Integer
import RecordDocs.Settings

/-!
# Invocations

The program has three commands: one builds documentation for root types, one lists the known types,
one serves documentation. Each takes a schema and a settings file; how much is logged can be said
before the command or behind it.
-/

namespace RecordDocs.Command

def programName : String := "getdocs"

structure SourceOptions where
  verbosity : Logging.Verbosity
  schema : Option String
  config : String
  deriving DecidableEq, Repr

structure BuildOptions where
  source : SourceOptions
  format : Option OutputFormat
  wrapRoot : Bool
  output : Option String
  deriving DecidableEq, Repr

structure ServeOptions where
  source : SourceOptions
  host : String
  port : Int
  deriving DecidableEq, Repr

inductive Invocation where
  | build (options : BuildOptions) (roots : List String)
  | types (options : SourceOptions)
  | serve (options : ServeOptions)
  deriving DecidableEq, Repr

def Invocation.source : Invocation → SourceOptions
  | .build options _ => options.source
  | .types options => options
  | .serve options => options.source

/-! ### Options -/

def helpOption {Selection : Type} : OptionSpec Selection :=
  ⟨["-h", "--help"], .help⟩

def verbosityOptions {Selection : Type}
    (change : (Logging.Verbosity → Logging.Verbosity) → Selection → Selection) :
    List (OptionSpec Selection) :=
  [⟨["-v", "--verbose"], .flag (change fun verbosity => { verbosity with verbose := true })⟩,
    ⟨["-q", "--quiet"], .flag (change fun verbosity => { verbosity with quiet := true })⟩]

def sourceOptions {Selection : Type}
    (change : (SourceOptions → SourceOptions) → Selection → Selection) :
    List (OptionSpec Selection) :=
  verbosityOptions (fun edit => change fun source =>
      { source with verbosity := edit source.verbosity })
    ++ [⟨["--schema"], .text fun text selection =>
          .ok (change (fun source => { source with schema := some text }) selection)⟩,
        ⟨["--config"], .text fun text selection =>
          .ok (change (fun source => { source with config := text }) selection)⟩]

def readFormat (text : String) : Except ArgumentFault OutputFormat :=
  match OutputFormat.ofName? text with
  | some format => .ok format
  | none => .error (.notChoice text (OutputFormat.all.map (·.name)))

def readPort (text : String) : Except ArgumentFault Int :=
  (Number.readInteger 10 text).mapError fun _ => .notInteger text

def buildOptions : List (OptionSpec BuildOptions) :=
  [helpOption]
    ++ sourceOptions (fun edit options => { options with source := edit options.source })
    ++ [⟨["--format"], .text fun text options => do
          return { options with format := some (← readFormat text) }⟩,
        ⟨["--wrap-root"], .flag fun options => { options with wrapRoot := true }⟩,
        ⟨["-o", "--output"], .text fun text options => .ok { options with output := some text }⟩]

def typesOptions : List (OptionSpec SourceOptions) :=
  [helpOption] ++ sourceOptions fun edit options => edit options

def serveOptions : List (OptionSpec ServeOptions) :=
  [helpOption]
    ++ sourceOptions (fun edit options => { options with source := edit options.source })
    ++ [⟨["--host"], .text fun text options => .ok { options with host := text }⟩,
        ⟨["--port"], .text fun text options => do
          return { options with port := ← readPort text }⟩]

/-! ### Grammars -/

def commandNames : List String := ["build", "types", "serve"]

def topGrammar : Grammar Logging.Verbosity :=
  ⟨programName, [helpOption] ++ verbosityOptions id, .everythingAfter⟩

def commandGrammar {Selection : Type} (name : String) (options : List (OptionSpec Selection))
    (operands : OperandRule) : Grammar Selection :=
  ⟨programName ++ " " ++ name, options, operands⟩

def buildGrammar : Grammar BuildOptions := commandGrammar "build" buildOptions .firstRun

def typesGrammar : Grammar SourceOptions := commandGrammar "types" typesOptions .nowhere

def serveGrammar : Grammar ServeOptions := commandGrammar "serve" serveOptions .nowhere

/-! ### Reading an invocation -/

def SourceOptions.start (verbosity : Logging.Verbosity) : SourceOptions :=
  ⟨verbosity, none, "."⟩

def BuildOptions.start (verbosity : Logging.Verbosity) : BuildOptions :=
  ⟨.start verbosity, none, false, none⟩

def ServeOptions.start (verbosity : Logging.Verbosity) : ServeOptions :=
  ⟨.start verbosity, "127.0.0.1", 8000⟩

/-- Reads the words behind a command's name; also says which of them have no place. -/
def readCommand (verbosity : Logging.Verbosity) (name : String) (words : List String) :
    Except Stop (Invocation × List String) :=
  match name with
  | "build" => do
      let reading ← buildGrammar.read (.start verbosity) words
      return (.build reading.selection (reading.operands.getD []), reading.unrecognized)
  | "types" => do
      let reading ← typesGrammar.read (.start verbosity) words
      return (.types reading.selection, reading.unrecognized)
  | "serve" => do
      let reading ← serveGrammar.read (.start verbosity) words
      return (.serve reading.selection, reading.unrecognized)
  | other =>
      .error (.usage programName (.argument "command" (.notChoice other commandNames)))

/-- Reads a command line. Faults of the command's own words come before a word without a place. -/
def Invocation.ofWords (words : List String) : Except Stop Invocation := do
  let top ← topGrammar.read ⟨false, false⟩ words
  match top.operands with
  | some (name :: rest) =>
      let (invocation, unrecognized) ← readCommand top.selection name rest
      match top.unrecognized ++ unrecognized with
      | [] => return invocation
      | words => throw (.usage programName (.unrecognized words))
  | _ => throw (.usage programName (.missing ["command"]))

end RecordDocs.Command
