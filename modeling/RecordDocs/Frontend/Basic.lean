import RecordDocs.Logging
import RecordDocs.Registry
import RecordDocs.Schema.Document
import RecordDocs.Text.Margin
import RecordDocs.Yaml.Reader

/-!
# Front-ends

A front-end reads record definitions from a file of its kind. Two are built in, for schema
documents in either of two text formats; a third, which reads one record from each line, serves as
a plug-in. Records may be defined one by one while they are taken, so each has its own outcome.
-/

namespace RecordDocs

inductive SchemaError where
  | notFound (path : String)
  | unreadable (path : String) (cause : FileError)
  | syntaxFault (name : String)
  | document (name : String) (fault : Schema.Fault)
  | registry (name : String) (cause : RegistryError)
  | noFrontend (name : String) (available : List String)

def SchemaError.message : SchemaError → String
  | .notFound path => "Schema file not found: " ++ path
  | .unreadable path cause => "Failed to read " ++ path ++ ": " ++ cause.message
  | .syntaxFault name => "Failed to parse " ++ name
  | .document name fault => fault.message name
  | .registry name cause => name ++ ": " ++ cause.message
  | .noFrontend name available =>
      "No front-end can read " ++ name ++ " (available: "
        ++ (let names := ", ".intercalate available; if names.isEmpty then "none" else names)
        ++ ")"

structure PluginFault where
  kind : String
  message : String
  /-- Whether it counts as a fault of a value or of a schema. -/
  isValueFault : Bool
  deriving DecidableEq, Repr

/-- Why no registry comes of a file. Beside the refusal of a schema there are failures of the parts
that reading is made of. -/
inductive LoadError where
  | schema (cause : SchemaError)
  | file (cause : FileError)
  | number (cause : Number.IntegerFault)
  | scalar (fault : Yaml.Fault)
  | definition (cause : DefinitionError)
  | unknownFrontends (names : List String)
  | brokenPlugin (name reason : String)
  | notFrontend (name : String)
  | plugin (fault : PluginFault)

def LoadError.message : LoadError → String
  | .schema cause => cause.message
  | .file cause => cause.message
  | .number cause => cause.message
  | .scalar fault => fault.message
  | .definition cause => cause.message
  | .unknownFrontends names => "Unknown front-ends requested: " ++ ", ".intercalate names
  | .brokenPlugin name reason =>
      "Failed to load front-end entry point '" ++ name ++ "': " ++ reason
  | .notFrontend name =>
      "Front-end entry point '" ++ name ++ "' must be a Frontend subclass or instance"
  | .plugin fault => fault.message

/-- What reading a file gives: records, each of which may fail to be defined, and messages. -/
structure Loaded where
  records : List (Except DefinitionError RecordDefinition)
  messages : List Logging.Message

structure Frontend where
  /-- The name of the kind of front-end, for one that has no other name. -/
  className : String
  name : String
  supports : Path → Bool
  load : FileTree → Path → Except LoadError Loaded

namespace Frontend

/-! ### Schema documents -/

inductive SchemaFormat where
  | yaml
  | json
  deriving DecidableEq, Repr

def SchemaFormat.suffixes : SchemaFormat → List String
  | .yaml => [".yml", ".yaml"]
  | .json => [".json"]

def SchemaFormat.read (format : SchemaFormat) (name : String) (chars : List Char) :
    Except LoadError Value :=
  match format with
  | .yaml =>
      match Yaml.read chars with
      | .ok value => .ok value
      | .error .malformed => .error (.schema (.syntaxFault name))
      | .error fault => .error (.scalar fault)
  | .json =>
      match Json.read (String.ofList chars) with
      | .ok value => .ok value
      | .error .malformed => .error (.schema (.syntaxFault name))
      | .error (.number cause) => .error (.number cause)

def readRecords (name : String) (value : Value) : Except LoadError (List RecordDefinition) :=
  match Schema.readDocument value with
  | .ok records => .ok records
  | .error (.fault fault) => .error (.schema (.document name fault))
  | .error (.number cause) => .error (.number cause)

/-- The text of a schema file. What the file system refuses is a fault of the schema, a text that
is no text is not. -/
def readSchemaText (tree : FileTree) (path : Path) : Except LoadError (List Char) :=
  match tree.readText path with
  | .ok chars => .ok chars
  | .error (.system cause text) =>
      .error (.schema (.unreadable path.text (.system cause text)))
  | .error cause => .error (.file cause)

def schemaPart : String := "frontends.schema"

def loadedMessage (name : String) (count : Nat) : Logging.Message :=
  ⟨.info, schemaPart, "Loaded " ++ toString count ++ " record(s) from " ++ name⟩

/-- Reads a schema file; a blank one has no records. -/
def loadSchema (format : SchemaFormat) (tree : FileTree) (path : Path) :
    Except LoadError Loaded := do
  let chars ← readSchemaText tree path
  let value ← if chars.all Text.isBlank then pure (.dict []) else format.read path.name chars
  let records ← readRecords path.name value
  return ⟨records.map .ok, [loadedMessage path.name records.length]⟩

def schema (className name : String) (format : SchemaFormat) : Frontend where
  className
  name
  supports path := format.suffixes.contains (Text.lowercase path.suffix)
  load := loadSchema format

def yaml : Frontend := schema "YamlSchemaFrontend" "yaml" .yaml

def json : Frontend := schema "JsonSchemaFrontend" "json" .json

def builtin : List Frontend := [yaml, json]

/-! ### Record lines -/

/-- A line names a record, and behind an equality sign its fields, separated by commas. -/
def lineDraft (line : String) : RecordDraft :=
  let chars := line.toList
  let fields := (chars.dropWhile (· != '=')).drop 1
  let names := (Text.splitAt ',' fields).map fun piece => String.ofList (Text.trim piece)
  { typeName := .str (String.ofList (Text.trim (chars.takeWhile (· != '='))))
    fields := (names.filter (· != "")).map fun name => ⟨.str name, .str "u8", none⟩
    docLines := none }

def loadLines (tree : FileTree) (path : Path) : Except LoadError Loaded :=
  match tree.readText path with
  | .error cause => .error (.file cause)
  | .ok chars =>
      let lines := (Text.splitLines chars).map String.ofList
      .ok ⟨lines.map fun line => (lineDraft line).define, []⟩

def lines (className name : String) : Frontend where
  className
  name
  supports path := path.suffix == ".ini"
  load := loadLines

end Frontend

end RecordDocs
