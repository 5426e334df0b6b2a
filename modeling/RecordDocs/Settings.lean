import RecordDocs.Files.FileTree
import RecordDocs.Number.Integer
import RecordDocs.Text.Lowercase
import RecordDocs.Yaml.Reader

/-!
# Settings

A settings file stands beside the files it speaks of. It may name a schema, the roots to document,
the enabled front-ends, and how output is written. Each setting is read from its own member alone;
a member of a kind that cannot be used counts as missing, and only an output format that is none
and an indentation below zero are errors.
-/

namespace RecordDocs

open Number

inductive OutputFormat where
  | json
  | yaml
  deriving DecidableEq, Repr

def OutputFormat.name : OutputFormat → String
  | .json => "json"
  | .yaml => "yaml"

def OutputFormat.all : List OutputFormat := [.json, .yaml]

def OutputFormat.ofName? (name : String) : Option OutputFormat :=
  OutputFormat.all.find? fun format => format.name == name

structure OutputSettings where
  format : OutputFormat
  indent : Nat
  wrapRoot : Bool
  deriving DecidableEq, Repr

def OutputSettings.standard : OutputSettings := ⟨.json, 2, false⟩

structure Settings where
  /-- The directory of the settings file. -/
  root : Path
  schema : Option Path
  roots : List String
  enabled : List String
  output : OutputSettings
  deriving DecidableEq, Repr

def Settings.standard (root : Path) : Settings :=
  ⟨root, none, [], [], .standard⟩

def settingsName : String := ".getdocs.yml"

inductive SettingsFault where
  | syntaxFault
  | notMapping
  | format (text : String)
  | negativeIndent
  deriving DecidableEq, Repr

def SettingsFault.message : SettingsFault → String
  | .syntaxFault => "Failed to parse " ++ settingsName
  | .notMapping => settingsName ++ " must contain a mapping at the root"
  | .format text =>
      "output.format must be one of " ++ ", ".intercalate (OutputFormat.all.map (·.name))
        ++ ", got " ++ Text.quoted text
  | .negativeIndent => "output.indent must not be negative"

inductive SettingsError where
  | fault (cause : SettingsFault)
  | file (cause : FileError)
  | scalar (cause : Yaml.Fault)
  | number (cause : IntegerFault)
  deriving DecidableEq, Repr

def SettingsError.message : SettingsError → String
  | .fault cause => cause.message
  | .file cause => cause.message
  | .scalar cause => cause.message
  | .number cause => cause.message

namespace Settings

/-! ### Reading single settings -/

def textOf : Value → Except IntegerFault (Option String)
  | .str text => .ok (some text)
  | .int number => if isWritable number then .ok (some (toString number)) else .error .unwritable
  | .float number => .ok (some number.text)
  | .bool flag => .ok (some (Value.bool flag).wording)
  | _ => .ok none

/-- The texts of the scalars in a list; a text alone is a list of itself. -/
def textsOf : Value → Except IntegerFault (List String)
  | .str text => .ok [text]
  | .list items => (items.mapM textOf).map fun texts => texts.filterMap id
  | .binary octets => .ok (octets.map fun octet => toString octet.toNat)
  | _ => .ok []

def integerOf : Value → Option Int
  | .int number => some number
  | .str text => (readInteger 10 text).toOption
  | _ => none

def flagOf : Value → Option Bool
  | .bool flag => some flag
  | .str text =>
      let word := Text.lowercase (Text.strip text)
      if ["true", "yes", "1"].contains word then some true
      else if ["false", "no", "0"].contains word then some false
      else none
  | _ => none

def member (name : String) (members : List (Key × Value)) : Value :=
  (lookup? name members).getD .null

def section? (name : String) (members : List (Key × Value)) : List (Key × Value) :=
  match member name members with
  | .dict inner => inner
  | _ => []

/-! ### Interpreting a settings document -/

def readFormat (value : Value) : Except SettingsError OutputFormat := do
  match ← (textOf value).mapError .number with
  | none => return OutputSettings.standard.format
  | some text =>
      let name := Text.lowercase text
      match OutputFormat.ofName? name with
      | some format => return format
      | none => throw (.fault (.format name))

def readIndent (value : Value) : Except SettingsError Nat :=
  match integerOf value with
  | none => .ok OutputSettings.standard.indent
  | some number => if number < 0 then .error (.fault .negativeIndent) else .ok number.toNat

def readWrapRoot (value : Value) : Bool :=
  (flagOf value).getD OutputSettings.standard.wrapRoot

def readSchemaPath (root : Path) (value : Value) : Except SettingsError (Option Path) := do
  match ← (textOf value).mapError .number with
  | none => return none
  | some text => return if text.isEmpty then none else some (root.join (.ofString text))

def interpret (root : Path) (members : List (Key × Value)) : Except SettingsError Settings := do
  let schema ← readSchemaPath root (member "schema" members)
  let enabled ← (textsOf (member "enabled" (section? "frontends" members))).mapError .number
  let output := section? "output" members
  let format ← readFormat (member "format" output)
  let indent ← readIndent (member "indent" output)
  let roots ← (textsOf (member "roots" members)).mapError .number
  return {
    root, schema, roots, enabled
    output := ⟨format, indent, readWrapRoot (member "wrap_root" output)⟩ }

/-! ### Finding and loading the file -/

/-- The settings file that a path means: in the directory, if it is one, else beside the file. -/
def locate (tree : FileTree) (path : Path) : Except FileError Path := do
  let path ← tree.expandHome path
  let name := Path.ofString settingsName
  if ← tree.isDirectory path then tree.resolve (path.join name)
  else if path.name != settingsName then tree.resolve (path.parent.join name)
  else tree.resolve path

def readMembers (chars : List Char) : Except SettingsError (List (Key × Value)) :=
  if chars.all Text.isBlank then .ok []
  else match Yaml.read chars with
    | .error .malformed => .error (.fault .syntaxFault)
    | .error fault => .error (.scalar fault)
    | .ok .null => .ok []
    | .ok (.dict members) => .ok members
    | .ok _ => .error (.fault .notMapping)

/-- Loads the settings that a path means; without a file they are the standard ones. -/
def load (tree : FileTree) (path : Path) : Except SettingsError Settings := do
  let file ← (locate tree path).mapError .file
  let root ← (tree.resolve file.parent).mapError .file
  if ← (tree.exists? file).mapError .file then
    let chars ← (tree.readText file).mapError .file
    let members ← readMembers chars
    interpret root members
  else return .standard root

end Settings

end RecordDocs
