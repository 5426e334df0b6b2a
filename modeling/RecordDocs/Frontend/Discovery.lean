import RecordDocs.Frontend.Basic
import RecordDocs.Signature

/-!
# Discovering front-ends

The built-in front-ends come first, then installed plug-ins by their names in small letters. A
plug-in whose name is taken, by a built-in one or by an earlier plug-in, is not considered. Only
plug-ins that are selected are loaded, and the first that cannot be decides the error.
-/

namespace RecordDocs

/-- What loading a plug-in gives. A class of front-ends is made a front-end at once; what it raises
then is not held back, nor is what breaks the loading off and is no ordinary error. -/
inductive PluginContent where
  | frontend (frontend : Frontend)
  | somethingElse
  | broken (reason : String)
  | raising (fault : PluginFault)

structure Plugin where
  name : String
  content : PluginContent

namespace Plugin

def key (plugin : Plugin) : String :=
  Text.lowercase plugin.name

def load (plugin : Plugin) : Except LoadError Frontend :=
  match plugin.content with
  | .frontend frontend => .ok frontend
  | .somethingElse => .error (.notFrontend plugin.key)
  | .broken reason => .error (.brokenPlugin plugin.key reason)
  | .raising fault => .error (.plugin fault)

def considered (taken : List String) : List Plugin → List Plugin
  | [] => []
  | plugin :: rest =>
      if plugin.key ∈ taken then considered taken rest
      else plugin :: considered (plugin.key :: taken) rest

end Plugin

inductive Candidate where
  | builtin (frontend : Frontend)
  | installed (plugin : Plugin)

namespace Candidate

def name : Candidate → String
  | .builtin frontend => frontend.name
  | .installed plugin => plugin.key

def load : Candidate → Except LoadError Frontend
  | .builtin frontend => .ok frontend
  | .installed plugin => plugin.load

def plugins : Candidate → List Plugin
  | .builtin _ => []
  | .installed plugin => [plugin]

end Candidate

def candidates (plugins : List Plugin) : List Candidate :=
  Frontend.builtin.map .builtin
    ++ (Plugin.considered (Frontend.builtin.map (·.name)) plugins).map .installed

/-- Names are ordered by their codes; texts that are no more than held differently follow their
characters. -/
def namePrecedes (first second : String) : Bool :=
  let firstCodes := Text.codes first.toList
  let secondCodes := Text.codes second.toList
  firstCodes < secondCodes || (firstCodes == secondCodes && first < second)

def sortNames (names : List String) : List String :=
  (distinctFrom [] names).mergeSort fun first second => !namePrecedes second first

/-- What a discovery does and finds. Loading a plug-in runs code of others, so it counts which ones
were loaded, in order and whether loading them succeeded or not. -/
structure Discovery where
  loaded : List Plugin
  result : Except LoadError (List Frontend)

def takeAll : List Candidate → Discovery
  | [] => ⟨[], .ok []⟩
  | candidate :: rest =>
      match candidate.load with
      | .error cause => ⟨candidate.plugins, .error cause⟩
      | .ok frontend =>
          let further := takeAll rest
          ⟨candidate.plugins ++ further.loaded, further.result.map (frontend :: ·)⟩

/-- Takes the front-ends with the enabled names, or all; a name that no front-end has is an error
before anything is loaded. -/
def survey (plugins : List Plugin) (enabled : Option (List String)) : Discovery :=
  let all := candidates plugins
  match enabled with
  | none => takeAll all
  | some names =>
      let wanted := names.map Text.lowercase
      let missing := wanted.filter fun name => name ∉ all.map Candidate.name
      if missing.isEmpty then takeAll (all.filter fun candidate => candidate.name ∈ wanted)
      else ⟨[], .error (.unknownFrontends (sortNames missing))⟩

def discover (plugins : List Plugin) (enabled : Option (List String)) :
    Except LoadError (List Frontend) :=
  (survey plugins enabled).result

/-! ### Loading a registry -/

/-- Takes records one by one; the first that is not defined or does not fit decides the error. -/
def collectRecords (name : String) (registry : Registry) :
    List (Except DefinitionError RecordDefinition) → Except LoadError Registry
  | [] => .ok registry
  | .error cause :: _ => .error (.definition cause)
  | .ok record :: rest =>
      match registry.add record with
      | .error cause => .error (.schema (.registry name cause))
      | .ok registry => collectRecords name registry rest

structure LoadedRegistry where
  registry : Registry
  messages : List Logging.Message

def listedNames (frontends : List Frontend) : List String :=
  frontends.map fun frontend =>
    if frontend.name.isEmpty then frontend.className else frontend.name

def loadWith (tree : FileTree) (frontends : List Frontend) (path : Path) :
    Except LoadError LoadedRegistry :=
  match frontends.find? fun frontend => frontend.supports path with
  | none => .error (.schema (.noFrontend path.name (listedNames frontends)))
  | some frontend =>
      match frontend.load tree path with
      | .error cause => .error cause
      | .ok loaded =>
          (collectRecords path.name .empty loaded.records).map fun registry =>
            ⟨registry, loaded.messages⟩

def findSchema (tree : FileTree) (path : Path) : Except LoadError Path := do
  let source ← (tree.expandHome path).mapError .file
  if ← (tree.isFile source).mapError .file then return source
  else throw (.schema (.notFound source.text))

/-- Loads the registry of a schema file. The front-ends are sought only once the file is found. -/
def loadRegistry (tree : FileTree) (plugins : List Plugin) (path : Path) :
    Except LoadError LoadedRegistry := do
  let source ← findSchema tree path
  let frontends ← discover plugins none
  loadWith tree frontends source

/-- Loads the registry of a schema file with front-ends that are discovered beforehand. -/
def loadRegistryWith (tree : FileTree) (frontends : List Frontend) (path : Path) :
    Except LoadError LoadedRegistry := do
  let source ← findSchema tree path
  loadWith tree frontends source

end RecordDocs
