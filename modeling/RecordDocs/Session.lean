import RecordDocs.Expansion

/-!
# Sessions

A session holds registries under names. Each step makes a registry from entries, from a table or
from an earlier registry, or asks one a question. A step that is refused changes nothing, and a
name is bound anew only by a step that succeeds in making a registry.
-/

namespace RecordDocs

inductive EntryDraft where
  | record (draft : RecordDraft)
  | foreign (value : Value)

inductive SessionError where
  | definition (cause : DefinitionError)
  | registry (cause : RegistryError)
  | root (cause : RootError)
  | misuse (cause : Misuse)
  | missingKey (key : Value)
  | readOnly
  | noRegistry (name : String)

def SessionError.message : SessionError → String
  | .definition cause => cause.message
  | .registry cause => cause.message
  | .root cause => cause.message
  | .misuse cause => cause.message
  | .missingKey key => key.wording
  | .readOnly => "'Registry' object does not support item assignment"
  | .noRegistry name => Text.quoted name

def EntryDraft.define : EntryDraft → Except SessionError Entry
  | .record draft => (draft.define.map .record).mapError .definition
  | .foreign value => .ok (.foreign value)

/-- Adds entries that are defined only when their turn comes, so that the first faulty one decides
the error. -/
def Registry.addDrafts (registry : Registry) (drafts : List EntryDraft) :
    Except SessionError Registry :=
  drafts.foldlM (fun registry draft => do
    (registry.addEntry (← draft.define)).mapError .registry) registry

def Registry.ofDrafts (drafts : List EntryDraft) : Except SessionError Registry :=
  Registry.empty.addDrafts drafts

def RecordTable.ofDrafts (drafts : List (String × RecordDraft)) :
    Except DefinitionError RecordTable := do
  let entries ← drafts.mapM fun (name, draft) => do return (name, ← draft.define)
  return RecordTable.ofEntries entries

/-- What is merged into a registry: entries, all defined beforehand, or another registry. -/
inductive Addition where
  | entries (drafts : List EntryDraft)
  | registry (name : String)

inductive Step where
  | create (target : String) (drafts : List EntryDraft)
  | fromTable (target : String) (drafts : List (String × RecordDraft))
  | merge (source target : String) (addition : Addition)
  | state (source : String)
  | require (source : String) (key : Value)
  | item (source : String) (key : Value)
  | find (source : String) (key : Value)
  | contains (source : String) (key : Value)
  | assign (source : String) (key : Value)
  | agrees (source other : String)
  | resolve (source : String) (signature : Value)
  | build (source : String) (request : BuildRequest)

inductive Answer where
  | made (registry : Registry)
  | state (registry : Registry)
  | record (record : Option RecordDefinition)
  | flag (flag : Bool)
  | names (names : List String)
  | docs (docs : List (DocNode String))

structure Session where
  registries : List (String × Registry)

namespace Session

def empty : Session := ⟨[]⟩

def registry (session : Session) (name : String) : Except SessionError Registry :=
  match session.registries.lookup name with
  | none => .error (.noRegistry name)
  | some registry => .ok registry

def bind (session : Session) (name : String) (registry : Registry) : Session :=
  ⟨(name, registry) :: session.registries⟩

/-- The registry that a step makes, and the name it gets; none for a step that only asks. -/
def make (session : Session) : Step → Option (String × Except SessionError Registry)
  | .create target drafts => some (target, Registry.ofDrafts drafts)
  | .fromTable target drafts => some (target, do
      let table ← (RecordTable.ofDrafts drafts).mapError .definition
      (Registry.ofTable table).mapError .registry)
  | .merge source target addition => some (target, do
      let registry ← session.registry source
      let entries ← match addition with
        | .entries drafts => drafts.mapM EntryDraft.define
        | .registry name => do
            let other ← session.registry name
            pure (other.records.map Entry.record)
      (registry.merged entries).mapError .registry)
  | _ => none

def findRecord (registry : Registry) (key : Value) :
    Except SessionError (Option RecordDefinition) :=
  (registry.table.find key).mapError .misuse

/-- The names that a signature refers to; a signature that is no text refers to nothing. -/
def resolve (registry : Registry) : Value → List String
  | .str signature => registry.table.references signature
  | _ => []

def ask (session : Session) : Step → Except SessionError Answer
  | .state source => do return .state (← session.registry source)
  | .require source key => do
      match ← findRecord (← session.registry source) key with
      | some record => return .record (some record)
      | none => throw (.root (.unknownType key))
  | .item source key => do
      match ← findRecord (← session.registry source) key with
      | some record => return .record (some record)
      | none => throw (.missingKey key)
  | .find source key => do return .record (← findRecord (← session.registry source) key)
  | .contains source key => do
      return .flag (← findRecord (← session.registry source) key).isSome
  | .assign source key => do
      let _ ← session.registry source
      let _ ← (RecordDefinition.ofValues key [] none).mapError .definition
      throw .readOnly
  | .agrees source other => do
      return .flag ((← session.registry source).agrees (← session.registry other))
  | .resolve source signature => do return .names (resolve (← session.registry source) signature)
  | .build source request => do
      let expansion ← (request.answer (← session.registry source).table).mapError .root
      return .docs expansion.docs
  | .create target _ | .fromTable target _ | .merge _ target _ => throw (.noRegistry target)

def step (session : Session) (step : Step) : Session × Except SessionError Answer :=
  match session.make step with
  | some (name, .ok registry) => (session.bind name registry, .ok (.made registry))
  | some (_, .error cause) => (session, .error cause)
  | none => (session, session.ask step)

def run (session : Session) : List Step → Session × List (Except SessionError Answer)
  | [] => (session, [])
  | first :: rest =>
      let (next, answer) := session.step first
      let (final, answers) := next.run rest
      (final, answer :: answers)

end Session

end RecordDocs
