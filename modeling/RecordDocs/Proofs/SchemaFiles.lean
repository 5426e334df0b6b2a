import RecordDocs.Frontend.Discovery
import RecordDocs.Proofs.SchemaGrammar

/-!
# What leaves the loading of a schema file

Loading a schema file is meant to give a registry or to refuse the schema. The octets of the file
can also break the loading off in three other ways, one for each layer that they pass: they are no
text; the reader of the text meets a number or another scalar that it cannot convert; a type is an
integer that is too long to be written. Each of these leaves the loading as an error of its own, and
nothing else does.

Of the two formats only one has all three ways. A JSON text holds no integer that is too long to be
written, since the reader has counted its digits.
-/

namespace RecordDocs

open Frontend Text

/-- An existing file at the place a path leads to, with a suffix of the format. -/
structure IsSchemaFile (tree : FileTree) (path source : Path) (format : SchemaFormat)
    (content : List UInt8) : Prop where
  expand_eq : tree.expandHome path = .ok source
  node_eq : tree.nodeOf source = .ok (.file content)
  suffix_mem : lowercase source.suffix ∈ format.suffixes

/-- The reading of a text breaks off, though the text may be well-formed and is not judged as a
schema. -/
inductive BreaksOff (chars : List Char) : SchemaFormat → LoadError → Prop
  | number {cause : Number.IntegerFault}
      (hread : Json.read (String.ofList chars) = .error (.number cause)) :
      BreaksOff chars .json (.number cause)
  | scalar {fault : Yaml.Fault} (hread : Yaml.read chars = .error fault)
      (hne : fault ≠ .malformed) : BreaksOff chars .yaml (.scalar fault)
  | signature {value : Value} {cause : Number.IntegerFault} (hread : Yaml.read chars = .ok value)
      (hnumber : Schema.readDocument value = .error (.number cause)) :
      BreaksOff chars .yaml (.number cause)

inductive Escapes (format : SchemaFormat) (content : List UInt8) : LoadError → Prop
  | undecodable {fault : Utf8Fault} (hdecode : decodeUtf8 content = .error fault) :
      Escapes format content (.file (.undecodable fault))
  | text {chars : List Char} {cause : LoadError} (hdecode : decodeUtf8 content = .ok chars)
      (hblank : (normaliseNewlines chars).all isBlank = false)
      (hbreaks : BreaksOff (normaliseNewlines chars) format cause) : Escapes format content cause

theorem escapes_iff_of_undecodable {format : SchemaFormat} {content : List UInt8}
    {fault : Utf8Fault} {cause : LoadError} (hdecode : decodeUtf8 content = .error fault) :
    Escapes format content cause ↔ cause = .file (.undecodable fault) := by
  constructor
  · rintro (hother | ⟨hother, -, -⟩)
    · rw [hdecode] at hother
      cases hother
      rfl
    · simp [hdecode] at hother
  · rintro rfl
    exact .undecodable hdecode

theorem escapes_iff_of_text {format : SchemaFormat} {content : List UInt8} {chars : List Char}
    {cause : LoadError} (hdecode : decodeUtf8 content = .ok chars) :
    Escapes format content cause ↔ (normaliseNewlines chars).all isBlank = false ∧
      BreaksOff (normaliseNewlines chars) format cause := by
  constructor
  · rintro (hother | ⟨hother, hblank, hbreaks⟩)
    · simp [hdecode] at hother
    · rw [hdecode] at hother
      cases hother
      exact ⟨hblank, hbreaks⟩
  · rintro ⟨hblank, hbreaks⟩
    exact .text hdecode hblank hbreaks

/-- An outcome breaches the contract of schema files: it is an error, and no refusal of the
schema. -/
def Breaches {α : Type} (outcome : Except LoadError α) (cause : LoadError) : Prop :=
  outcome = .error cause ∧ ∀ refusal, cause ≠ .schema refusal

namespace Breaches

variable {α β : Type} {outcome : Except LoadError α} {cause other : LoadError}

theorem not_ok {value : α} : ¬ Breaches (.ok value) cause :=
  nofun

theorem not_schema {refusal : SchemaError} :
    ¬ Breaches (.error (.schema refusal) : Except LoadError α) cause := by
  rintro ⟨herror, hne⟩
  exact hne refusal (Except.error.inj herror).symm

theorem error_iff (hne : ∀ refusal, other ≠ .schema refusal) :
    Breaches (.error other : Except LoadError α) cause ↔ cause = other := by
  constructor
  · rintro ⟨herror, -⟩
    exact (Except.error.inj herror).symm
  · rintro rfl
    exact ⟨rfl, hne⟩

theorem of_error {failure : LoadError}
    (h : Breaches (.error failure : Except LoadError α) cause) :
    Breaches (.error failure : Except LoadError β) cause :=
  ⟨congrArg _ (Except.error.inj h.1), h.2⟩

theorem kept_iff :
    ((∃ value, outcome = .ok value) ∨ ∃ refusal, outcome = .error (.schema refusal)) ↔
      ∀ cause, ¬ Breaches outcome cause := by
  constructor
  · rintro (⟨value, rfl⟩ | ⟨refusal, rfl⟩) cause
    · exact not_ok
    · exact not_schema
  · intro hkept
    cases outcome with
    | ok value => exact .inl ⟨value, rfl⟩
    | error failure =>
        by_cases hschema : ∃ refusal, failure = .schema refusal
        · obtain ⟨refusal, rfl⟩ := hschema
          exact .inr ⟨refusal, rfl⟩
        · exact absurd ⟨rfl, not_exists.mp hschema⟩ (hkept failure)

theorem bind_iff {next : α → Except LoadError β} :
    Breaches (outcome >>= next) cause ↔
      Breaches outcome cause ∨ ∃ value, outcome = .ok value ∧ Breaches (next value) cause := by
  cases outcome with
  | ok value =>
      constructor
      · exact fun h => .inr ⟨value, rfl, h⟩
      · rintro (h | ⟨_, hok, h⟩)
        · exact absurd h not_ok
        · cases hok
          exact h
  | error failure =>
      constructor
      · exact fun h => .inl h.of_error
      · rintro (h | ⟨_, hok, -⟩)
        · exact h.of_error
        · cases hok

theorem map_iff {next : α → β} : Breaches (outcome.map next) cause ↔ Breaches outcome cause := by
  cases outcome with
  | ok value => exact iff_of_false not_ok not_ok
  | error failure => exact ⟨of_error, of_error⟩

end Breaches

section

variable {tree : FileTree} {path source : Path} {format : SchemaFormat} {content : List UInt8}
  {chars : List Char} {name : String} {cause : LoadError}

/-! ### The layers that octets pass -/

theorem IsSchemaFile.readText_eq (h : IsSchemaFile tree path source format content) :
    tree.readText source
      = ((decodeUtf8 content).mapError .undecodable).map normaliseNewlines :=
  FileTree.readText_of_nodeOf h.node_eq

theorem IsSchemaFile.readSchemaText_eq (h : IsSchemaFile tree path source format content) :
    readSchemaText tree source
      = ((decodeUtf8 content).mapError fun fault => .file (.undecodable fault)).map
          normaliseNewlines := by
  rw [readSchemaText, h.readText_eq]
  cases decodeUtf8 content with
  | ok chars => rfl
  | error fault => rfl

theorem breaches_readRecords_iff {value : Value} :
    Breaches (readRecords name value) cause ↔
      ∃ fault, Schema.readDocument value = .error (.number fault) ∧ cause = .number fault := by
  rw [readRecords]
  split
  · simp [*, Breaches.not_ok]
  · simp [*, Breaches.not_schema]
  · rename_i fault hread
    have hne : ∀ refusal, LoadError.number fault ≠ .schema refusal := nofun
    simp [hread, Breaches.error_iff hne]

theorem breaches_read_yaml_iff : Breaches (SchemaFormat.yaml.read name chars) cause ↔
    ∃ fault, Yaml.read chars = .error fault ∧ fault ≠ .malformed ∧ cause = .scalar fault := by
  simp only [SchemaFormat.read]
  split
  · simp [*, Breaches.not_ok]
  · simp [*, Breaches.not_schema]
  · rename_i fault hmalformed hread
    have hne : ∀ refusal, LoadError.scalar fault ≠ .schema refusal := nofun
    rw [Breaches.error_iff hne, hread]
    constructor
    · rintro rfl
      exact ⟨fault, rfl, hmalformed, rfl⟩
    · rintro ⟨_, hfault, -, rfl⟩
      cases hfault
      rfl

theorem breaches_read_json_iff : Breaches (SchemaFormat.json.read name chars) cause ↔
    ∃ fault, Json.read (String.ofList chars) = .error (.number fault) ∧ cause = .number fault := by
  simp only [SchemaFormat.read]
  split
  · simp [*, Breaches.not_ok]
  · simp [*, Breaches.not_schema]
  · rename_i fault hread
    have hne : ∀ refusal, LoadError.number fault ≠ .schema refusal := nofun
    simp [hread, Breaches.error_iff hne]

theorem readDocument_ne_number {text : String} {value : Value} {fault : Number.IntegerFault}
    (hread : Json.read text = .ok value) : Schema.readDocument value ≠ .error (.number fault) := by
  intro hnumber
  obtain ⟨_, hfault, -⟩ := (Schema.readDocument_decides (.of_read hread)).exists_fault hnumber
  cases hfault

theorem read_yaml_eq_ok_iff {value : Value} :
    SchemaFormat.yaml.read name chars = .ok value ↔ Yaml.read chars = .ok value := by
  simp only [SchemaFormat.read]
  split <;> simp [*]

theorem read_json_eq_ok_iff {value : Value} :
    SchemaFormat.json.read name chars = .ok value ↔
      Json.read (String.ofList chars) = .ok value := by
  simp only [SchemaFormat.read]
  split <;> simp [*]

theorem breaches_read_iff :
    Breaches (format.read name chars >>= readRecords name) cause ↔
      BreaksOff chars format cause := by
  rw [Breaches.bind_iff]
  simp only [breaches_readRecords_iff]
  constructor
  · intro h
    cases format with
    | yaml =>
        rw [breaches_read_yaml_iff] at h
        rcases h with ⟨fault, hread, hne, rfl⟩ | ⟨value, hread, fault, hnumber, rfl⟩
        · exact .scalar hread hne
        · exact .signature (read_yaml_eq_ok_iff.mp hread) hnumber
    | json =>
        rw [breaches_read_json_iff] at h
        rcases h with ⟨fault, hread, rfl⟩ | ⟨value, hread, fault, hnumber, rfl⟩
        · exact .number hread
        · exact absurd hnumber (readDocument_ne_number (read_json_eq_ok_iff.mp hread))
  · rintro (hread | ⟨hread, hne⟩ | ⟨hread, hnumber⟩)
    · exact .inl (breaches_read_json_iff.mpr ⟨_, hread, rfl⟩)
    · exact .inl (breaches_read_yaml_iff.mpr ⟨_, hread, hne, rfl⟩)
    · exact .inr ⟨_, read_yaml_eq_ok_iff.mpr hread, _, hnumber, rfl⟩

/-! ### A schema file as a whole -/

namespace IsSchemaFile

theorem loadSchema_of_undecodable {fault : Utf8Fault}
    (h : IsSchemaFile tree path source format content)
    (hdecode : decodeUtf8 content = .error fault) :
    loadSchema format tree source = .error (.file (.undecodable fault)) := by
  rw [loadSchema, h.readSchemaText_eq, hdecode]
  rfl

theorem loadSchema_of_blank (h : IsSchemaFile tree path source format content)
    (hdecode : decodeUtf8 content = .ok chars) (hblank : (normaliseNewlines chars).all isBlank) :
    loadSchema format tree source = .ok ⟨[], [loadedMessage source.name 0]⟩ := by
  rw [loadSchema, h.readSchemaText_eq, hdecode]
  change (if (normaliseNewlines chars).all isBlank then _ else _) = _
  rw [if_pos hblank]
  rfl

theorem loadSchema_of_text (h : IsSchemaFile tree path source format content)
    (hdecode : decodeUtf8 content = .ok chars)
    (hblank : (normaliseNewlines chars).all isBlank = false) :
    loadSchema format tree source
      = (format.read source.name (normaliseNewlines chars) >>= readRecords source.name).map
          fun records => ⟨records.map .ok, [loadedMessage source.name records.length]⟩ := by
  rw [loadSchema, h.readSchemaText_eq, hdecode]
  change (if (normaliseNewlines chars).all isBlank then _ else _) = _
  rw [if_neg (by simp [hblank])]
  cases format.read source.name (normaliseNewlines chars) with
  | error failure => rfl
  | ok value => rfl

end IsSchemaFile

theorem breaches_loadSchema_iff (h : IsSchemaFile tree path source format content) :
    Breaches (loadSchema format tree source) cause ↔ Escapes format content cause := by
  cases hdecode : decodeUtf8 content with
  | error fault =>
      have hne : ∀ refusal, LoadError.file (.undecodable fault) ≠ .schema refusal := nofun
      rw [h.loadSchema_of_undecodable hdecode, Breaches.error_iff hne,
        escapes_iff_of_undecodable hdecode]
  | ok chars =>
      rw [escapes_iff_of_text hdecode]
      cases hblank : (normaliseNewlines chars).all isBlank with
      | true =>
          rw [h.loadSchema_of_blank hdecode hblank]
          exact iff_of_false Breaches.not_ok nofun
      | false =>
          rw [h.loadSchema_of_text hdecode hblank, Breaches.map_iff, breaches_read_iff]
          exact (and_iff_right rfl).symm

theorem IsSchemaFile.exists_records_eq {loaded : Loaded}
    (h : IsSchemaFile tree path source format content)
    (hload : loadSchema format tree source = .ok loaded) :
    ∃ records : List RecordDefinition, loaded.records = records.map .ok := by
  cases hdecode : decodeUtf8 content with
  | error fault =>
      rw [h.loadSchema_of_undecodable hdecode] at hload
      cases hload
  | ok chars =>
      cases hblank : (normaliseNewlines chars).all isBlank with
      | true =>
          rw [h.loadSchema_of_blank hdecode hblank] at hload
          cases hload
          exact ⟨[], rfl⟩
      | false =>
          rw [h.loadSchema_of_text hdecode hblank] at hload
          obtain ⟨records, -, rfl⟩ := map_eq_ok hload
          exact ⟨records, rfl⟩

/-- Collecting records that are defined is adding them, one by one. -/
theorem collectRecords_map_ok (name : String) (registry : Registry)
    (records : List RecordDefinition) :
    collectRecords name registry (records.map .ok)
      = (registry.addAll (records.map .record)).mapError fun cause =>
          .schema (.registry name cause) := by
  induction records generalizing registry with
  | nil => rfl
  | cons record rest ih =>
      rw [List.map_cons, collectRecords, List.map_cons, Registry.addAll, List.foldlM_cons,
        Registry.addEntry]
      cases registry.add record with
      | error failure => rfl
      | ok larger => exact ih larger

/-- Collecting records that are defined can only fail for what a registry refuses. -/
theorem not_breaches_collectRecords {registry : Registry} {records : List RecordDefinition} :
    ¬ Breaches (collectRecords name registry (records.map .ok)) cause := by
  rw [collectRecords_map_ok]
  cases registry.addAll (records.map .record) with
  | error failure => exact Breaches.not_schema
  | ok larger => exact Breaches.not_ok

theorem supports_schema_iff {className frontendName : String} :
    (schema className frontendName format).supports source ↔
      lowercase source.suffix ∈ format.suffixes := by
  simp only [schema, List.contains_iff_mem]

/-- Of the built-in front-ends the one for the format is the first that supports the file. -/
theorem exists_find?_builtin (h : lowercase source.suffix ∈ format.suffixes) :
    ∃ frontend, builtin.find? (fun frontend => frontend.supports source) = some frontend ∧
      frontend.load = loadSchema format := by
  rw [builtin, yaml, json]
  cases format with
  | yaml => exact ⟨_, List.find?_cons_of_pos (supports_schema_iff.mpr h), rfl⟩
  | json =>
      -- the front-end for the other format is asked first and has to decline
      have hsuffix : lowercase source.suffix = ".json" := List.mem_singleton.mp h
      have hyaml : lowercase source.suffix ∉ SchemaFormat.yaml.suffixes := by
        rw [hsuffix]
        decide
      refine ⟨_, (List.find?_cons_of_neg ?_).trans (List.find?_cons_of_pos ?_), rfl⟩
      · exact mt supports_schema_iff.mp hyaml
      · exact supports_schema_iff.mpr h

theorem IsSchemaFile.findSchema_eq (h : IsSchemaFile tree path source format content) :
    findSchema tree path = .ok source := by
  have hfile : tree.isFile source = .ok true := by
    rw [FileTree.isFile, FileTree.find?, h.node_eq]
    rfl
  rw [findSchema, h.expand_eq]
  change (tree.isFile source).mapError LoadError.file >>= _ = _
  rw [hfile]
  rfl

theorem IsSchemaFile.loadRegistry_eq (h : IsSchemaFile tree path source format content) :
    loadRegistry tree [] path = loadSchema format tree source >>= fun loaded =>
      (collectRecords source.name .empty loaded.records).map fun registry =>
        ⟨registry, loaded.messages⟩ := by
  obtain ⟨frontend, hfind, hload⟩ := exists_find?_builtin h.suffix_mem
  have hdiscover : discover [] none = .ok builtin := rfl
  have hregistry : loadRegistry tree [] path = loadWith tree builtin source := by
    rw [loadRegistry, h.findSchema_eq, hdiscover, ok_bind, ok_bind]
  rw [hregistry, loadWith, hfind]
  simp only [hload]
  cases loadSchema format tree source with
  | error failure => rfl
  | ok loaded => rfl

theorem breaches_loadRegistry_iff (h : IsSchemaFile tree path source format content) :
    Breaches (loadRegistry tree [] path) cause ↔ Escapes format content cause := by
  rw [h.loadRegistry_eq, Breaches.bind_iff, breaches_loadSchema_iff h]
  constructor
  · rintro (hescapes | ⟨loaded, hload, hcollect⟩)
    · exact hescapes
    · -- what was read are records, so that all that is left to fail is a refusal by the registry
      obtain ⟨records, hrecords⟩ := h.exists_records_eq hload
      rw [Breaches.map_iff, hrecords] at hcollect
      exact absurd hcollect not_breaches_collectRecords
  · exact .inl

/-- **What leaves the loading of a schema file.** For a file with the suffix of a format, whatever
its octets, the loading gives a registry or refuses the schema unless the octets break it off; and
if they do, it ends in the very error with which they do. -/
theorem loadRegistry_keeps_contract_iff (h : IsSchemaFile tree path source format content) :
    (((∃ loaded, loadRegistry tree [] path = .ok loaded) ∨
        ∃ refusal, loadRegistry tree [] path = .error (.schema refusal)) ↔
      ∀ cause, ¬ Escapes format content cause) ∧
    ∀ cause, Breaches (loadRegistry tree [] path) cause ↔ Escapes format content cause := by
  have hbreaches : ∀ cause, Breaches (loadRegistry tree [] path) cause ↔
      Escapes format content cause := fun _ => breaches_loadRegistry_iff h
  refine ⟨?_, hbreaches⟩
  rw [Breaches.kept_iff]
  exact forall_congr' fun cause => not_congr (hbreaches cause)

end

def cabinet : FileTree :=
  ⟨[], [], [(["object.json"], .file [0x7B, 0x7D]), (["octet.json"], .file [0xFF])]⟩

def objectPath : Path :=
  ⟨"", ["object.json"]⟩

def octetPath : Path :=
  ⟨"", ["octet.json"]⟩

theorem lowercase_json_mem : lowercase ".json" ∈ SchemaFormat.json.suffixes := by
  have hlower : lowercase ".json" = ".json" := by cbv
  rw [hlower]
  exact List.mem_singleton_self _

theorem isSchemaFile_object :
    IsSchemaFile cabinet objectPath objectPath .json [0x7B, 0x7D] where
  expand_eq := rfl
  node_eq := rfl
  suffix_mem := by
    have hsuffix : objectPath.suffix = ".json" := by decide
    exact hsuffix ▸ lowercase_json_mem

theorem isSchemaFile_octet : IsSchemaFile cabinet octetPath octetPath .json [0xFF] where
  expand_eq := rfl
  node_eq := rfl
  suffix_mem := by
    have hsuffix : octetPath.suffix = ".json" := by decide
    exact hsuffix ▸ lowercase_json_mem

theorem decodeUtf8_octet : decodeUtf8 [0xFF] = .error ⟨.start, 0, 0xFF, 1⟩ := by cbv

/-- The octet leaves the loading as an error of its own, while the object gives a registry. -/
theorem cabinet_octet_breaches_object_keeps :
    ((∃ loaded, loadRegistry cabinet [] objectPath = .ok loaded) ∨
      ∃ refusal, loadRegistry cabinet [] objectPath = .error (.schema refusal)) ∧
    Breaches (loadRegistry cabinet [] octetPath) (.file (.undecodable ⟨.start, 0, 0xFF, 1⟩)) := by
  constructor
  · refine (loadRegistry_keeps_contract_iff isSchemaFile_object).1.mpr fun cause hescapes => ?_
    have hdecode : decodeUtf8 [0x7B, 0x7D] = .ok ['\x7b', '\x7d'] := by cbv
    obtain ⟨-, hbreaks⟩ := (escapes_iff_of_text hdecode).mp hescapes
    have hread : Json.read (String.ofList (normaliseNewlines ['\x7b', '\x7d']))
        = .ok (.dict []) := by cbv
    cases hbreaks with
    | number hnumber =>
        rw [hread] at hnumber
        cases hnumber
  · exact ((loadRegistry_keeps_contract_iff isSchemaFile_octet).2 _).mpr
      (.undecodable decodeUtf8_octet)

/-- A schema file whose loading gives no registry and does not refuse the schema either. -/
theorem loadRegistry_octet_breaks_contract :
    IsSchemaFile cabinet octetPath octetPath .json [0xFF] ∧
    ¬ ((∃ loaded, loadRegistry cabinet [] octetPath = .ok loaded) ∨
      ∃ refusal, loadRegistry cabinet [] octetPath = .error (.schema refusal)) := by
  have hbreaches : Breaches (loadRegistry cabinet [] octetPath)
      (.file (.undecodable ⟨.start, 0, 0xFF, 1⟩)) :=
    (breaches_loadRegistry_iff isSchemaFile_octet).mpr (.undecodable decodeUtf8_octet)
  exact ⟨isSchemaFile_octet, fun hkept => Breaches.kept_iff.mp hkept _ hbreaches⟩

end RecordDocs
