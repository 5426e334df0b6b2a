import RecordDocs.Proofs.ExpansionParts

/-!
# Attempts at an expansion

The expansion of a table is a total function: it is given a measure, and passes over a name without
a record. An attempt has neither comfort. It nests only as deep as it is allowed to, a look-up that
finds nothing stops it, and what it noted before it stopped stays noted.

Allowed one level more than there are names left to open, an attempt ends at no limit and fails at
no look-up: it yields the docs and the notes of the expansion. The trees are no higher than that.
-/

namespace RecordDocs

inductive Stop where
  | root (cause : RootError)
  | missingRecord (name : String)
  | tooDeep

/-- A computation that adds to the notes made before it and may be stopped. -/
abbrev Attempt :=
  ExceptT Stop (StateM (List Note))

namespace Attempt

variable {α β : Type}

def note (note : Note) : Attempt Unit :=
  modify fun before => before ++ [note]

def outcome (attempt : Attempt α) (before : List Note) : Except Stop α × List Note :=
  attempt.run before

/-- Whatever was noted before, the attempt ends with the value and adds the notes. -/
def Yields (attempt : Attempt α) (value : α) (notes : List Note) : Prop :=
  ∀ before, attempt.outcome before = (.ok value, before ++ notes)

theorem yields_pure (value : α) : Yields (pure value) value [] := by
  intro before
  rw [List.append_nil]
  rfl

theorem yields_note (remark : Note) : Yields (note remark) () [remark] := by
  intro before
  rfl

theorem outcome_bind_of_ok {attempt : Attempt α} {next : α → Attempt β} {value : α}
    {before after : List Note} (h : attempt.outcome before = (.ok value, after)) :
    (attempt >>= next).outcome before = (next value).outcome after := by
  change (match attempt.outcome before with
    | (result, notes) => ExceptT.bindCont next result notes) = _
  rw [h]
  rfl

theorem Yields.bind {attempt : Attempt α} {next : α → Attempt β} {value : α} {result : β}
    {notes further : List Note} (hattempt : attempt.Yields value notes)
    (hnext : (next value).Yields result further) :
    (attempt >>= next).Yields result (notes ++ further) := by
  intro before
  rw [outcome_bind_of_ok (hattempt before), hnext, List.append_assoc]

theorem yields_mapM {step : α → Attempt β} {value : α → β} {notes : α → List Note}
    {items : List α} (h : ∀ item ∈ items, (step item).Yields (value item) (notes item)) :
    (items.mapM step).Yields (items.map value) (items.flatMap notes) := by
  induction items with
  | nil =>
      rw [List.mapM_nil]
      exact yields_pure []
  | cons item rest ih =>
      rw [List.mapM_cons, List.flatMap_cons, List.map_cons]
      refine (h item List.mem_cons_self).bind ?_
      have hrest := ih fun other hother => h other (List.mem_cons_of_mem item hother)
      rw [← List.append_nil (rest.flatMap notes)]
      exact hrest.bind (yields_pure _)

end Attempt

namespace RecordTable

open Attempt

variable {table : RecordTable} {path : List String} {field : FieldDefinition}

/-! ### Attempting an expansion -/

def recordAt (table : RecordTable) (name : String) : Attempt RecordDefinition :=
  match table.get? name with
  | none => throw (.missingRecord name)
  | some record => pure record

def noteUnknown (field : FieldDefinition) (targets : List String) : Attempt Unit :=
  if targets.isEmpty && (Signature.parse? field.signature).isSome then
    note (.noKnownArgument field)
  else pure ()

def attemptField (table : RecordTable) (inline : String → Attempt (List (DocNode String)))
    (field : FieldDefinition) : Attempt (DocNode String) := do
  let targets := table.references field.signature
  noteUnknown field targets
  let below ← targets.mapM inline
  return .node field.name field.signature field.docLines below.flatten

/-- The fields of a record, with at most `depth` records inside each other. A name on the path is
noted and left out. -/
def attemptFields (table : RecordTable) :
    Nat → List String → List FieldDefinition → Attempt (List (DocNode String))
  | 0, _, _ => throw .tooDeep
  | depth + 1, path, fields => fields.mapM fun field => table.attemptField (fun target => do
      if target ∈ path then
        note (.alreadyOpen field target)
        return []
      else
        let record ← table.recordAt target
        table.attemptFields depth (target :: path) record.fields) field

def attemptBuild (table : RecordTable) (depth : Nat) (root : String) (visiting : List String) :
    Attempt (List (DocNode String)) :=
  match table.get? root with
  | none => throw (.root (.unknownType (.str root)))
  | some record => table.attemptFields depth (root :: visiting) record.fields

theorem yields_recordAt {name : String} {record : RecordDefinition}
    (h : table.get? name = some record) : (table.recordAt name).Yields record [] := by
  rw [recordAt, h]
  exact yields_pure record

theorem yields_noteUnknown (field : FieldDefinition) (targets : List String) :
    (noteUnknown field targets).Yields () (argumentNotes field targets) := by
  rw [noteUnknown, argumentNotes]
  split
  · exact yields_note _
  · exact yields_pure ()

/-- A field is documented as in the expansion if each name that it refers to is. -/
theorem yields_attemptField {inline : String → Attempt (List (DocNode String))}
    (h : ∀ target ∈ table.references field.signature, (inline target).Yields
      (table.expandTarget path field target).docs (table.expandTarget path field target).notes) :
    (table.attemptField inline field).Yields
      (.node field.name field.signature field.docLines (table.expandBelow path field).docs)
      (table.expandField path field).notes := by
  have hdocs : (table.expandBelow path field).docs = ((table.references field.signature).map
      fun target => (table.expandTarget path field target).docs).flatten := by
    rw [docs_expandBelow, List.flatMap_def]
  have hnotes : (table.expandField path field).notes
      = argumentNotes field (table.references field.signature)
        ++ ((table.references field.signature).flatMap
          (fun target => (table.expandTarget path field target).notes) ++ []) := by
    rw [expandField, expandBelow, Expansion.notes_concat, List.flatMap_map, List.append_nil]
  rw [hdocs, hnotes, attemptField]
  refine (yields_noteUnknown field _).bind ?_
  refine (yields_mapM h).bind ?_
  exact yields_pure _

theorem yields_mapM_attemptField {fields : List FieldDefinition}
    {inline : FieldDefinition → String → Attempt (List (DocNode String))}
    (h : ∀ field ∈ fields, ∀ target ∈ table.references field.signature,
      (inline field target).Yields (table.expandTarget path field target).docs
        (table.expandTarget path field target).notes) :
    (fields.mapM fun field => table.attemptField (inline field) field).Yields
      (table.expandFields path fields).docs (table.expandFields path fields).notes := by
  have hfields := yields_mapM fun field hfield => yields_attemptField (h field hfield)
  rw [docs_expandFields, expandFields_eq_concat, Expansion.notes_concat, List.flatMap_map]
  exact hfields

/-! ### Enough depth -/

/-- One level for every name of the table that is not on the path, and one for the fields
themselves: with more than that many levels an attempt is the expansion. -/
theorem yields_attemptFields (table : RecordTable) (path : List String)
    (fields : List FieldDefinition) {depth : Nat} (hdepth : table.openCount path < depth) :
    (table.attemptFields depth path fields).Yields
      (table.expandFields path fields).docs (table.expandFields path fields).notes := by
  induction path using table.path_induction generalizing fields depth with
  | step path ih =>
      obtain ⟨deeper, rfl⟩ : ∃ deeper, depth = deeper + 1 := ⟨depth - 1, by omega⟩
      rw [attemptFields]
      refine yields_mapM_attemptField fun field _ target htarget => ?_
      rcases expandTarget_cases path htarget with ⟨hmem, hnote⟩ | ⟨hnew, record, hget, hexpand⟩
      · rw [if_pos hmem, hnote]
        exact (yields_note _).bind (yields_pure [])
      · have hless := openCount_lt_of_get? hnew hget
        rw [if_neg hnew, hexpand]
        exact (yields_recordAt hget).bind
          (ih target record hnew hget record.fields (by omega))

end RecordTable

/-! ### Height -/

namespace DocNode

variable {Label : Type}

mutual

def height : DocNode Label → Nat
  | .node _ _ _ children => heightAll children + 1

def heightAll : List (DocNode Label) → Nat
  | [] => 0
  | doc :: rest => max doc.height (heightAll rest)

end

theorem heightAll_le_iff {docs : List (DocNode Label)} {bound : Nat} :
    heightAll docs ≤ bound ↔ ∀ doc ∈ docs, doc.height ≤ bound := by
  induction docs with
  | nil => simp [heightAll]
  | cons doc rest ih => rw [heightAll, Nat.max_le, ih, List.forall_mem_cons]

end DocNode

namespace RecordTable

open Attempt

theorem heightAll_expandFields_le (table : RecordTable) (path : List String)
    (fields : List FieldDefinition) :
    DocNode.heightAll (table.expandFields path fields).docs ≤ 1 + table.openCount path := by
  induction path using table.path_induction generalizing fields with
  | step path ih =>
      rw [DocNode.heightAll_le_iff, docs_expandFields]
      intro doc hdoc
      obtain ⟨field, _, rfl⟩ := List.mem_map.mp hdoc
      have hbelow : DocNode.heightAll (table.expandBelow path field).docs
          ≤ table.openCount path := by
        rw [DocNode.heightAll_le_iff, docs_expandBelow]
        intro child hchild
        obtain ⟨target, htarget, hchild⟩ := List.mem_flatMap.mp hchild
        rcases expandTarget_cases path htarget with ⟨_, hnote⟩ | ⟨hnew, record, hget, hexpand⟩
        · rw [hnote] at hchild
          cases hchild
        · rw [hexpand] at hchild
          have hdeeper := DocNode.heightAll_le_iff.mp
            (ih target record hnew hget record.fields) child hchild
          have hless := openCount_lt_of_get? hnew hget
          omega
      rw [DocNode.height]
      omega

/-- **Building ends.** It is refused exactly for a root without a record, before anything is noted.
For any other root it returns, however the records refer to each other: given one level more than
there are names left to open, an attempt runs into no limit and into no missing record, and yields
what is built. No way down in the trees is longer than one node more than that number of names. -/
theorem build_ends (table : RecordTable) (root : String) (visiting : List String) :
    (∀ cause, table.build root visiting = .error cause ↔
      root ∉ table.keys ∧ cause = .unknownType (.str root)) ∧
    (root ∉ table.keys → ∀ depth before, (table.attemptBuild depth root visiting).outcome before
      = (.error (.root (.unknownType (.str root))), before)) ∧
    (root ∈ table.keys → ∃ expansion, table.build root visiting = .ok expansion ∧
      DocNode.heightAll expansion.docs ≤ 1 + table.openCount (root :: visiting) ∧
      ∀ depth, table.openCount (root :: visiting) < depth →
        (table.attemptBuild depth root visiting).Yields expansion.docs expansion.notes) := by
  refine ⟨?_, ?_, ?_⟩
  · intro cause
    by_cases hroot : root ∈ table.keys
    · obtain ⟨record, hget⟩ := exists_get?_of_mem_keys hroot
      rw [build_eq_ok visiting hget]
      simp [hroot]
    · rw [build_eq_error visiting hroot]
      simp [hroot, eq_comm]
  · intro hroot depth before
    rw [attemptBuild, get?_eq_none_iff.mpr hroot]
    rfl
  · intro hroot
    obtain ⟨record, hget⟩ := exists_get?_of_mem_keys hroot
    refine ⟨_, build_eq_ok visiting hget,
      heightAll_expandFields_le table (root :: visiting) record.fields, fun depth hdepth => ?_⟩
    rw [attemptBuild, hget]
    exact yields_attemptFields table (root :: visiting) record.fields hdepth

/-- Books and authors refer to each other, and three levels are enough for a book. -/
theorem library_build_ends :
    "Reader" ∉ library.keys ∧ "Book" ∈ library.keys ∧
      (library.attemptBuild 3 "Reader" []).outcome []
        = (.error (.root (.unknownType (.str "Reader"))), []) ∧
      ∃ expansion, library.build "Book" [] = .ok expansion ∧
        DocNode.heightAll expansion.docs ≤ 3 ∧
        (library.attemptBuild 3 "Book" []).Yields expansion.docs expansion.notes := by
  obtain ⟨expansion, hbuild, hheight, hattempt⟩ := (build_ends library "Book" []).2.2 (by decide)
  exact ⟨by decide, by decide, (build_ends library "Reader" []).2.1 (by decide) 3 [],
    expansion, hbuild, hheight, hattempt 3 (by decide)⟩

end RecordTable

end RecordDocs
