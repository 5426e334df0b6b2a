import RecordDocs.Proofs.ClassLines
import RecordDocs.Proofs.SteadyOutcomes
import RecordDocs.Reflection

/-!
# Reading the annotations of a class

The annotations of a class are read alike from all memories of some kind: each stands for a type, or
cannot be resolved. Then its record shows every field by the type that its annotation is read as,
or, if an annotation in the lineage cannot be resolved, by what the annotation is read as on its
own: a text as before, or as it stands but for its brackets, and any other annotation as it is.
-/

namespace RecordDocs

open Annotation

variable {kept : Memory → Prop} {scope : Scope} {reading : TypeForm → Except Fault TypeForm}
  {declared : TypeForm}

/-! ### Annotations -/

/-- Whatever is remembered, the annotation is read as its reading says: it stands for a type, or
resolving it ends in a fault that says that it cannot be resolved. -/
inductive IsRead (kept : Memory → Prop) (scope : Scope) (reading : TypeForm → Except Fault TypeForm)
    (declared : TypeForm) : Prop
  | asType {form type : TypeForm} (hresolve : Steady kept (scope.resolve declared) (.ok form))
      (hnotes : Steady kept form.withoutNotes (.ok type)) (hreading : reading declared = .ok type)
  | unresolvable {fault : Fault} (hresolve : Steady kept (scope.resolve declared) (.error fault))
      (hfault : fault.isUnresolvable = true) (hreading : reading declared = .error fault)

theorem IsRead.hint (h : IsRead kept scope reading declared) :
    Steady kept (scope.hint declared) (reading declared) := by
  cases h with
  | asType hresolve hnotes hreading =>
      rw [hreading]
      exact hresolve.bind_ok hnotes
  | unresolvable hresolve hfault hreading =>
      rw [hreading]
      exact hresolve.bind_error

theorem IsRead.of_error {fault : Fault} (h : IsRead kept scope reading declared)
    (herror : reading declared = .error fault) :
    Steady kept (scope.resolve declared) (.error fault) ∧ fault.isUnresolvable = true := by
  cases h with
  | asType hresolve hnotes hreading =>
      rw [hreading] at herror
      cases herror
  | unresolvable hresolve hfault hreading =>
      rw [hreading] at herror
      cases herror
      exact ⟨hresolve, hfault⟩

theorem IsRead.of_ok {type : TypeForm} (h : IsRead kept scope reading declared)
    (hok : reading declared = .ok type) :
    ∃ form, Steady kept (scope.resolve declared) (.ok form) ∧
      Steady kept form.withoutNotes (.ok type) := by
  cases h with
  | asType hresolve hnotes hreading =>
      rw [hreading] at hok
      cases hok
      exact ⟨_, hresolve, hnotes⟩
  | unresolvable hresolve hfault hreading =>
      rw [hreading] at hok
      cases hok

theorem steady_orUnresolved_ok {α : Type} {make : Forming α} {value fallback : α}
    (h : Steady kept make (.ok value)) : Steady kept (orUnresolved make fallback) (.ok value) :=
  h.tryCatch (fun cause => .error cause) fun _ hok => by cases hok

theorem steady_orUnresolved_error {α : Type} {make : Forming α} {fallback : α} {fault : Fault}
    (h : Steady kept make (.error fault)) (hfault : fault.isUnresolvable = true) :
    Steady kept (orUnresolved make fallback) (.ok fallback) := by
  refine h.tryCatch (fun _ => .ok fallback) fun cause hcause => ?_
  obtain rfl := Except.error.inj hcause
  rw [if_pos hfault]
  exact steady_pure fallback

def isText : TypeForm → Bool
  | .constant (.text _) => true
  | _ => false

theorem exists_eq_text (h : isText declared = true) :
    ∃ text, declared = .constant (.text text) := by
  unfold isText at h
  split at h
  · exact ⟨_, rfl⟩
  · cases h

theorem loneHint_of_not_isText (h : isText declared = false) :
    loneHint scope declared = pure declared := by
  unfold loneHint
  split
  · cases h
  · rfl

def readAlone (reading : TypeForm → Except Fault TypeForm) (declared : TypeForm) : TypeForm :=
  match declared with
  | .constant (.text text) =>
      match reading declared with
      | .ok type => type
      | .error _ => .constant (.text (angledText text))
  | form => form

theorem readAlone_of_not_isText (h : isText declared = false) :
    readAlone reading declared = declared := by
  unfold readAlone
  split
  · cases h
  · rfl

theorem readAlone_of_ok {type : TypeForm} (htext : isText declared = true)
    (hreading : reading declared = .ok type) : readAlone reading declared = type := by
  obtain ⟨text, rfl⟩ := exists_eq_text htext
  rw [readAlone, hreading]

theorem readAlone_of_error {text : String} {fault : Fault}
    (hreading : reading (.constant (.text text)) = .error fault) :
    readAlone reading (.constant (.text text)) = .constant (.text (angledText text)) := by
  rw [readAlone, hreading]

theorem steady_loneHint (h : IsRead kept scope reading declared) :
    Steady kept (loneHint scope declared) (.ok (readAlone reading declared)) := by
  cases htext : isText declared with
  | false =>
      rw [loneHint_of_not_isText htext, readAlone_of_not_isText htext]
      exact steady_pure declared
  | true =>
      have hhint := h.hint
      cases hreading : reading declared with
      | ok type =>
          rw [hreading] at hhint
          rw [readAlone_of_ok htext hreading]
          obtain ⟨text, rfl⟩ := exists_eq_text htext
          exact steady_orUnresolved_ok hhint
      | error fault =>
          rw [hreading] at hhint
          obtain ⟨text, rfl⟩ := exists_eq_text htext
          rw [readAlone_of_error hreading]
          exact steady_orUnresolved_error hhint (h.of_error hreading).2

/-! ### Hints of a class -/

namespace AnnotatedClass

variable {cls : AnnotatedClass}

def isResolved (reading : TypeForm → Except Fault TypeForm) (cls : AnnotatedClass) : Bool :=
  cls.declarations.all fun entry => (reading entry.2.declared).isOk

theorem exists_type_of_isResolved {entry : String × Attribute}
    (hresolved : cls.isResolved reading = true)
    (hmem : entry ∈ cls.declarations) : ∃ type, reading entry.2.declared = .ok type := by
  have hok := List.all_eq_true.mp hresolved entry hmem
  cases hreading : reading entry.2.declared with
  | ok type => exact ⟨type, rfl⟩
  | error fault => simp [hreading, Except.isOk, Except.toBool] at hok

/-- If every annotation is read as a type, the hints are these types, of the declarations that
count. -/
theorem steady_hints_ok (type : TypeForm → TypeForm)
    (hread : ∀ entry ∈ cls.declarations, IsRead kept scope reading entry.2.declared)
    (htype : ∀ entry ∈ cls.declarations, reading entry.2.declared = .ok (type entry.2.declared)) :
    Steady kept (cls.hints scope)
      (.ok (cls.annotated.map fun entry => (entry.1, type entry.2.declared))) := by
  have hforms : ∀ declared, (∃ entry ∈ cls.declarations, entry.2.declared = declared) →
      ∃ form, Steady kept (scope.resolve declared) (.ok form) ∧
        Steady kept form.withoutNotes (.ok (type declared)) := by
    rintro _ ⟨entry, hmem, rfl⟩
    exact (hread entry hmem).of_ok (htype entry hmem)
  choose! form hresolve hnotes using hforms
  refine steady_orUnresolved_ok ?_
  -- first all declarations are resolved, and then those that count lose their notes
  have hresolved : Steady kept
      (cls.declarations.mapM fun entry => do return (entry.1, ← scope.resolve entry.2.declared))
      (.ok (cls.declarations.map fun entry => (entry.1, form entry.2.declared))) := by
    refine Steady.mapM_ok ?_
    rw [List.forall₂_map_right_iff, List.forall₂_same]
    intro entry hmem
    exact (hresolve _ ⟨entry, hmem, rfl⟩).bind_ok (steady_pure _)
  refine hresolved.bind_ok ?_
  have hcount : putAll [] (cls.declarations.map fun entry => (entry.1, form entry.2.declared))
      = cls.annotated.map fun entry => (entry.1, form entry.2.declared) :=
    putAll_map (fun member : Attribute => form member.declared) [] cls.declarations
  rw [hcount]
  refine Steady.mapM_ok ?_
  rw [List.forall₂_map_right_iff, List.forall₂_map_left_iff, List.forall₂_same]
  intro entry hmem
  exact (hnotes _ ⟨entry, mem_declarations_of_mem_annotated hmem, rfl⟩).bind_ok (steady_pure _)

/-- The first annotation that cannot be resolved ends the resolving of all. -/
theorem steady_resolve_error {entries : List (String × Attribute)}
    (hread : ∀ entry ∈ entries, IsRead kept scope reading entry.2.declared)
    (hresolved : (entries.all fun entry => (reading entry.2.declared).isOk) = false) :
    ∃ fault : Fault, fault.isUnresolvable = true ∧ Steady kept
      (entries.mapM fun entry => do return (entry.1, ← scope.resolve entry.2.declared))
      (.error fault) := by
  induction entries with
  | nil => cases hresolved
  | cons entry rest ih =>
      rw [List.forall_mem_cons] at hread
      simp only [List.mapM_cons]
      cases hreading : reading entry.2.declared with
      | error fault =>
          obtain ⟨hresolve, hfault⟩ := hread.1.of_error hreading
          exact ⟨fault, hfault, hresolve.bind_error.bind_error⟩
      | ok type =>
          rw [List.all_cons, hreading, Except.isOk, Except.toBool, Bool.true_and] at hresolved
          obtain ⟨form, hresolve, -⟩ := hread.1.of_ok hreading
          obtain ⟨fault, hfault, hrest⟩ := ih hread.2 hresolved
          have hfirst : Steady kept (do return (entry.1, ← scope.resolve entry.2.declared))
              (.ok (entry.1, form)) := hresolve.bind_ok (steady_pure _)
          exact ⟨fault, hfault, hfirst.bind_ok hrest.bind_error⟩

theorem steady_hints_nil
    (hread : ∀ entry ∈ cls.declarations, IsRead kept scope reading entry.2.declared)
    (hresolved : cls.isResolved reading = false) : Steady kept (cls.hints scope) (.ok []) := by
  obtain ⟨fault, hfault, hresolve⟩ := steady_resolve_error hread hresolved
  exact steady_orUnresolved_error hresolve.bind_error hfault

/-! ### Records -/

def scopeOf (names locals : Scope) (cls : AnnotatedClass) : Scope :=
  locals ++ (cls.name, cls.type) :: names

def defineShowing (type : TypeForm) (name : String) (member : Attribute) :
    Except ReflectionError FieldDefinition := do
  let signature ← type.signature?.mapError ReflectionError.fault
  let lines ← metadataLines member.doc
  (FieldDraft.define ⟨.str name, .str signature, some (.list (lines.map .str))⟩).mapError
    ReflectionError.definition

def shownType (reading : TypeForm → Except Fault TypeForm) (cls : AnnotatedClass)
    (declared : TypeForm) : TypeForm :=
  if cls.isResolved reading then (reading declared).toOption.getD declared
  else readAlone reading declared

theorem shownType_of_ok {type : TypeForm} (hresolved : cls.isResolved reading = true)
    (hreading : reading declared = .ok type) : cls.shownType reading declared = type := by
  rw [shownType, if_pos hresolved, hreading]
  rfl

theorem shownType_of_not_isResolved (hresolved : cls.isResolved reading = false) :
    cls.shownType reading declared = readAlone reading declared :=
  if_neg (by simp [hresolved])

def recordReading (reading : TypeForm → Except Fault TypeForm) (names : Scope)
    (cls : AnnotatedClass) : Except ReflectionError RecordDefinition := do
  let some fields := cls.fields? names | throw (.notDataClass cls.type.wording)
  let definitions ← fields.mapM fun (name, member) =>
    defineShowing (cls.shownType reading member.declared) name member
  (RecordDefinition.ofValues (.str cls.name) definitions
    (some (.list (cls.docLines.map .str)))).mapError ReflectionError.definition

/-- The class's annotations are read in a way, and what it has gathered is what counts in its
lineage. -/
structure IsReadBy (kept : Memory → Prop) (scope : Scope)
    (reading : TypeForm → Except Fault TypeForm) (cls : AnnotatedClass) : Prop where
  isRead : ∀ entry ∈ cls.declarations, IsRead kept scope reading entry.2.declared
  counts : ∀ gathered, cls.body.gathered = some gathered →
    ∀ entry ∈ gathered, cls.annotated.lookup entry.1 = some entry.2

theorem defineShowing_eq_ok_iff {type : TypeForm} {name : String} {member : Attribute}
    {field : FieldDefinition} :
    defineShowing type name member = .ok field ↔ type.isWritable = true ∧
      metadataLines member.doc = .ok field.docLines ∧ field.name = name ∧
        field.signature = type.signature := by
  constructor
  · intro h
    obtain ⟨signature, hsignature, h⟩ := bind_eq_ok h
    obtain ⟨lines, hlines, h⟩ := bind_eq_ok h
    have hdefine := mapError_eq_ok h
    have hwritten := mapError_eq_ok hsignature
    unfold TypeForm.signature? at hwritten
    split at hwritten
    · rename_i hwritable
      cases hwritten
      rw [FieldDraft.define] at hdefine
      simp only [definitionLines_list] at hdefine
      split at hdefine
      · cases hdefine
      · cases hdefine
        exact ⟨hwritable, hlines, rfl, rfl⟩
    · cases hwritten
  · rintro ⟨hwritable, hlines, rfl, hsignature⟩
    rw [defineShowing, TypeForm.signature?, if_pos hwritable, hlines, ← hsignature]
    simp only [Except.mapError, ok_bind, FieldDraft.define, dif_neg field.name_ne_empty,
      definitionLines_list, Except.map]
    rfl

theorem ofValues_eq_ok {name : String} {definitions : List FieldDefinition}
    {docLines : List String} {record : RecordDefinition}
    (h : (RecordDefinition.ofValues (.str name) definitions
      (some (.list (docLines.map .str)))).mapError ReflectionError.definition = .ok record) :
    record.fields = definitions ∧ record.typeName = name ∧ record.docLines = docLines := by
  have hvalues := mapError_eq_ok h
  rw [RecordDefinition.ofValues] at hvalues
  simp only [definitionLines_list] at hvalues
  split at hvalues
  · cases hvalues
    exact ⟨rfl, rfl, rfl⟩
  · cases hvalues

theorem recordReading_eq_ok_iff {names : Scope} {record : RecordDefinition} :
    cls.recordReading reading names = .ok record ↔ ∃ fields, cls.fields? names = some fields ∧
      List.Forall₂ (fun entry field => defineShowing (cls.shownType reading entry.2.declared)
        entry.1 entry.2 = .ok field) fields record.fields ∧
      record.typeName = cls.name ∧ record.docLines = cls.docLines := by
  unfold recordReading
  cases hfields : cls.fields? names with
  | none => simp
  | some fields =>
      constructor
      · intro h
        obtain ⟨definitions, hdefinitions, h⟩ := bind_eq_ok h
        obtain ⟨rfl, hname, hlines⟩ := ofValues_eq_ok h
        exact ⟨fields, rfl, forall₂_of_mapM_eq_ok hdefinitions, hname, hlines⟩
      · rintro ⟨_, hsame, hdefinitions, hname, hlines⟩
        cases hsame
        have hmapM := mapM_eq_ok_of_forall₂ hdefinitions
        simp only [hmapM, ok_bind, RecordDefinition.ofValues, definitionLines_list, ← hname,
          dif_pos record.typeName_not_blank, ← hlines, Except.map, Except.mapError]

theorem steady_fieldDefinition {hints : List (String × TypeForm)} {type : TypeForm} {name : String}
    {member : Attribute}
    (h : hints.lookup name = some type ∨
      hints.lookup name = none ∧ Steady kept (loneHint scope member.declared) (.ok type)) :
    Steady kept (fieldDefinition scope hints name member) (defineShowing type name member) := by
  unfold fieldDefinition defineShowing
  have hdefine : ∀ type : TypeForm, Steady kept _ _ := fun type =>
    (steady_lift (type.signature?.mapError ReflectionError.fault)).bind _ fun signature _ =>
      (steady_lift (metadataLines member.doc)).bind _ fun lines _ =>
        steady_lift ((FieldDraft.define
          ⟨.str name, .str signature, some (.list (lines.map .str))⟩).mapError
            ReflectionError.definition)
  rcases h with hlookup | ⟨hlookup, hlone⟩
  · rw [hlookup]
    exact hdefine type
  · rw [hlookup]
    exact (hlone.adapt ReflectionError.fault).bind_ok (hdefine type)

theorem lookup_map {α β : Type} (convert : α → β) (name : String) (entries : List (String × α)) :
    (entries.map fun entry => (entry.1, convert entry.2)).lookup name
      = (entries.lookup name).map convert := by
  induction entries with
  | nil => rfl
  | cons entry rest ih =>
      rw [List.map_cons, List.lookup_cons, List.lookup_cons, ih]
      cases name == entry.1 <;> rfl

theorem IsReadBy.lookup_of_mem_fields {names : Scope} {fields : List (String × Attribute)}
    (h : cls.IsReadBy kept scope reading) (hfields : cls.fields? names = some fields)
    {entry : String × Attribute} (hmem : entry ∈ fields) :
    cls.annotated.lookup entry.1 = some entry.2 := by
  obtain ⟨gathered, hgathered, rfl⟩ := Option.map_eq_some_iff.mp hfields
  exact h.counts gathered hgathered entry (List.mem_of_mem_filter hmem)

theorem IsReadBy.exists_hints {names : Scope} {fields : List (String × Attribute)}
    (h : cls.IsReadBy kept scope reading) (hfields : cls.fields? names = some fields) :
    ∃ hints, Steady kept (cls.hints scope) (.ok hints) ∧ ∀ entry ∈ fields,
      Steady kept (fieldDefinition scope hints entry.1 entry.2)
        (defineShowing (cls.shownType reading entry.2.declared) entry.1 entry.2) := by
  cases hresolved : cls.isResolved reading with
  | true =>
      have htype : ∀ entry ∈ cls.declarations, reading entry.2.declared
          = .ok ((reading entry.2.declared).toOption.getD entry.2.declared) := by
        intro entry hmem
        obtain ⟨type, hreading⟩ := exists_type_of_isResolved hresolved hmem
        rw [hreading]
        rfl
      refine ⟨_, steady_hints_ok (fun declared => (reading declared).toOption.getD declared)
        h.isRead htype, fun entry hmem => steady_fieldDefinition (.inl ?_)⟩
      rw [lookup_map (fun member : Attribute =>
          (reading member.declared).toOption.getD member.declared),
        h.lookup_of_mem_fields hfields hmem, shownType, if_pos hresolved]
      rfl
  | false =>
      refine ⟨[], steady_hints_nil h.isRead hresolved, fun entry hmem =>
        steady_fieldDefinition (.inr ⟨rfl, ?_⟩)⟩
      rw [shownType_of_not_isResolved hresolved]
      have hcounts := h.lookup_of_mem_fields hfields hmem
      exact steady_loneHint (h.isRead entry (mem_declarations_of_lookup hcounts))

theorem steady_record {names locals : Scope}
    (h : cls.IsReadBy kept (cls.scopeOf names locals) reading) :
    Steady kept (cls.record names locals) (cls.recordReading reading names) := by
  unfold record recordReading
  cases hfields : cls.fields? names with
  | none => exact steady_throw _
  | some fields =>
      obtain ⟨hints, hhints, hdefinitions⟩ := h.exists_hints hfields
      refine (hhints.adapt ReflectionError.fault).bind_ok ?_
      exact (Steady.mapM hdefinitions).bind _ fun definitions _ => steady_lift _

end AnnotatedClass

end RecordDocs
