import RecordDocs.Proofs.AnnotationSignatures
import RecordDocs.Proofs.PlainReadings

/-!
# Fields beside one that cannot be resolved

If one annotation of a class cannot be resolved, all its annotations are read one by one. This
changes nothing for a field with a text for its annotation. A field with any other annotation is
shown by the annotation as it is, not by what it is read as; so references inside of it stay, and so
do its notes.
-/

namespace RecordDocs

open Annotation

variable {kept : Memory → Prop} {scope names locals : Scope}
  {reading : TypeForm → Except Fault TypeForm} {type declared : TypeForm} {lost : String}

namespace AnnotatedClass

variable {cls other : AnnotatedClass}

/-! ### Annotations read on their own -/

theorem isWritable_readAlone (hwritable : declared.isWritable = true)
    (htype : isText declared = true →
      ∀ type, reading declared = .ok type → type.isWritable = true) :
    (readAlone reading declared).isWritable = true := by
  cases htext : isText declared with
  | false => rwa [readAlone_of_not_isText htext]
  | true =>
      cases hreading : reading declared with
      | ok type =>
          rw [readAlone_of_ok htext hreading]
          exact htype htext type hreading
      | error fault =>
          obtain ⟨text, rfl⟩ := exists_eq_text htext
          rw [readAlone_of_error hreading]
          rfl

/-! ### Classes that differ under a name -/

/-- Two attributes of one name with one metadata, which are fields or not alike; only what is
declared under the name `lost` can differ. -/
structure DiffersAt (names : Scope) (lost : String) (entry other : String × Attribute) : Prop where
  name : entry.1 = other.1
  doc : entry.2.doc = other.2.doc
  isField : isField names entry.2.declared = isField names other.2.declared
  declared : entry.1 ≠ lost → entry.2.declared = other.2.declared

structure IsRedeclared (names : Scope) (lost : String) (cls other : AnnotatedClass) : Prop where
  ref : cls.body.ref = other.body.ref
  docText : cls.docText = other.docText
  gathered : Option.Rel (List.Forall₂ (DiffersAt names lost)) cls.body.gathered other.body.gathered

theorem IsRedeclared.fields {fields : List (String × Attribute)}
    (h : IsRedeclared names lost cls other) (hfields : other.fields? names = some fields) :
    ∃ own, cls.fields? names = some own ∧ List.Forall₂ (DiffersAt names lost) own fields := by
  obtain ⟨gathered, hgathered, rfl⟩ := Option.map_eq_some_iff.mp hfields
  have hrelated := h.gathered
  rw [hgathered] at hrelated
  cases hown : cls.body.gathered with
  | none =>
      rw [hown] at hrelated
      cases hrelated
  | some own =>
      rw [hown] at hrelated
      cases hrelated with
      | some hrelated =>
          refine ⟨_, congrArg (Option.map _) hown, List.rel_filter ?_ hrelated⟩
          intro entry entry' hentry
          exact Bool.eq_iff_iff.mp hentry.isField

/-! ### How fields are shown -/

/-- A field with this annotation is shown alike whether the annotations of the class are read
together or one by one. -/
def IsShownAlike (reading : TypeForm → Except Fault TypeForm) (declared : TypeForm) : Prop :=
  isText declared = true ∨ ∃ type, reading declared = .ok type ∧ type.signature = declared.signature

theorem isWritable_readAlone_of_shownType (hwritable : declared.isWritable = true)
    (hshown : (cls.shownType reading declared).isWritable = true) :
    (readAlone reading declared).isWritable = true := by
  refine isWritable_readAlone hwritable fun htext type hreading => ?_
  cases hresolved : cls.isResolved reading with
  | true => rwa [shownType_of_ok hresolved hreading] at hshown
  | false =>
      rwa [shownType_of_not_isResolved hresolved, readAlone_of_ok htext hreading] at hshown

theorem signature_readAlone_eq_iff {entry : String × Attribute} (hmem : entry ∈ cls.declarations) :
    (readAlone reading entry.2.declared).signature
        = (cls.shownType reading entry.2.declared).signature
      ↔ cls.isResolved reading = false ∨ IsShownAlike reading entry.2.declared := by
  cases hresolved : cls.isResolved reading with
  | false => simp [shownType_of_not_isResolved hresolved]
  | true =>
      obtain ⟨type, hreading⟩ := exists_type_of_isResolved hresolved hmem
      rw [shownType_of_ok hresolved hreading, IsShownAlike, hreading]
      cases htext : isText entry.2.declared with
      | true => simp [readAlone_of_ok htext hreading]
      | false =>
          rw [readAlone_of_not_isText htext]
          simp [eq_comm]

/-! ### Fields side by side -/

/-- How a field comes out in a class with an annotation that cannot be resolved, and how it does in
the other class: but for the signature it is the same, and under another name it is the same as a
whole exactly if the other class has an annotation too that cannot be resolved, or if the field's
annotation is shown alike. -/
structure IsBeside (reading : TypeForm → Except Fault TypeForm) (lost : String)
    (other : AnnotatedClass) (field field' : FieldDefinition) : Prop where
  name : field.name = field'.name
  docLines : field.docLines = field'.docLines
  eq_iff : field.name ≠ lost → ∃ member, other.annotated.lookup field.name = some member ∧
    (field = field' ↔ other.isResolved reading = false ∨ IsShownAlike reading member.declared)

theorem exists_field {entry entry' : String × Attribute} {field' : FieldDefinition}
    (hdiffers : DiffersAt names lost entry entry')
    (hcounts : other.annotated.lookup entry'.1 = some entry'.2)
    (hwritable : entry.2.declared.isWritable = true)
    (hlost : entry.1 = lost → ∃ fault, reading entry.2.declared = .error fault)
    (hfield : defineShowing (other.shownType reading entry'.2.declared) entry'.1 entry'.2
      = .ok field') :
    ∃ field, defineShowing (readAlone reading entry.2.declared) entry.1 entry.2 = .ok field ∧
      IsBeside reading lost other field field' := by
  obtain ⟨hwritten, hlines, hname, hsignature⟩ := defineShowing_eq_ok_iff.mp hfield
  refine ⟨⟨field'.name, (readAlone reading entry.2.declared).signature, field'.docLines,
    field'.name_ne_empty⟩, ?_, rfl, rfl, ?_⟩
  · refine defineShowing_eq_ok_iff.mpr ⟨?_, hdiffers.doc ▸ hlines, hname.trans hdiffers.name.symm,
      rfl⟩
    by_cases heq : entry.1 = lost
    · obtain ⟨fault, hfault⟩ := hlost heq
      refine isWritable_readAlone hwritable fun _ type hreading => ?_
      rw [hfault] at hreading
      cases hreading
    · rw [hdiffers.declared heq] at hwritable ⊢
      exact isWritable_readAlone_of_shownType hwritable hwritten
  · intro hne
    have hdeclared : entry.2.declared = entry'.2.declared := by
      refine hdiffers.declared fun heq => hne ?_
      rw [← heq, hdiffers.name, hname]
    refine ⟨entry'.2, hname ▸ hcounts, ?_⟩
    rw [← signature_readAlone_eq_iff (mem_declarations_of_lookup hcounts), hdeclared, ← hsignature]
    constructor
    · intro heq
      exact congrArg FieldDefinition.signature heq
    · intro heq
      cases field'
      simp_all

theorem exists_definitions {fields fields' : List (String × Attribute)}
    {definitions' : List FieldDefinition}
    (hdiffers : List.Forall₂ (DiffersAt names lost) fields fields')
    (hcounts : ∀ entry ∈ fields', other.annotated.lookup entry.1 = some entry.2)
    (hwritable : ∀ entry ∈ fields, entry.2.declared.isWritable = true)
    (hlost : ∀ entry ∈ fields, entry.1 = lost → ∃ fault, reading entry.2.declared = .error fault)
    (hdefinitions : List.Forall₂ (fun entry field =>
      defineShowing (other.shownType reading entry.2.declared) entry.1 entry.2 = .ok field)
      fields' definitions') :
    ∃ definitions, List.Forall₂ (fun entry field =>
        defineShowing (readAlone reading entry.2.declared) entry.1 entry.2 = .ok field)
        fields definitions ∧
      List.Forall₂ (IsBeside reading lost other) definitions definitions' := by
  induction hdiffers generalizing definitions' with
  | nil =>
      cases hdefinitions
      exact ⟨[], .nil, .nil⟩
  | cons hfirst _ ih =>
      rw [List.forall_mem_cons] at hcounts hwritable hlost
      cases hdefinitions with
      | cons hfield hrest =>
          obtain ⟨field, hdefine, hbeside⟩ :=
            exists_field hfirst hcounts.1 hwritable.1 hlost.1 hfield
          obtain ⟨definitions, hdefineAll, hbesideAll⟩ :=
            ih hcounts.2 hwritable.2 hlost.2 hrest
          exact ⟨field :: definitions, .cons hdefine hdefineAll, .cons hbeside hbesideAll⟩

/-- **What an annotation that cannot be resolved does to the other fields.** Let a data class have
an annotation that cannot be resolved under some name, and let another class be the same but for
what is declared under that name. If there is a record of the other class, there is one of the class
as well, with the same name, the same doc lines and the same fields in order, each with its doc
lines. A field under another name is the same as a whole exactly if the other class cannot be
resolved either, or if the field's annotation is a text or has the signature already of the type
that it is read as. -/
theorem fields_beside_unresolvable (hcls : cls.IsReadBy kept (cls.scopeOf names locals) reading)
    (hother : other.IsReadBy kept (other.scopeOf names locals) reading)
    (hredeclared : IsRedeclared names lost cls other)
    (hlost : ∃ member, cls.annotated.lookup lost = some member ∧
      ∃ fault, reading member.declared = .error fault)
    (hwritable : ∀ fields, cls.fields? names = some fields →
      ∀ entry ∈ fields, entry.2.declared.isWritable = true)
    {memory memory' : Memory} (hmemory : kept memory) (hmemory' : kept memory')
    {record' : RecordDefinition}
    (hrecord : (outcomeFrom (other.record names locals) memory').1 = .ok record') :
    ∃ record, (outcomeFrom (cls.record names locals) memory).1 = .ok record ∧
      record.typeName = record'.typeName ∧ record.docLines = record'.docLines ∧
      List.Forall₂ (IsBeside reading lost other) record.fields record'.fields := by
  rw [(steady_record hother memory' hmemory').1] at hrecord
  obtain ⟨fields', hfields', hdefinitions', htypeName, hlines⟩ := recordReading_eq_ok_iff.mp hrecord
  obtain ⟨fields, hfields, hdiffers⟩ := hredeclared.fields hfields'
  obtain ⟨member, hmember, fault, hfault⟩ := hlost
  have hresolved : cls.isResolved reading = false := by
    rw [isResolved, List.all_eq_false]
    exact ⟨_, mem_declarations_of_lookup hmember, by simp [hfault, Except.isOk, Except.toBool]⟩
  have hlostField : ∀ entry ∈ fields, entry.1 = lost →
      ∃ fault, reading entry.2.declared = .error fault := by
    intro entry hmem heq
    have hcounts := hcls.lookup_of_mem_fields hfields hmem
    rw [heq, hmember] at hcounts
    exact ⟨fault, Option.some.inj hcounts ▸ hfault⟩
  obtain ⟨definitions, hdefinitions, hbeside⟩ := exists_definitions hdiffers
    (fun entry hmem => hother.lookup_of_mem_fields hfields' hmem) (hwritable fields hfields)
    hlostField hdefinitions'
  have hname : cls.name = other.name := congrArg ClassRef.name hredeclared.ref
  have hdocLines : cls.docLines = other.docLines := by
    rw [docLines, docLines, hredeclared.docText, hname]
  refine ⟨⟨record'.typeName, definitions, record'.docLines, record'.typeName_not_blank⟩, ?_, rfl,
    rfl, hbeside⟩
  rw [(steady_record hcls memory hmemory).1, recordReading_eq_ok_iff]
  simp only [shownType_of_not_isResolved hresolved]
  exact ⟨fields, hfields, hdefinitions, htypeName.trans hname.symm, hlines.trans hdocLines.symm⟩

/-! ### A rack -/

def rackNames : Scope :=
  [("Dict", .generic (genericName "Dict" "dict" (.exactly 2))),
    ("Book", TypeForm.libraryClass "Book")]

def listOf (text : String) : TypeForm :=
  .application (.named (genericName "List" "list" (.exactly 1))) [.reference text false]

def rackMembers (label : String) : List (String × Attribute) :=
  [("label", ⟨.constant (.text label), none⟩),
    ("index", ⟨.constant (.text "Dict[str, Book]"), none⟩),
    ("lent", ⟨listOf "Book", none⟩), ("shelves", ⟨listOf "Dict[str, Book]", none⟩)]

def rack (label : String) : AnnotatedClass :=
  ⟨⟨.ofModule "library" "Rack" .plain 1, rackMembers label, true, [],
    some (gather [] (rackMembers label))⟩, none, []⟩

def booksByName : TypeForm :=
  .application (.named (genericName "Dict" "dict" (.exactly 2)))
    [.cls (.builtin "str" .plain), TypeForm.libraryClass "Book"]

def rackReading : TypeForm → Except Fault TypeForm
  | .constant (.text "Missing") => .error (.unknownName "Missing")
  | .constant (.text "Book") => .ok (TypeForm.libraryClass "Book")
  | .constant (.text _) => .ok booksByName
  | .application origin [.reference "Book" _] =>
      .ok (.application origin [TypeForm.libraryClass "Book"])
  | .application origin _ => .ok (.application origin [booksByName])
  | form => .ok form

def rackScope : Scope :=
  (rack "Missing").scopeOf rackNames []

theorem denotes_booksByName :
    Denotes rackScope (.subscript (.name "Dict") (.tuple [.name "str", .name "Book"]))
      booksByName := by
  have hitems : DenoteAll rackScope [.name "str", .name "Book"]
      [.cls (.builtin "str" .plain), TypeForm.libraryClass "Book"] :=
    .cons (.name rfl) (.cons (.name rfl) .nil)
  have hword : genericName "Dict" "dict" (.exactly 2) ∈ generics := by decide
  refine .applied (.name rfl) (.tuple hitems)
    (.counted hword (.several ?_) (List.cons_ne_nil _ _) rfl)
  intro form hmem
  simp only [List.mem_cons, List.not_mem_nil, or_false] at hmem
  rcases hmem with rfl | rfl
  · exact .cls _
  · exact .cls _

theorem isRigid_booksByName : IsRigid booksByName := by
  refine .application (by decide) fun form hmem => ?_
  simp only [List.mem_cons, List.not_mem_nil, or_false] at hmem
  rcases hmem with rfl | rfl
  · exact .cls _
  · exact .cls _

theorem isSource_dict : IsSource "Dict[str, Book]"
    (.subscript (.name "Dict") (.tuple [.name "str", .name "Book"])) :=
  ⟨by decide, by decide, by decide, by decide +kernel⟩

theorem isSource_book : IsSource "Book" (.name "Book") :=
  ⟨by decide, by decide, by decide, by decide +kernel⟩

theorem rack_isReadBy {label : String}
    (hlabel : IsRead Memory.IsRight rackScope rackReading (.constant (.text label))) :
    (rack label).IsReadBy Memory.IsRight ((rack label).scopeOf rackNames []) rackReading := by
  have hlist : genericName "List" "list" (.exactly 1) ∈ generics := by decide
  have hline : IsLine (rack label).lineage := .cons rfl .nil
  refine ⟨fun entry hmem => ?_, hline.counts⟩
  have hmembers : entry ∈ rackMembers label := by simpa [declarations, lineage, rack] using hmem
  simp only [rackMembers, List.mem_cons, List.not_mem_nil, or_false] at hmembers
  change IsRead Memory.IsRight rackScope rackReading entry.2.declared
  rcases hmembers with rfl | rfl | rfl | rfl
  · exact hlabel
  · exact isRead_text isSource_dict denotes_booksByName (.rigid isRigid_booksByName) rfl
  · have hbook : StandsFor rackScope (.reference "Book" false) (TypeForm.libraryClass "Book") :=
      .reference isSource_book.read_eq (.name rfl) (.cls _)
    exact isRead_form (.application hlist (.cons hbook .nil)) (by simp [listOf]) rfl
  · have hdict : StandsFor rackScope (.reference "Dict[str, Book]" false) booksByName :=
      .reference isSource_dict.read_eq denotes_booksByName isRigid_booksByName
    exact isRead_form (.application hlist (.cons hdict .nil)) (by simp [listOf]) rfl

theorem rack_missing_isReadBy :
    (rack "Missing").IsReadBy Memory.IsRight ((rack "Missing").scopeOf rackNames [])
      rackReading := by
  have hsource : IsSource "Missing" (.name "Missing") :=
    ⟨by decide, by decide, by decide, by decide +kernel⟩
  exact rack_isReadBy (isRead_unknown hsource rfl rfl)

theorem rack_book_isReadBy :
    (rack "Book").IsReadBy Memory.IsRight ((rack "Book").scopeOf rackNames []) rackReading :=
  rack_isReadBy (isRead_text isSource_book (.name rfl) (.rigid (.cls _)) rfl)

theorem rack_isRedeclared : IsRedeclared rackNames "label" (rack "Missing") (rack "Book") := by
  refine ⟨rfl, rfl, .some ?_⟩
  have hsame : ∀ entry, DiffersAt rackNames "label" entry entry :=
    fun _ => ⟨rfl, rfl, rfl, fun _ => rfl⟩
  have hlabel : DiffersAt rackNames "label" ("label", ⟨.constant (.text "Missing"), none⟩)
      ("label", ⟨.constant (.text "Book"), none⟩) :=
    ⟨rfl, rfl, by decide, fun hne => absurd rfl hne⟩
  exact .cons hlabel (.cons (hsame _) (.cons (hsame _) (.cons (hsame _) .nil)))

theorem label_ne_empty : "label" ≠ "" := by decide

def rackRecord (label shelves : String) : RecordDefinition :=
  ⟨"Rack", [⟨"label", label, [], label_ne_empty⟩, ⟨"index", "dict<str, Book>", [], by decide⟩,
    ⟨"lent", "list<Book>", [], by decide⟩, ⟨"shelves", shelves, [], by decide⟩], [], by decide⟩

theorem rack_book_record : (outcomeFrom ((rack "Book").record rackNames []) []).1
    = .ok (rackRecord "Book" "list<dict<str, Book>>") := by
  decide +kernel

/-- A rack with a label that cannot be resolved has a record beside that of a rack with another. -/
theorem rack_is_beside :
    (rack "Missing").IsReadBy Memory.IsRight ((rack "Missing").scopeOf rackNames []) rackReading ∧
      (rack "Book").IsReadBy Memory.IsRight ((rack "Book").scopeOf rackNames []) rackReading ∧
      IsRedeclared rackNames "label" (rack "Missing") (rack "Book") ∧
      (outcomeFrom ((rack "Book").record rackNames []) []).1
        = .ok (rackRecord "Book" "list<dict<str, Book>>") ∧
      ∃ record, (outcomeFrom ((rack "Missing").record rackNames []) []).1 = .ok record ∧
        List.Forall₂ (IsBeside rackReading "label" (rack "Book")) record.fields
          (rackRecord "Book" "list<dict<str, Book>>").fields := by
  have hwritable : ∀ fields, (rack "Missing").fields? rackNames = some fields →
      ∀ entry ∈ fields, entry.2.declared.isWritable = true := by
    intro fields hfields entry hmem
    obtain rfl := Option.some.inj hfields
    have hall : (rackMembers "Missing").all (·.2.declared.isWritable) = true := by decide
    exact List.all_eq_true.mp hall entry (List.mem_of_mem_filter hmem)
  obtain ⟨record, hrecord, -, -, hbeside⟩ := fields_beside_unresolvable rack_missing_isReadBy
    rack_book_isReadBy rack_isRedeclared ⟨_, rfl, _, rfl⟩ hwritable Memory.isRight_nil
    Memory.isRight_nil rack_book_record
  exact ⟨rack_missing_isReadBy, rack_book_isReadBy, rack_isRedeclared, rack_book_record, record,
    hrecord, hbeside⟩

/-- So the shelves of a rack change with its label: a reference inside a list is not resolved any
more. -/
theorem rack_shelves_change :
    ¬ ∀ (names locals : Scope) (lost : String) (cls other : AnnotatedClass)
        (reading : TypeForm → Except Fault TypeForm) (record record' : RecordDefinition),
        cls.IsReadBy Memory.IsRight (cls.scopeOf names locals) reading →
        other.IsReadBy Memory.IsRight (other.scopeOf names locals) reading →
        IsRedeclared names lost cls other → other.isResolved reading = true →
        (outcomeFrom (cls.record names locals) []).1 = .ok record →
        (outcomeFrom (other.record names locals) []).1 = .ok record' →
        List.Forall₂ (fun field field' => field.name ≠ lost → field = field') record.fields
          record'.fields := by
  intro hclaim
  have hrecord : (outcomeFrom ((rack "Missing").record rackNames []) []).1
      = .ok (rackRecord "Missing" "list<Dict[str, Book]>") := by
    decide +kernel
  have hfields := hclaim rackNames [] "label" (rack "Missing") (rack "Book") rackReading _ _
    rack_missing_isReadBy rack_book_isReadBy rack_isRedeclared rfl hrecord rack_book_record
  simp [rackRecord] at hfields

end AnnotatedClass

end RecordDocs
