import RecordDocs.Proofs.ReferenceChain
import RecordDocs.Proofs.ReferenceLaws
import RecordDocs.Proofs.SchemaGrammar

/-!
# Declared names

A schema document declares the names of its records as they are written, blanks included, while a
signature is trimmed before it is looked up. So a declared name refers to its own record exactly if
it is trimmed. A name with blanks at an end is referred to by no signature at all, and what is
written like it refers to whatever the trimmed text refers to.
-/

namespace RecordDocs

open Text

namespace RecordTable

variable {table : RecordTable} {path : List String} {field : FieldDefinition} {target : String}

theorem docs_expandBelow_of_references_eq
    (hreferences : table.references field.signature = [target]) (hnew : target ∉ path) :
    ∃ inlined, table.build target path = .ok inlined ∧
      (table.expandBelow path field).docs = inlined.docs := by
  have hmem : target ∈ table.references field.signature :=
    hreferences ▸ List.mem_singleton_self target
  obtain ⟨record, hget⟩ := exists_get?_of_mem_references hmem
  refine ⟨_, build_eq_ok path hget, ?_⟩
  rw [docs_expandBelow, hreferences, List.flatMap_singleton, expandTarget_of_get? hnew hget]

end RecordTable

namespace Schema

variable {value : Value} {entries : List (Key × Value)} {records : List RecordDefinition}
  {record : RecordDefinition} {registry : Registry} {name : String}

def DeclaresName (value : Value) (name : String) : Prop :=
  ∃ entries body, Offers value entries ∧ (Key.text name, body) ∈ entries

/-! ### Names are kept as they are -/

theorem typeName_of_readBody {hname : allBlank name = false} {body : Value}
    (h : readBody name hname body = .ok record) : record.typeName = name := by
  unfold readBody at h
  split at h
  · cases h
    rfl
  · split at h
    · cases h
    · split at h
      · cases h
      · cases h
        rfl
  · cases h

theorem key_of_readRecord {entry : Key × Value} (h : readRecord entry = .ok record) :
    entry.1 = .text record.typeName := by
  unfold readRecord at h
  split at h
  · split at h
    · exact congrArg Key.text (typeName_of_readBody h).symm
    · cases h
  · cases h

theorem forall₂_of_readRecords (h : readRecords entries = .ok records) :
    List.Forall₂ (fun entry record => readRecord entry = .ok record) entries records := by
  induction entries generalizing records with
  | nil =>
      cases h
      exact .nil
  | cons entry rest ih =>
      rw [readRecords] at h
      split at h
      · cases h
      · rename_i record hrecord
        obtain ⟨others, hothers, rfl⟩ := map_eq_ok h
        exact .cons hrecord (ih hothers)

theorem keys_of_readRecords (h : readRecords entries = .ok records) :
    entries.map Prod.fst = records.map fun record => .text record.typeName := by
  rw [← List.forall₂_eq_eq_eq, List.forall₂_map_left_iff, List.forall₂_map_right_iff]
  exact (forall₂_of_readRecords h).imp fun _ _ => key_of_readRecord

theorem DeclaresName.mem_typeNames (h : DeclaresName value name)
    (hread : readDocument value = .ok records)
    (hregistry : Registry.ofRecords records = .ok registry) : name ∈ registry.typeNames := by
  obtain ⟨entries, body, hoffers, hentry⟩ := h
  rw [hoffers.readDocument_eq] at hread
  have hkey : Key.text name ∈ entries.map Prod.fst := List.mem_map_of_mem hentry
  rw [keys_of_readRecords hread] at hkey
  obtain ⟨record, hrecord, heq⟩ := List.mem_map.mp hkey
  rw [Registry.typeNames, Registry.ofRecords_eq_ok hregistry, ← Key.text.inj heq]
  exact List.mem_map_of_mem hrecord

/-! ### What refers to a declared name -/

theorem references_of_typeName {signature : String} (hname : name ∈ registry.typeNames)
    (hstrip : strip signature = name) : registry.table.references signature = [name] := by
  obtain ⟨record, -, rfl⟩ := List.mem_map.mp hname
  have hne : record.typeName ≠ "" := by
    intro hempty
    have hblank := record.typeName_not_blank
    rw [hempty] at hblank
    cases hblank
  have hknown : registry.table.contains record.typeName = true := by
    rw [RecordTable.contains, List.contains_iff_mem, registry.keys_table]
    exact hname
  rw [RecordTable.references, references_eq_ite, hstrip, if_neg hne, if_pos hknown]

/-- What is built for the record of a trimmed name stands below every node whose signature is the
name, unless it is being documented there already. -/
theorem children_of_typeName (hname : name ∈ registry.typeNames) {chain : Chain}
    {path : List String} (hstrip : strip chain.final.signature = name)
    (hnew : name ∉ chain.openNames path) :
    ∃ inlined, registry.table.build name (chain.openNames path) = .ok inlined ∧
      (registry.table.visit path [] chain).2.children = inlined.docs :=
  RecordTable.docs_expandBelow_of_references_eq (references_of_typeName hname hstrip) hnew

/-- **A declared name refers to its record if it is trimmed.** Whatever the document and whatever
else its names are made of, a trimmed name that it declares, with blanks around it or without,
refers to the record of that name and to no other. So in a walk through what is built for any root,
below a node with such a signature stands what is built for that record, unless this is being
documented there already. A declared name with blanks at an end does not refer to its record, and no
other signature does either. -/
theorem declared_refers_iff_trimmed (hread : readDocument value = .ok records)
    (hregistry : Registry.ofRecords records = .ok registry) (hname : DeclaresName value name) :
    (registry.table.references name = [name] ↔ strip name = name) ∧
    (strip name = name →
      (∀ signature, strip signature = name → registry.table.references signature = [name]) ∧
      ∀ root ∈ registry.typeNames, ∀ visiting : List String,
        ∃ (expansion : Expansion) (chains : List Chain),
          registry.table.build root visiting = .ok expansion ∧
          (∀ chain : Chain, chain ∈ chains ↔ chain.IsSimple registry.table root visiting) ∧
          chains.Pairwise (fun first second =>
            first.address registry.table < second.address registry.table) ∧
          List.Forall₂ (fun entry chain =>
              entry.1 = chain.names ∧ entry.2.signature = chain.final.signature ∧
              (strip entry.2.signature = name → name ∉ chain.openNames (root :: visiting) →
                ∃ inlined,
                  registry.table.build name (chain.openNames (root :: visiting)) = .ok inlined ∧
                  entry.2.children = inlined.docs))
            (DocNode.walkAll [] expansion.docs) chains) ∧
    (strip name ≠ name → ∀ signature, name ∉ registry.table.references signature) := by
  have hmem := hname.mem_typeNames hread hregistry
  have hrefers : ∀ signature, name ∈ registry.table.references signature → strip name = name :=
    fun signature h => (strip_ne_empty_of_mem_references h).1
  refine ⟨⟨fun h => hrefers name (h ▸ List.mem_singleton_self name), references_of_typeName hmem⟩,
    fun _ => ⟨fun signature => references_of_typeName hmem, fun root hroot visiting => ?_⟩,
    fun hblank signature h => hblank (hrefers signature h)⟩
  rw [← registry.keys_table] at hroot
  obtain ⟨expansion, chains, hbuild, hsimple, hsorted, hwalk⟩ :=
    RecordTable.exists_walk_eq_map_visit hroot visiting
  refine ⟨expansion, chains, hbuild, hsimple, hsorted, ?_⟩
  rw [hwalk, List.forall₂_map_left_iff, List.forall₂_same]
  exact fun chain _ => ⟨rfl, rfl, children_of_typeName hmem⟩

def lanesDocument : Value :=
  .dict [(.text "records", .dict
    [(.text "Lane", .dict [(.text "fields",
        .list [.dict [(.text "name", .str "width"), (.text "type", .str "u8")]])]),
      (.text " Lane ", .null),
      (.text "Road", .dict [(.text "fields",
        .list [.dict [(.text "name", .str "lane"), (.text "type", .str " Lane ")]])])])]

def lanes : Registry where
  records :=
    [⟨"Lane", [⟨"width", "u8", [], by decide⟩], [], by decide⟩, ⟨" Lane ", [], [], by decide⟩,
      ⟨"Road", [⟨"lane", " Lane ", [], by decide⟩], [], by decide⟩]
  names_nodup := by decide

theorem readDocument_lanesDocument : readDocument lanesDocument = .ok lanes.records := by cbv

theorem ofRecords_lanes : Registry.ofRecords lanes.records = .ok lanes := rfl

theorem declaresName_lanesDocument (hname : name ∈ ["Lane", " Lane ", "Road"]) :
    DeclaresName lanesDocument name := by
  simp only [List.mem_cons, List.not_mem_nil, or_false] at hname
  rcases hname with rfl | rfl | rfl
  · exact ⟨_, _, .records rfl, List.mem_cons_self⟩
  · exact ⟨_, _, .records rfl, List.mem_cons_of_mem _ List.mem_cons_self⟩
  · exact ⟨_, _, .records rfl, List.mem_cons_of_mem _ (List.mem_cons_of_mem _ List.mem_cons_self)⟩

/-- The field of the road refers to the lane without blanks and has its docs below. -/
theorem lanes_refer_to_trimmed :
    readDocument lanesDocument = .ok lanes.records ∧ Registry.ofRecords lanes.records = .ok lanes ∧
      DeclaresName lanesDocument "Lane" ∧ DeclaresName lanesDocument " Lane " ∧
      lanes.table.references " Lane " = ["Lane"] ∧
      (∀ signature, " Lane " ∉ lanes.table.references signature) ∧
      ∃ expansion doc inlined, lanes.table.build "Road" [] = .ok expansion ∧
        (["lane"], doc) ∈ DocNode.walkAll [] expansion.docs ∧
        lanes.table.build "Lane" ["Road"] = .ok inlined ∧ doc.children = inlined.docs := by
  have hlane : DeclaresName lanesDocument "Lane" := declaresName_lanesDocument (by decide)
  have hblanks : DeclaresName lanesDocument " Lane " := declaresName_lanesDocument (by decide)
  obtain ⟨-, htrimmed, -⟩ :=
    declared_refers_iff_trimmed readDocument_lanesDocument ofRecords_lanes hlane
  obtain ⟨-, -, hnone⟩ :=
    declared_refers_iff_trimmed readDocument_lanesDocument ofRecords_lanes hblanks
  obtain ⟨hrefers, hbuilds⟩ := htrimmed (by decide)
  refine ⟨readDocument_lanesDocument, ofRecords_lanes, hlane, hblanks, hrefers " Lane " (by decide),
    hnone (by decide), ?_⟩
  obtain ⟨expansion, chains, hbuild, hsimple, -, hwalk⟩ := hbuilds "Road" (by decide) []
  have hchain : .last 0 ⟨"lane", " Lane ", [], by decide⟩ ∈ chains :=
    (hsimple _).mpr ⟨⟨_, rfl, rfl⟩, by decide, by decide⟩
  obtain ⟨⟨names, doc⟩, hentry, hnames, hsignature, hchildren⟩ :=
    exists_mem_of_forall₂ hwalk hchain
  obtain rfl : names = ["lane"] := hnames
  obtain ⟨inlined, hinlined, hdocs⟩ := hchildren (hsignature ▸ by decide) (by decide)
  exact ⟨expansion, doc, inlined, hbuild, hentry, hinlined, hdocs⟩

/-- A declared name with blanks around it is taken for the name of another record. -/
theorem lanes_blanks_refer_to_other :
    readDocument lanesDocument = .ok lanes.records ∧ Registry.ofRecords lanes.records = .ok lanes ∧
      DeclaresName lanesDocument " Lane " ∧ lanes.table.references " Lane " = ["Lane"] ∧
      lanes.table.references " Lane " ≠ [" Lane "] :=
  ⟨readDocument_lanesDocument, ofRecords_lanes, declaresName_lanesDocument (by decide), by decide,
    by decide⟩

end Schema

end RecordDocs
