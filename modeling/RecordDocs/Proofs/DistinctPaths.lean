import Mathlib.Data.List.Nodup
import RecordDocs.Proofs.DeclaredNames
import RecordDocs.Proofs.Inlining
import RecordDocs.Proofs.TreeWalks

/-!
# Distinct paths

The names on the way to a node lead to no other node if siblings have distinct names throughout.
The fields of one record have distinct names, because a schema document that gives a record two
fields of one name is refused. So the trees built for a root are named distinctly, and so are those
below a node where at most one record is expanded; records that are expanded one after the other
below the same node may well repeat each other's names. Where no field within reach of the root
refers to more than one record this cannot happen, and all paths are distinct.
-/

namespace RecordDocs

namespace DocNode

variable {Label : Type} {docs : List (DocNode Label)}

/-! ### Forests in which siblings have distinct names -/

inductive IsDistinctlyNamed : List (DocNode Label) → Prop
  | intro {docs : List (DocNode Label)} (hnames : (docs.map name).Nodup)
      (hbelow : ∀ doc ∈ docs, IsDistinctlyNamed doc.children) : IsDistinctlyNamed docs

theorem IsDistinctlyNamed.nodup_ways (h : IsDistinctlyNamed docs) (above : List Label) :
    ((walkAll above docs).map Prod.fst).Nodup := by
  induction h generalizing above with
  | @intro docs hnames hbelow ih =>
      rw [walkAll_eq_flatMap, List.map_flatMap, List.nodup_flatMap]
      constructor
      · intro doc hdoc
        rw [walk_eq_cons, List.map_cons, List.nodup_cons]
        refine ⟨fun hmem => ?_, ih doc hdoc (above ++ [doc.name])⟩
        obtain ⟨entry, hentry, hway⟩ := List.mem_map.mp hmem
        rw [walkAll_eq_flatMap] at hentry
        obtain ⟨child, -, hentry⟩ := List.mem_flatMap.mp hentry
        obtain ⟨below, hlonger⟩ := exists_way_of_mem_walk hentry
        rw [hlonger] at hway
        simp at hway
      · refine (List.pairwise_map.mp hnames).imp fun {first second} hne => ?_
        rw [Function.onFun, List.disjoint_left]
        intro way hfirst hsecond
        obtain ⟨entry, hentry, rfl⟩ := List.mem_map.mp hfirst
        obtain ⟨other, hother, hsame⟩ := List.mem_map.mp hsecond
        obtain ⟨below, hway⟩ := exists_way_of_mem_walk hentry
        obtain ⟨behind, hotherWay⟩ := exists_way_of_mem_walk hother
        rw [hway, hotherWay] at hsame
        exact hne (List.cons.inj (List.append_cancel_left hsame)).1.symm

end DocNode

/-! ### Records that are read -/

namespace Schema

variable {value entry : Value} {entries : List Value} {record name : String} {position : Nat}
  {seen : List String} {field : FieldDefinition} {fields : List FieldDefinition}
  {records : List RecordDefinition} {definition : RecordDefinition}

theorem name_of_readFieldBody {hname : name ≠ ""} {members : List (Key × Value)}
    (h : readFieldBody record name hname members = .ok field) : field.name = name := by
  rw [readFieldBody] at h
  split at h
  · cases h
  · split at h
    · cases h
    · cases h
      rfl

theorem name_not_mem_of_readField (h : readField record position seen entry = .ok field) :
    field.name ∉ seen := by
  unfold readField at h
  split at h
  · split at h
    · split at h
      · cases h
      · split at h
        · cases h
        · rename_i hnew
          rwa [name_of_readFieldBody h]
    · cases h
  · cases h

theorem nodup_names_of_readFields (h : readFields record position seen entries = .ok fields) :
    (fields.map (·.name)).Nodup ∧ ∀ field ∈ fields, field.name ∉ seen := by
  induction entries generalizing position seen fields with
  | nil =>
      cases h
      exact ⟨List.nodup_nil, List.forall_mem_nil _⟩
  | cons entry rest ih =>
      rw [readFields] at h
      split at h
      · cases h
      · rename_i field hfield
        obtain ⟨others, hothers, rfl⟩ := map_eq_ok h
        obtain ⟨hnodup, hnew⟩ := ih hothers
        rw [List.map_cons, List.nodup_cons, List.forall_mem_cons]
        refine ⟨⟨fun hmem => ?_, hnodup⟩, name_not_mem_of_readField hfield, fun other hother => ?_⟩
        · obtain ⟨other, hother, hsame⟩ := List.mem_map.mp hmem
          exact hnew other hother (hsame ▸ List.mem_cons_self)
        · exact fun hseen => hnew other hother (List.mem_cons_of_mem _ hseen)

theorem nodup_fieldNames_of_readBody {hname : Text.allBlank name = false}
    (h : readBody name hname value = .ok definition) : definition.fieldNames.Nodup := by
  unfold readBody at h
  split at h
  · cases h
    exact List.nodup_nil
  · split at h
    · cases h
    · rename_i fields hfields
      split at h
      · cases h
      · cases h
        unfold readFieldList at hfields
        split at hfields
        · cases hfields
          exact List.nodup_nil
        · exact (nodup_names_of_readFields hfields).1
        · cases hfields
  · cases h

theorem nodup_fieldNames_of_readRecord {entry : Key × Value}
    (h : readRecord entry = .ok definition) : definition.fieldNames.Nodup := by
  unfold readRecord at h
  split at h
  · split at h
    · exact nodup_fieldNames_of_readBody h
    · cases h
  · cases h

theorem nodup_fieldNames_of_readDocument (h : readDocument value = .ok records) :
    ∀ record ∈ records, record.fieldNames.Nodup := by
  intro record hrecord
  unfold readDocument at h
  split at h
  · cases h
    cases hrecord
  · split at h
    · cases h
      cases hrecord
    · obtain ⟨entry, -, hentry⟩ := exists_mem_of_forall₂ (forall₂_of_readRecords h) hrecord
      exact nodup_fieldNames_of_readRecord hentry
    · cases h
  · cases h

end Schema

/-! ### What is built from them -/

namespace RecordTable

variable {table : RecordTable} {path : List String} {name root : String}
  {record : RecordDefinition} {field : FieldDefinition}

def HasDistinctFields (table : RecordTable) : Prop :=
  ∀ name record, table.get? name = some record → record.fieldNames.Nodup

def RefersSingly (table : RecordTable) (root : String) : Prop :=
  ∀ name record, table.Reaches root name → table.get? name = some record →
    ∀ field ∈ record.fields, (table.references field.signature).length ≤ 1

/-- The names that a field refers to and that are not being documented yet, so that the records
under them are expanded below the field's node. -/
def expanded (table : RecordTable) (path : List String) (field : FieldDefinition) : List String :=
  (table.references field.signature).filter fun target => target ∉ path

theorem map_name_expandFields (table : RecordTable) (path : List String)
    (record : RecordDefinition) :
    (table.expandFields path record.fields).docs.map DocNode.name = record.fieldNames := by
  rw [docs_expandFields, List.map_map]
  rfl

theorem docs_expandBelow_cases (hsingle : (table.expanded path field).length ≤ 1) :
    (table.expandBelow path field).docs = [] ∨
      ∃ target record, target ∈ table.references field.signature ∧ target ∉ path ∧
        table.get? target = some record ∧ (table.expandBelow path field).docs
          = (table.expandFields (target :: path) record.fields).docs := by
  have hdocs : (table.expandBelow path field).docs = (table.expanded path field).flatMap
      fun target => (table.expandTarget path field target).docs :=
    docs_expandBelow_eq_filter table path field
  rcases Nat.le_one_iff_eq_zero_or_eq_one.mp hsingle with hnone | hone
  · rw [hdocs, List.length_eq_zero_iff.mp hnone]
    exact .inl rfl
  · obtain ⟨target, heq⟩ := List.length_eq_one_iff.mp hone
    have hmem : target ∈ table.expanded path field := heq ▸ List.mem_singleton_self target
    rw [expanded, List.mem_filter, decide_eq_true_eq] at hmem
    obtain ⟨htarget, hnew⟩ := hmem
    obtain ⟨record, hget⟩ := exists_get?_of_mem_references htarget
    refine .inr ⟨target, record, htarget, hnew, hget, ?_⟩
    rw [hdocs, heq, List.flatMap_singleton, expandTarget_of_get? hnew hget]

theorem HasDistinctFields.nodup_below (h : table.HasDistinctFields)
    (hsingle : (table.expanded path field).length ≤ 1) :
    ((table.expandBelow path field).docs.map DocNode.name).Nodup := by
  rcases docs_expandBelow_cases hsingle with hdocs | ⟨target, record, -, -, hget, hdocs⟩
  · rw [hdocs]
    exact List.nodup_nil
  · rw [hdocs, map_name_expandFields]
    exact h target record hget

/-- The induction is on the path: what is expanded below a field is again a record within reach of
the root, and its name is on the path then. -/
theorem HasDistinctFields.isDistinctlyNamed (h : table.HasDistinctFields)
    (hsingly : table.RefersSingly root) (path : List String) (hreaches : table.Reaches root name)
    (hget : table.get? name = some record) :
    DocNode.IsDistinctlyNamed (table.expandFields path record.fields).docs := by
  induction path using table.path_induction generalizing name record with
  | step path ih =>
      refine .intro ?_ fun doc hdoc => ?_
      · rw [map_name_expandFields]
        exact h name record hget
      · rw [docs_expandFields] at hdoc
        obtain ⟨field, hfield, rfl⟩ := List.mem_map.mp hdoc
        change DocNode.IsDistinctlyNamed (table.expandBelow path field).docs
        have hsingle : (table.expanded path field).length ≤ 1 :=
          (List.length_filter_le _ _).trans (hsingly name record hreaches hget field hfield)
        rcases docs_expandBelow_cases hsingle with
          hdocs | ⟨target, next, htarget, hnew, hnext, hdocs⟩
        · rw [hdocs]
          exact .intro List.nodup_nil (List.forall_mem_nil _)
        · rw [hdocs]
          have hrefers : table.RefersTo name target := ⟨record, hget, field, hfield, htarget⟩
          exact ih target next hnew hnext (hreaches.tail hrefers) hnext

end RecordTable

namespace Schema

open RecordTable

variable {value : Value} {records : List RecordDefinition} {registry : Registry} {root : String}

theorem hasDistinctFields_table (hread : readDocument value = .ok records)
    (hregistry : Registry.ofRecords records = .ok registry) :
    registry.table.HasDistinctFields := by
  intro name record hget
  obtain ⟨other, hother, heq⟩ := List.mem_map.mp (get?_eq_some_iff.mp hget)
  cases heq
  rw [Registry.ofRecords_eq_ok hregistry] at hother
  exact nodup_fieldNames_of_readDocument hread record hother

/-- **Paths are distinct unless records share a node.** Take what is built for a root of the
registry of a schema document. If no field of a record within reach of the root refers to more than
one record, no two nodes that the walk comes to have the same path. In any case the names at the top
are distinct, and so are those of the children of each node below which at most one record is
expanded, whatever else the walk comes to. -/
theorem paths_distinct_if_refers_singly (hread : readDocument value = .ok records)
    (hregistry : Registry.ofRecords records = .ok registry) (hroot : root ∈ registry.typeNames)
    (visiting : List String) :
    ∃ (expansion : Expansion) (chains : List Chain),
      registry.table.build root visiting = .ok expansion ∧
      (registry.table.RefersSingly root →
        ((DocNode.walkAll [] expansion.docs).map Prod.fst).Nodup) ∧
      (expansion.docs.map DocNode.name).Nodup ∧
      (∀ chain : Chain, chain ∈ chains ↔ chain.IsSimple registry.table root visiting) ∧
      chains.Pairwise (fun first second =>
        first.address registry.table < second.address registry.table) ∧
      List.Forall₂ (fun entry chain =>
          entry.1 = chain.names ∧ entry.2.signature = chain.final.signature ∧
          ((registry.table.expanded (chain.openNames (root :: visiting)) chain.final).length ≤ 1 →
            (entry.2.children.map DocNode.name).Nodup))
        (DocNode.walkAll [] expansion.docs) chains := by
  have hdistinct := hasDistinctFields_table hread hregistry
  rw [← registry.keys_table] at hroot
  obtain ⟨record, hget⟩ := exists_get?_of_mem_keys hroot
  obtain ⟨expansion, chains, hbuild, hsimple, hsorted, hwalk⟩ :=
    exists_walk_eq_map_visit hroot visiting
  have hexpansion := (build_eq_ok visiting hget).symm.trans hbuild
  cases hexpansion
  refine ⟨_, chains, hbuild, fun hsingly => ?_, ?_, hsimple, hsorted, ?_⟩
  · exact (hdistinct.isDistinctlyNamed hsingly _ .refl hget).nodup_ways []
  · rw [map_name_expandFields]
    exact hdistinct root record hget
  · rw [hwalk, List.forall₂_map_left_iff, List.forall₂_same]
    exact fun chain _ => ⟨rfl, rfl, hdistinct.nodup_below⟩

def fenceDocument : Value :=
  .dict [(.text "records", .dict
    [(.text "Post", .dict [(.text "fields",
        .list [.dict [(.text "name", .str "height"), (.text "type", .str "u8")]])]),
      (.text "Wire", .dict [(.text "fields",
        .list [.dict [(.text "name", .str "height"), (.text "type", .str "u8")],
          .dict [(.text "name", .str "start"), (.text "type", .str "Post")],
          .dict [(.text "name", .str "next"), (.text "type", .str "Wire")]])]),
      (.text "Fence", .dict [(.text "fields",
        .list [.dict [(.text "name", .str "ends"), (.text "type", .str "Pair<Post, Wire>")]])])])]

def post : RecordDefinition :=
  ⟨"Post", [⟨"height", "u8", [], by decide⟩], [], by decide⟩

def wire : RecordDefinition :=
  ⟨"Wire", [⟨"height", "u8", [], by decide⟩, ⟨"start", "Post", [], by decide⟩,
    ⟨"next", "Wire", [], by decide⟩], [], by decide⟩

def fence : RecordDefinition :=
  ⟨"Fence", [⟨"ends", "Pair<Post, Wire>", [], by decide⟩], [], by decide⟩

def fences : Registry where
  records := [post, wire, fence]
  names_nodup := by decide

theorem readDocument_fenceDocument : readDocument fenceDocument = .ok fences.records := by cbv

theorem ofRecords_fences : Registry.ofRecords fences.records = .ok fences := rfl

theorem refersSingly_wire : fences.table.RefersSingly "Wire" := by
  intro name record hreaches hget field hfield
  have hname : name ∈ ["Wire", "Post"] := hreaches.mem_of_closed (by decide) (by decide)
  have hrecord : record ∈ [wire, post] := by
    simp only [List.mem_cons, List.not_mem_nil, or_false] at hname
    rcases hname with rfl | rfl
    · cases hget
      exact List.mem_cons_self
    · cases hget
      exact List.mem_cons_of_mem _ List.mem_cons_self
  have hall : ∀ record ∈ [wire, post], ∀ field ∈ record.fields,
      (fences.table.references field.signature).length ≤ 1 := by
    decide
  exact hall record hrecord field hfield

def heightVia (target : String) : Chain :=
  .via 0 ⟨"ends", "Pair<Post, Wire>", [], by decide⟩ target
    (.last 0 ⟨"height", "u8", [], by decide⟩)

/-- The paths through a wire are distinct. Those through a fence are not, because both its ends have
a height, but its fields are. -/
theorem fence_repeats_paths_of_wire :
    readDocument fenceDocument = .ok fences.records ∧
      Registry.ofRecords fences.records = .ok fences ∧
      "Wire" ∈ fences.typeNames ∧ "Fence" ∈ fences.typeNames ∧
      (∃ expansion, fences.table.build "Wire" [] = .ok expansion ∧
        ((DocNode.walkAll [] expansion.docs).map Prod.fst).Nodup) ∧
      ∃ expansion, fences.table.build "Fence" [] = .ok expansion ∧
        (expansion.docs.map DocNode.name).Nodup ∧
        ¬ ((DocNode.walkAll [] expansion.docs).map Prod.fst).Nodup := by
  have hwire : "Wire" ∈ fences.typeNames := by decide
  have hfence : "Fence" ∈ fences.typeNames := by decide
  refine ⟨readDocument_fenceDocument, ofRecords_fences, hwire, hfence, ?_, ?_⟩
  · obtain ⟨expansion, -, hbuild, hpaths, -⟩ := paths_distinct_if_refers_singly
      readDocument_fenceDocument ofRecords_fences hwire []
    exact ⟨expansion, hbuild, hpaths refersSingly_wire⟩
  · obtain ⟨expansion, chains, hbuild, -, hnames, hsimple, -, hwalk⟩ :=
      paths_distinct_if_refers_singly readDocument_fenceDocument ofRecords_fences hfence []
    refine ⟨expansion, hbuild, hnames, fun hnodup => ?_⟩
    have hways : (DocNode.walkAll [] expansion.docs).map Prod.fst = chains.map Chain.names := by
      rw [← List.forall₂_eq_eq_eq, List.forall₂_map_left_iff, List.forall₂_map_right_iff]
      exact hwalk.imp fun entry chain h => h.1
    rw [hways] at hnodup
    have hpost : heightVia "Post" ∈ chains :=
      (hsimple _).mpr ⟨⟨fence, rfl, rfl, by decide, post, rfl, rfl⟩, by decide, by decide⟩
    have hwire : heightVia "Wire" ∈ chains :=
      (hsimple _).mpr ⟨⟨fence, rfl, rfl, by decide, wire, rfl, rfl⟩, by decide, by decide⟩
    have hsame : heightVia "Post" = heightVia "Wire" :=
      List.inj_on_of_nodup_map hnodup hpost hwire rfl
    simp [heightVia] at hsame

end Schema

end RecordDocs
