import Mathlib.Data.List.Basic
import RecordDocs.Proofs.ExpansionParts

/-!
# Reference chains

A chain leads from a field to a record that its signature refers to, on to a field of that record,
and so forth. The nodes of a built documentation, in the order of the walk, are the chains that
never come to a name twice: each exactly once, and a chain before those that go on from it.

The enumeration `chains` follows the expansion, so the walk is compared with it level by level. That
it lists the simple chains is an induction on the chain instead: the names on the path are those the
chain has come through, and a chain that avoids them now has to avoid one more from here on.
-/

namespace RecordDocs

/-- A field, with its position in its record, or a field, a name that it refers to and a chain in
the record under that name. -/
inductive Chain where
  | last (position : Nat) (field : FieldDefinition)
  | via (position : Nat) (field : FieldDefinition) (target : String) (rest : Chain)

namespace Chain

def names : Chain → List String
  | last _ field => [field.name]
  | via _ field _ rest => field.name :: rest.names

def targets : Chain → List String
  | last _ _ => []
  | via _ _ target rest => target :: rest.targets

def final : Chain → FieldDefinition
  | last _ field => field
  | via _ _ _ rest => rest.final

/-- The chain starts among the given fields, and each step leads to a name that the field before
refers to and to a field of the record under it. -/
def Follows (table : RecordTable) (fields : List FieldDefinition) : Chain → Prop
  | last position field => fields[position]? = some field
  | via position field target rest =>
      fields[position]? = some field ∧ target ∈ table.references field.signature ∧
        ∃ record, table.get? target = some record ∧ rest.Follows table record.fields

/-- A chain from a root that comes to no name twice: not to the root, to none of the names given
beforehand, and to none that it has come through. -/
def IsSimple (table : RecordTable) (root : String) (visiting : List String) (chain : Chain) :
    Prop :=
  (∃ record, table.get? root = some record ∧ chain.Follows table record.fields) ∧
    chain.targets.Nodup ∧ ∀ target ∈ chain.targets, target ≠ root ∧ target ∉ visiting

/-- Positions on the way: of the field in its record, of the name among those that the field refers
to, and so on. In the lexicographic order of addresses a chain comes before its continuations, which
are ordered by the names they go through first. -/
def address (table : RecordTable) : Chain → List Nat
  | last position _ => [position]
  | via position field target rest =>
      position :: (table.references field.signature).idxOf target :: rest.address table

/-- The names that are being documented at the end of the chain, if it starts along a path. -/
def openNames (path : List String) (chain : Chain) : List String :=
  chain.targets.reverse ++ path

def entry (above : List String) (chain : Chain) : List String × String × List String :=
  (above ++ chain.names, chain.final.signature, chain.final.docLines)

end Chain

namespace RecordTable

variable {table : RecordTable} {path : List String} {fields : List FieldDefinition}

/-! ### Enumerating the chains -/

/-- The chains that start among the fields and come to no name on the path and to none twice. -/
def chains (table : RecordTable) (path : List String) (fields : List FieldDefinition) :
    List Chain :=
  fields.zipIdx.flatMap fun (field, position) =>
    .last position field :: (table.references field.signature).flatMap fun target =>
      if _hmem : target ∈ path then []
      else match _hget : table.get? target with
        | none => []
        | some record =>
            (table.chains (target :: path) record.fields).map (.via position field target)
termination_by table.openCount path
decreasing_by exact openCount_cons_lt (mem_keys_of_get? _hget) _hmem

def chainsVia (table : RecordTable) (path : List String) (position : Nat)
    (field : FieldDefinition) (target : String) : List Chain :=
  if target ∈ path then []
  else match table.get? target with
    | none => []
    | some record => (table.chains (target :: path) record.fields).map (.via position field target)

def chainsAt (table : RecordTable) (path : List String) (position : Nat)
    (field : FieldDefinition) : List Chain :=
  .last position field ::
    (table.references field.signature).flatMap (table.chainsVia path position field)

theorem chains_eq_flatMap (table : RecordTable) (path : List String)
    (fields : List FieldDefinition) :
    table.chains path fields
      = fields.zipIdx.flatMap fun (field, position) => table.chainsAt path position field := by
  rw [chains]
  refine List.flatMap_congr fun entry _ => ?_
  refine congrArg (List.cons _) (List.flatMap_congr fun target _ => ?_)
  rw [chainsVia]
  by_cases hmem : target ∈ path
  · rw [if_pos hmem, dif_pos hmem]
  · rw [if_neg hmem, dif_neg hmem]
    split <;> rename_i hget <;> rw [hget]

section Via

variable {position : Nat} {field : FieldDefinition} {target : String} {record : RecordDefinition}

theorem chainsVia_of_mem (h : target ∈ path) : table.chainsVia path position field target = [] :=
  if_pos h

theorem chainsVia_of_get? (hnew : target ∉ path) (hget : table.get? target = some record) :
    table.chainsVia path position field target
      = (table.chains (target :: path) record.fields).map (.via position field target) := by
  rw [chainsVia, if_neg hnew, hget]

theorem mem_chainsVia_iff {chain : Chain} :
    chain ∈ table.chainsVia path position field target ↔
      target ∉ path ∧ ∃ record, table.get? target = some record ∧
        ∃ rest ∈ table.chains (target :: path) record.fields,
          chain = .via position field target rest := by
  by_cases hmem : target ∈ path
  · rw [chainsVia_of_mem hmem]
    simp [hmem]
  · cases hget : table.get? target with
    | none =>
        rw [chainsVia, if_neg hmem, hget]
        simp
    | some record =>
        rw [chainsVia_of_get? hmem hget]
        simp [hmem, eq_comm]

end Via

/-! ### The enumeration lists the simple chains -/

theorem last_mem_chains_iff {position : Nat} {field : FieldDefinition} :
    .last position field ∈ table.chains path fields ↔ fields[position]? = some field := by
  rw [chains_eq_flatMap, List.mem_flatMap]
  constructor
  · rintro ⟨⟨other, index⟩, hmem, hlast⟩
    rcases List.mem_cons.mp hlast with heq | hvia
    · cases heq
      exact List.mk_mem_zipIdx_iff_getElem?.mp hmem
    · obtain ⟨target, _, hvia⟩ := List.mem_flatMap.mp hvia
      obtain ⟨_, _, _, _, _, heq⟩ := mem_chainsVia_iff.mp hvia
      cases heq
  · intro hfield
    exact ⟨(field, position), List.mk_mem_zipIdx_iff_getElem?.mpr hfield, List.mem_cons_self⟩

theorem via_mem_chains_iff {position : Nat} {field : FieldDefinition} {target : String}
    {rest : Chain} :
    .via position field target rest ∈ table.chains path fields ↔
      fields[position]? = some field ∧ target ∈ table.references field.signature ∧
        target ∉ path ∧ ∃ record, table.get? target = some record ∧
          rest ∈ table.chains (target :: path) record.fields := by
  rw [chains_eq_flatMap, List.mem_flatMap]
  constructor
  · rintro ⟨⟨other, index⟩, hmem, hvia⟩
    rcases List.mem_cons.mp hvia with heq | hvia
    · cases heq
    · obtain ⟨name, hname, hvia⟩ := List.mem_flatMap.mp hvia
      obtain ⟨hnew, record, hget, tail, htail, heq⟩ := mem_chainsVia_iff.mp hvia
      cases heq
      exact ⟨List.mk_mem_zipIdx_iff_getElem?.mp hmem, hname, hnew, record, hget, htail⟩
  · rintro ⟨hfield, htarget, hnew, record, hget, hrest⟩
    refine ⟨(field, position), List.mk_mem_zipIdx_iff_getElem?.mpr hfield, ?_⟩
    refine List.mem_cons_of_mem _ (List.mem_flatMap.mpr ⟨target, htarget, ?_⟩)
    exact mem_chainsVia_iff.mpr ⟨hnew, record, hget, rest, hrest, rfl⟩

theorem mem_chains_iff {chain : Chain} :
    chain ∈ table.chains path fields ↔
      chain.Follows table fields ∧ chain.targets.Nodup ∧ ∀ name ∈ chain.targets, name ∉ path := by
  induction chain generalizing path fields with
  | last position field =>
      rw [last_mem_chains_iff]
      simp [Chain.Follows, Chain.targets]
  | via position field target rest ih =>
      rw [via_mem_chains_iff]
      simp only [Chain.Follows, Chain.targets, List.nodup_cons, List.forall_mem_cons, ih]
      -- what is new on the longer path is what `Nodup` asks of the target
      have havoid : (∀ name ∈ rest.targets, name ∉ target :: path) ↔
          target ∉ rest.targets ∧ ∀ name ∈ rest.targets, name ∉ path := by
        simp only [List.mem_cons, not_or]
        constructor
        · intro h
          exact ⟨fun hmem => (h target hmem).1 rfl, fun name hname => (h name hname).2⟩
        · rintro ⟨htarget, hpath⟩ name hname
          exact ⟨fun heq => htarget (heq ▸ hname), hpath name hname⟩
      rw [havoid]
      constructor
      · rintro ⟨hfield, htarget, hnew, record, hget, hfollows, hnodup, hrest, hpath⟩
        exact ⟨⟨hfield, htarget, record, hget, hfollows⟩, ⟨hrest, hnodup⟩, hnew, hpath⟩
      · rintro ⟨⟨hfield, htarget, record, hget, hfollows⟩, ⟨hrest, hnodup⟩, hnew, hpath⟩
        exact ⟨hfield, htarget, hnew, record, hget, hfollows, hnodup, hrest, hpath⟩

/-! ### The enumeration is in depth-first order -/

theorem pairwise_idxOf_lt {names : List String} (h : names.Nodup) :
    names.Pairwise fun first second => names.idxOf first < names.idxOf second := by
  rw [List.pairwise_iff_getElem]
  intro i j hi hj hlt
  rwa [h.idxOf_getElem, h.idxOf_getElem]

theorem pairwise_lt_zipIdx (fields : List FieldDefinition) :
    fields.zipIdx.Pairwise fun first second => first.2 < second.2 := by
  rw [List.pairwise_iff_getElem]
  intro i j hi hj hlt
  simpa using hlt

section Order

variable {Item : Type} {address : Item → List Nat}

/-- What is found at one field is in order if what belongs to the field itself comes first, and then
what each of its targets leads to, in order. -/
theorem pairwise_address_targets {targets : List String} (htargets : targets.Nodup)
    {position : Nat} {own : List Item} {via : String → List Item}
    (hown : own.Pairwise fun first second => address first < address second)
    (hhere : ∀ item ∈ own, address item = [position])
    (hvia : ∀ target ∈ targets,
      (via target).Pairwise fun first second => address first < address second)
    (hthere : ∀ target ∈ targets, ∀ item ∈ via target,
      ∃ rest, address item = position :: targets.idxOf target :: rest) :
    (own ++ targets.flatMap via).Pairwise fun first second => address first < address second := by
  rw [List.pairwise_append, List.pairwise_flatMap]
  refine ⟨hown, ⟨hvia, ?_⟩, ?_⟩
  · refine (pairwise_idxOf_lt htargets).imp_of_mem ?_
    intro first second hfirst hsecond hlt item hitem other hother
    obtain ⟨rest, haddress⟩ := hthere first hfirst item hitem
    obtain ⟨others, haddressOther⟩ := hthere second hsecond other hother
    rw [haddress, haddressOther, List.cons_lt_cons_iff, List.cons_lt_cons_iff]
    exact Or.inr ⟨rfl, Or.inl hlt⟩
  · intro item hitem other hother
    obtain ⟨target, htarget, hmem⟩ := List.mem_flatMap.mp hother
    obtain ⟨rest, haddress⟩ := hthere target htarget other hmem
    rw [hhere item hitem, haddress]
    simp

theorem pairwise_address_fields (part : Nat → FieldDefinition → List Item)
    (hpart : ∀ position field,
      (part position field).Pairwise fun first second => address first < address second)
    (hhere : ∀ position field, ∀ item ∈ part position field,
      ∃ rest, address item = position :: rest) (fields : List FieldDefinition) :
    (fields.zipIdx.flatMap fun (field, position) => part position field).Pairwise
      fun first second => address first < address second := by
  rw [List.pairwise_flatMap]
  refine ⟨fun entry _ => hpart entry.2 entry.1, ?_⟩
  refine (pairwise_lt_zipIdx fields).imp ?_
  rintro ⟨field, position⟩ ⟨otherField, otherPosition⟩ hlt item hitem other hother
  obtain ⟨rest, haddress⟩ := hhere position field item hitem
  obtain ⟨others, haddressOther⟩ := hhere otherPosition otherField other hother
  rw [haddress, haddressOther, List.cons_lt_cons_iff]
  exact Or.inl hlt

end Order

theorem exists_address_of_mem_chainsVia {position : Nat} {field : FieldDefinition} {target : String}
    {chain : Chain} (h : chain ∈ table.chainsVia path position field target) :
    ∃ rest, chain.address table
      = position :: (table.references field.signature).idxOf target :: rest := by
  obtain ⟨_, _, _, rest, _, rfl⟩ := mem_chainsVia_iff.mp h
  exact ⟨rest.address table, rfl⟩

theorem exists_address_of_mem_chainsAt {position : Nat} {field : FieldDefinition} {chain : Chain}
    (h : chain ∈ table.chainsAt path position field) :
    ∃ rest, chain.address table = position :: rest := by
  rcases List.mem_cons.mp h with rfl | hvia
  · exact ⟨[], rfl⟩
  · obtain ⟨target, _, hvia⟩ := List.mem_flatMap.mp hvia
    obtain ⟨rest, haddress⟩ := exists_address_of_mem_chainsVia hvia
    exact ⟨_, haddress⟩

theorem pairwise_address_chains (table : RecordTable) (path : List String)
    (fields : List FieldDefinition) :
    (table.chains path fields).Pairwise fun first second =>
      first.address table < second.address table := by
  induction path using table.path_induction generalizing fields with
  | step path ih =>
      rw [chains_eq_flatMap]
      refine pairwise_address_fields (table.chainsAt path) (fun position field => ?_)
        (fun position field chain => exists_address_of_mem_chainsAt) fields
      refine pairwise_address_targets (nodup_references _ _) (List.pairwise_singleton _ _)
        (fun chain hchain => ?_) (fun target htarget => ?_)
        (fun target _ chain => exists_address_of_mem_chainsVia)
      · rw [List.mem_singleton.mp hchain]
        rfl
      · by_cases hmem : target ∈ path
        · rw [chainsVia_of_mem hmem]
          exact List.Pairwise.nil
        · obtain ⟨record, hget⟩ := exists_get?_of_mem_references htarget
          rw [chainsVia_of_get? hmem hget, List.pairwise_map]
          refine (ih target record hmem hget record.fields).imp ?_
          intro first second hlt
          simpa [Chain.address] using hlt

/-! ### The enumeration is the walk -/

def walkEntry (entry : List String × DocNode String) : List String × String × List String :=
  (entry.1, entry.2.signature, entry.2.docLines)

theorem flatMap_fst_zipIdx {Part : Type} (part : FieldDefinition → List Part)
    (fields : List FieldDefinition) :
    (fields.zipIdx.flatMap fun entry => part entry.1) = fields.flatMap part := by
  conv_rhs => rw [← List.zipIdx_map_fst 0 fields, List.flatMap_map]

def fieldNode (table : RecordTable) (path : List String) (field : FieldDefinition) :
    DocNode String :=
  .node field.name field.signature field.docLines (table.expandBelow path field).docs

def visit (table : RecordTable) (path above : List String) (chain : Chain) :
    List String × DocNode String :=
  (above ++ chain.names, table.fieldNode (chain.openNames path) chain.final)

theorem visit_via (path above : List String) (position : Nat) (field : FieldDefinition)
    (target : String) (rest : Chain) :
    table.visit path above (.via position field target rest)
      = table.visit (target :: path) (above ++ [field.name]) rest := by
  simp [visit, Chain.names, Chain.final, Chain.openNames, Chain.targets]

/-- The walk through one field's node is that of the chains that start with the field, if the walk
below it is that of the chains that go on from it. -/
theorem map_visit_chainsAt {above : List String} {position : Nat} {field : FieldDefinition}
    (hvia : ∀ target ∈ table.references field.signature,
      (table.chainsVia path position field target).map (table.visit path above)
        = DocNode.walkAll (above ++ [field.name]) (table.expandTarget path field target).docs) :
    (table.chainsAt path position field).map (table.visit path above)
      = (table.fieldNode path field).walk above := by
  have hbelow : ((table.references field.signature).flatMap
        (table.chainsVia path position field)).map (table.visit path above)
      = DocNode.walkAll (above ++ [field.name]) (table.expandBelow path field).docs := by
    rw [docs_expandBelow, DocNode.walkAll_flatMap, List.map_flatMap]
    exact List.flatMap_congr hvia
  rw [chainsAt, List.map_cons, hbelow, fieldNode, DocNode.walk]
  rfl

theorem walkAll_expandFields_eq_map (table : RecordTable) (path above : List String)
    (fields : List FieldDefinition) :
    DocNode.walkAll above (table.expandFields path fields).docs
      = (table.chains path fields).map (table.visit path above) := by
  induction path using table.path_induction generalizing above fields with
  | step path ih =>
      have hat : ∀ position field, (table.chainsAt path position field).map (table.visit path above)
          = (table.fieldNode path field).walk above := by
        intro position field
        refine map_visit_chainsAt fun target htarget => ?_
        rcases expandTarget_cases path htarget with ⟨hmem, hnote⟩ | ⟨hnew, record, hget, hexpand⟩
        · rw [chainsVia_of_mem hmem, hnote]
          rfl
        · rw [chainsVia_of_get? hnew hget, hexpand, List.map_map, ih target record hnew hget]
          exact List.map_congr_left fun rest _ => visit_via path above position field target rest
      calc
        DocNode.walkAll above (table.expandFields path fields).docs
            = fields.flatMap fun field => (table.fieldNode path field).walk above := by
              rw [docs_expandFields, DocNode.walkAll_eq_flatMap, List.flatMap_map]
              rfl
        _ = fields.zipIdx.flatMap fun (field, position) =>
              (table.chainsAt path position field).map (table.visit path above) := by
              simp only [hat]
              exact (flatMap_fst_zipIdx _ fields).symm
        _ = (table.chains path fields).map (table.visit path above) := by
              rw [chains_eq_flatMap, List.map_flatMap]

theorem walkAll_expandFields (table : RecordTable) (path above : List String)
    (fields : List FieldDefinition) :
    (DocNode.walkAll above (table.expandFields path fields).docs).map walkEntry
      = (table.chains path fields).map (Chain.entry above) := by
  rw [walkAll_expandFields_eq_map, List.map_map]
  rfl

/-- What is built for a known root is walked along the simple chains from it, in depth-first order,
and the node at the end of a chain is that of its last field along the names that are open there. -/
theorem exists_walk_eq_map_visit {root : String} (hroot : root ∈ table.keys)
    (visiting : List String) :
    ∃ (expansion : Expansion) (chains : List Chain),
      table.build root visiting = .ok expansion ∧
      (∀ chain : Chain, chain ∈ chains ↔ chain.IsSimple table root visiting) ∧
      chains.Pairwise (fun first second => first.address table < second.address table) ∧
      DocNode.walkAll [] expansion.docs = chains.map (table.visit (root :: visiting) []) := by
  obtain ⟨record, hget⟩ := exists_get?_of_mem_keys hroot
  refine ⟨_, table.chains (root :: visiting) record.fields, build_eq_ok visiting hget, ?_,
    pairwise_address_chains table (root :: visiting) record.fields,
    walkAll_expandFields_eq_map table (root :: visiting) [] record.fields⟩
  intro chain
  rw [mem_chains_iff, Chain.IsSimple, hget]
  simp

/-- **The walk lists the simple chains.** What is built for a known root is walked along the simple
chains from that root and no others, each exactly once and in depth-first order, and an entry has
the names on the chain and the signature and doc lines of the field at its end. -/
theorem walk_build_eq_simple_chains (table : RecordTable) (root : String) (visiting : List String)
    (hroot : root ∈ table.keys) :
    ∃ (expansion : Expansion) (chains : List Chain),
      table.build root visiting = .ok expansion ∧
      (∀ chain : Chain, chain ∈ chains ↔ chain.IsSimple table root visiting) ∧
      chains.Nodup ∧
      chains.Pairwise (fun first second => first.address table < second.address table) ∧
      (DocNode.walkAll [] expansion.docs).map
          (fun entry => (entry.1, entry.2.signature, entry.2.docLines))
        = chains.map fun chain =>
            (chain.names, chain.final.signature, chain.final.docLines) := by
  obtain ⟨record, hget⟩ := exists_get?_of_mem_keys hroot
  have hsorted := pairwise_address_chains table (root :: visiting) record.fields
  refine ⟨_, table.chains (root :: visiting) record.fields, build_eq_ok visiting hget, ?_, ?_,
    hsorted, walkAll_expandFields table (root :: visiting) [] record.fields⟩
  · intro chain
    rw [mem_chains_iff, Chain.IsSimple, hget]
    simp
  · refine hsorted.imp ?_
    intro first second hlt heq
    exact List.lt_irrefl _ (heq ▸ hlt)

/-- From a book the walk goes on through its author to the books of the author. -/
theorem library_walk_passes_author :
    "Book" ∈ library.keys ∧ ∃ expansion, library.build "Book" [] = .ok expansion ∧
      (["credits", "books"], "List<Book>", []) ∈ (DocNode.walkAll [] expansion.docs).map
        fun entry => (entry.1, entry.2.signature, entry.2.docLines) := by
  refine ⟨by decide, ?_⟩
  obtain ⟨expansion, chains, hbuild, hsimple, _, _, hwalk⟩ :=
    walk_build_eq_simple_chains library "Book" [] (by decide)
  refine ⟨expansion, hbuild, ?_⟩
  rw [hwalk]
  refine List.mem_map.mpr ⟨.via 1 ⟨"credits", "Pair<Author, Book>", ["Who made it"], by decide⟩
    "Author" (.last 0 ⟨"books", "List<Book>", [], by decide⟩), (hsimple _).mpr ?_, rfl⟩
  exact ⟨⟨_, rfl, rfl, by decide, _, rfl, rfl⟩, by decide, by decide⟩

end RecordTable

end RecordDocs
