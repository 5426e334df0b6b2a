import Mathlib.Data.List.Forall2
import Mathlib.Data.List.Sort
import RecordDocs.Proofs.ReferenceChain

/-!
# The notes of an expansion

There is an occasion for a note wherever a chain ends: the signature at its end has arguments but
refers to nothing, or it refers to names that are open there and are left out. So the notes can be
told from the documentation they come with: they are those on the nodes of the walk, each in its
place, and no others.

The enumeration `occasions` follows the expansion, as that of the chains does. A name that is left
out is noted between the nodes that come before it and those behind it, which is why the address of
such an occasion is that of its chain, lengthened by the position of the name.
-/

namespace RecordDocs

def Note.leftOut : Note → Option String
  | .noKnownArgument _ => none
  | .alreadyOpen _ target => some target

/-- What there is to note at the end of a chain: a name that is left out, or else that the signature
refers to nothing. -/
structure Occasion where
  chain : Chain
  leftOut : Option String

namespace Occasion

def note (occasion : Occasion) : Note :=
  match occasion.leftOut with
  | none => .noKnownArgument occasion.chain.final
  | some target => .alreadyOpen occasion.chain.final target

def via (position : Nat) (field : FieldDefinition) (target : String) (occasion : Occasion) :
    Occasion :=
  ⟨.via position field target occasion.chain, occasion.leftOut⟩

/-- The address of the chain and, for a name that is left out, its position among those that the
field at the end refers to. -/
def address (table : RecordTable) (occasion : Occasion) : List Nat :=
  occasion.chain.address table
    ++ (occasion.leftOut.map (table.references occasion.chain.final.signature).idxOf).toList

end Occasion

namespace RecordTable

def KnowsNoArgument (table : RecordTable) (signature : String) : Prop :=
  (Signature.parse? signature).isSome ∧ table.references signature = []

instance (table : RecordTable) : DecidablePred table.KnowsNoArgument :=
  fun _ => inferInstanceAs (Decidable (_ ∧ _))

/-- The occasion arises at the end of its chain, if this starts along a path. -/
def IsDue (table : RecordTable) (path : List String) (occasion : Occasion) : Prop :=
  match occasion.leftOut with
  | none => table.KnowsNoArgument occasion.chain.final.signature
  | some target =>
      target ∈ table.references occasion.chain.final.signature ∧
        target ∈ occasion.chain.openNames path

variable {table : RecordTable} {path : List String} {position : Nat} {field : FieldDefinition}
  {target : String} {record : RecordDefinition} {occasion : Occasion}

/-! ### Enumerating the occasions -/

def ownOccasions (table : RecordTable) (position : Nat) (field : FieldDefinition) :
    List Occasion :=
  if table.KnowsNoArgument field.signature then [⟨.last position field, none⟩] else []

def occasions (table : RecordTable) (path : List String) (fields : List FieldDefinition) :
    List Occasion :=
  fields.zipIdx.flatMap fun (field, position) =>
    table.ownOccasions position field ++ (table.references field.signature).flatMap fun target =>
      if _hmem : target ∈ path then [⟨.last position field, some target⟩]
      else match _hget : table.get? target with
        | none => []
        | some record =>
            (table.occasions (target :: path) record.fields).map (.via position field target)
termination_by table.openCount path
decreasing_by exact openCount_cons_lt (mem_keys_of_get? _hget) _hmem

def occasionsVia (table : RecordTable) (path : List String) (position : Nat)
    (field : FieldDefinition) (target : String) : List Occasion :=
  if target ∈ path then [⟨.last position field, some target⟩]
  else match table.get? target with
    | none => []
    | some record =>
        (table.occasions (target :: path) record.fields).map (.via position field target)

def occasionsAt (table : RecordTable) (path : List String) (position : Nat)
    (field : FieldDefinition) : List Occasion :=
  table.ownOccasions position field
    ++ (table.references field.signature).flatMap (table.occasionsVia path position field)

theorem occasions_eq_flatMap (table : RecordTable) (path : List String)
    (fields : List FieldDefinition) :
    table.occasions path fields
      = fields.zipIdx.flatMap fun (field, position) => table.occasionsAt path position field := by
  rw [occasions]
  refine List.flatMap_congr fun entry _ => ?_
  refine congrArg (table.ownOccasions _ _ ++ ·) (List.flatMap_congr fun target _ => ?_)
  rw [occasionsVia]
  by_cases hmem : target ∈ path
  · rw [if_pos hmem, dif_pos hmem]
  · rw [if_neg hmem, dif_neg hmem]
    split <;> rename_i hget <;> rw [hget]

theorem occasionsVia_of_mem (h : target ∈ path) :
    table.occasionsVia path position field target = [⟨.last position field, some target⟩] :=
  if_pos h

theorem occasionsVia_of_get? (hnew : target ∉ path) (hget : table.get? target = some record) :
    table.occasionsVia path position field target
      = (table.occasions (target :: path) record.fields).map (.via position field target) := by
  rw [occasionsVia, if_neg hnew, hget]

theorem mem_ownOccasions_iff : occasion ∈ table.ownOccasions position field ↔
    table.KnowsNoArgument field.signature ∧ occasion = ⟨.last position field, none⟩ := by
  rw [ownOccasions]
  split <;> rename_i h <;> simp [h]

theorem mem_occasionsVia_iff (htarget : target ∈ table.references field.signature) :
    occasion ∈ table.occasionsVia path position field target ↔
      target ∈ path ∧ occasion = ⟨.last position field, some target⟩ ∨
        target ∉ path ∧ ∃ record, table.get? target = some record ∧
          ∃ rest ∈ table.occasions (target :: path) record.fields,
            occasion = rest.via position field target := by
  by_cases hmem : target ∈ path
  · rw [occasionsVia_of_mem hmem]
    simp [hmem]
  · obtain ⟨record, hget⟩ := exists_get?_of_mem_references htarget
    rw [occasionsVia_of_get? hmem hget]
    simp [hmem, hget, eq_comm]

/-! ### The notes are those on the occasions -/

theorem map_note_ownOccasions (table : RecordTable) (position : Nat) (field : FieldDefinition) :
    (table.ownOccasions position field).map Occasion.note
      = argumentNotes field (table.references field.signature) := by
  have hiff : (table.references field.signature).isEmpty
      && (Signature.parse? field.signature).isSome ↔ table.KnowsNoArgument field.signature := by
    rw [KnowsNoArgument, Bool.and_eq_true, List.isEmpty_iff, and_comm]
  rw [ownOccasions, argumentNotes]
  by_cases hknows : table.KnowsNoArgument field.signature
  · rw [if_pos hknows, if_pos (hiff.mpr hknows)]
    rfl
  · rw [if_neg hknows, if_neg (mt hiff.mp hknows)]
    rfl

theorem map_note_map_via (occasions : List Occasion) :
    (occasions.map (Occasion.via position field target)).map Occasion.note
      = occasions.map Occasion.note := by
  rw [List.map_map]
  rfl

theorem notes_expandFields (table : RecordTable) (path : List String)
    (fields : List FieldDefinition) :
    (table.expandFields path fields).notes = fields.flatMap fun field =>
      argumentNotes field (table.references field.signature)
        ++ (table.references field.signature).flatMap fun target =>
          (table.expandTarget path field target).notes := by
  rw [expandFields_eq_concat, Expansion.notes_concat, List.flatMap_map]
  refine List.flatMap_congr fun field _ => ?_
  rw [expandField, expandBelow, Expansion.notes_concat, List.flatMap_map]

theorem notes_expandFields_eq_map (table : RecordTable) (path : List String)
    (fields : List FieldDefinition) :
    (table.expandFields path fields).notes
      = (table.occasions path fields).map Occasion.note := by
  induction path using table.path_induction generalizing fields with
  | step path ih =>
      -- One name gives the note that it is left out, or else, by induction, the notes below it.
      have hvia : ∀ position field, ∀ target ∈ table.references field.signature,
          (table.expandTarget path field target).notes
            = (table.occasionsVia path position field target).map Occasion.note := by
        intro position field target htarget
        rcases expandTarget_cases path htarget with ⟨hmem, hnote⟩ | ⟨hnew, record, hget, hexpand⟩
        · rw [occasionsVia_of_mem hmem, hnote]
          rfl
        · rw [occasionsVia_of_get? hnew hget, hexpand, ih target record hnew hget, map_note_map_via]
      rw [notes_expandFields, ← flatMap_fst_zipIdx, occasions_eq_flatMap, List.map_flatMap]
      refine List.flatMap_congr ?_
      rintro ⟨field, position⟩ _
      dsimp only
      rw [occasionsAt, List.map_append, map_note_ownOccasions, List.map_flatMap]
      exact congrArg _ (List.flatMap_congr (hvia position field))

/-! ### Which occasions there are -/

theorem mem_occasions_iff_exists {fields : List FieldDefinition} :
    occasion ∈ table.occasions path fields ↔ ∃ position field, fields[position]? = some field ∧
      occasion ∈ table.occasionsAt path position field := by
  rw [occasions_eq_flatMap, List.mem_flatMap]
  constructor
  · rintro ⟨⟨field, position⟩, hmem, hoccasion⟩
    exact ⟨position, field, List.mk_mem_zipIdx_iff_getElem?.mp hmem, hoccasion⟩
  · rintro ⟨position, field, hfield, hoccasion⟩
    exact ⟨(field, position), List.mk_mem_zipIdx_iff_getElem?.mpr hfield, hoccasion⟩

theorem mem_occasionsAt_iff : occasion ∈ table.occasionsAt path position field ↔
    (table.KnowsNoArgument field.signature ∧ occasion = ⟨.last position field, none⟩) ∨
      ∃ target ∈ table.references field.signature,
        target ∈ path ∧ occasion = ⟨.last position field, some target⟩ ∨
          target ∉ path ∧ ∃ record, table.get? target = some record ∧
            ∃ rest ∈ table.occasions (target :: path) record.fields,
              occasion = rest.via position field target := by
  rw [occasionsAt, List.mem_append, mem_ownOccasions_iff, List.mem_flatMap]
  exact or_congr_right (exists_congr fun target =>
    and_congr_right fun htarget => mem_occasionsVia_iff htarget)

theorem last_mem_occasions_iff {fields : List FieldDefinition} {leftOut : Option String} :
    ⟨.last position field, leftOut⟩ ∈ table.occasions path fields ↔
      fields[position]? = some field ∧ table.IsDue path ⟨.last position field, leftOut⟩ := by
  rw [mem_occasions_iff_exists]
  constructor
  · rintro ⟨index, other, hfield, hoccasion⟩
    rcases mem_occasionsAt_iff.mp hoccasion with
      ⟨hknows, heq⟩ | ⟨target, htarget, ⟨hmem, heq⟩ | ⟨-, _, -, rest, -, heq⟩⟩
    · cases heq
      exact ⟨hfield, hknows⟩
    · cases heq
      exact ⟨hfield, htarget, hmem⟩
    · cases heq
  · rintro ⟨hfield, hdue⟩
    refine ⟨position, field, hfield, mem_occasionsAt_iff.mpr ?_⟩
    cases leftOut with
    | none => exact Or.inl ⟨hdue, rfl⟩
    | some target => exact Or.inr ⟨target, hdue.1, Or.inl ⟨hdue.2, rfl⟩⟩

theorem via_mem_occasions_iff {fields : List FieldDefinition} {rest : Occasion} :
    rest.via position field target ∈ table.occasions path fields ↔
      fields[position]? = some field ∧ target ∈ table.references field.signature ∧
        target ∉ path ∧ ∃ record, table.get? target = some record ∧
          rest ∈ table.occasions (target :: path) record.fields := by
  rw [mem_occasions_iff_exists]
  constructor
  · rintro ⟨index, other, hfield, hoccasion⟩
    rcases mem_occasionsAt_iff.mp hoccasion with
      ⟨-, heq⟩ | ⟨name, htarget, ⟨-, heq⟩ | ⟨hnew, record, hget, tail, htail, heq⟩⟩
    · cases heq
    · cases heq
    · obtain ⟨chain, leftOut⟩ := rest
      obtain ⟨otherChain, otherLeftOut⟩ := tail
      cases heq
      exact ⟨hfield, htarget, hnew, record, hget, htail⟩
  · rintro ⟨hfield, htarget, hnew, record, hget, hrest⟩
    refine ⟨position, field, hfield, mem_occasionsAt_iff.mpr (Or.inr ⟨target, htarget, ?_⟩)⟩
    exact Or.inr ⟨hnew, record, hget, rest, hrest, rfl⟩

/-- Going through a name opens it, whether on the path or on the chain. -/
theorem isDue_via_iff :
    table.IsDue path (occasion.via position field target) ↔
      table.IsDue (target :: path) occasion := by
  obtain ⟨chain, leftOut⟩ := occasion
  cases leftOut with
  | none => exact Iff.rfl
  | some name => simp [IsDue, Occasion.via, Chain.final, Chain.openNames, Chain.targets]

/-- Occasions arise at the ends of chains, at each whatever is due there. -/
theorem mem_occasions_iff {fields : List FieldDefinition} :
    occasion ∈ table.occasions path fields ↔
      occasion.chain ∈ table.chains path fields ∧ table.IsDue path occasion := by
  obtain ⟨chain, leftOut⟩ := occasion
  induction chain generalizing path fields with
  | last position field => rw [last_mem_occasions_iff, last_mem_chains_iff]
  | via position field target rest ih =>
      have hvia : (⟨.via position field target rest, leftOut⟩ : Occasion)
          = Occasion.via position field target ⟨rest, leftOut⟩ := rfl
      rw [hvia, via_mem_occasions_iff, isDue_via_iff]
      change _ ↔ Chain.via position field target rest ∈ table.chains path fields ∧ _
      rw [via_mem_chains_iff]
      simp only [ih]
      constructor
      · rintro ⟨hfield, htarget, hnew, record, hget, hrest, hdue⟩
        exact ⟨⟨hfield, htarget, hnew, record, hget, hrest⟩, hdue⟩
      · rintro ⟨⟨hfield, htarget, hnew, record, hget, hrest⟩, hdue⟩
        exact ⟨hfield, htarget, hnew, record, hget, hrest, hdue⟩

/-! ### The occasions are in depth-first order -/

theorem exists_address_of_mem_occasionsVia (htarget : target ∈ table.references field.signature)
    (h : occasion ∈ table.occasionsVia path position field target) :
    ∃ rest, occasion.address table
      = position :: (table.references field.signature).idxOf target :: rest := by
  rcases (mem_occasionsVia_iff htarget).mp h with ⟨-, rfl⟩ | ⟨-, _, -, rest, -, rfl⟩
  · exact ⟨[], rfl⟩
  · exact ⟨rest.address table, rfl⟩

theorem exists_address_of_mem_occasionsAt
    (h : occasion ∈ table.occasionsAt path position field) :
    ∃ rest, occasion.address table = position :: rest := by
  rcases List.mem_append.mp h with hown | hvia
  · rw [(mem_ownOccasions_iff.mp hown).2]
    exact ⟨[], rfl⟩
  · obtain ⟨target, htarget, hvia⟩ := List.mem_flatMap.mp hvia
    obtain ⟨rest, haddress⟩ := exists_address_of_mem_occasionsVia htarget hvia
    exact ⟨_, haddress⟩

theorem pairwise_address_occasions (table : RecordTable) (path : List String)
    (fields : List FieldDefinition) :
    (table.occasions path fields).Pairwise fun first second =>
      first.address table < second.address table := by
  induction path using table.path_induction generalizing fields with
  | step path ih =>
      rw [occasions_eq_flatMap]
      refine pairwise_address_fields (table.occasionsAt path) (fun position field => ?_)
        (fun position field occasion => exists_address_of_mem_occasionsAt) fields
      refine pairwise_address_targets (nodup_references _ _) ?_ (fun occasion hown => ?_)
        (fun target htarget => ?_)
        (fun target htarget occasion => exists_address_of_mem_occasionsVia htarget)
      · rw [ownOccasions]
        split
        · exact List.pairwise_singleton _ _
        · exact List.Pairwise.nil
      · rw [(mem_ownOccasions_iff.mp hown).2]
        rfl
      · -- Below one name all addresses start with the same two numbers.
        by_cases hmem : target ∈ path
        · rw [occasionsVia_of_mem hmem]
          exact List.pairwise_singleton _ _
        · obtain ⟨record, hget⟩ := exists_get?_of_mem_references htarget
          rw [occasionsVia_of_get? hmem hget, List.pairwise_map]
          refine (ih target record hmem hget record.fields).imp ?_
          intro first second hlt
          exact List.cons_lt_cons_iff.mpr
            (Or.inr ⟨rfl, List.cons_lt_cons_iff.mpr (Or.inr ⟨rfl, hlt⟩)⟩)

/-! ### Notes and nodes -/

theorem eq_of_pairwise_address {first second : List Chain}
    (hfirst : first.Pairwise fun chain other => chain.address table < other.address table)
    (hsecond : second.Pairwise fun chain other => chain.address table < other.address table)
    (h : ∀ chain, chain ∈ first ↔ chain ∈ second) : first = second := by
  have : Std.Irrefl fun chain other : Chain => chain.address table < other.address table :=
    ⟨fun chain => List.lt_irrefl _⟩
  have : Std.Antisymm fun chain other : Chain => chain.address table < other.address table :=
    ⟨fun chain other hlt hgt => absurd hgt (List.lt_asymm hlt)⟩
  exact hfirst.eq_of_mem_iff hsecond h

theorem map_chain_filter_occasions (table : RecordTable) (path : List String)
    (fields : List FieldDefinition) :
    ((table.occasions path fields).filter fun occasion => occasion.leftOut.isNone).map
        Occasion.chain
      = (table.chains path fields).filter fun chain =>
          table.KnowsNoArgument chain.final.signature := by
  -- Both sides are in depth-first order, so that it is enough to compare their members.
  refine eq_of_pairwise_address ?_ ((pairwise_address_chains table path fields).filter _) ?_
  · rw [List.pairwise_map]
    refine ((pairwise_address_occasions table path fields).filter _).imp_of_mem ?_
    intro first second hfirst hsecond hlt
    have hnone : ∀ occasion : Occasion, occasion.leftOut.isNone →
        occasion.address table = occasion.chain.address table := by
      intro occasion h
      rw [Occasion.address, Option.isNone_iff_eq_none.mp h]
      exact List.append_nil _
    rw [hnone first (List.mem_filter.mp hfirst).2,
      hnone second (List.mem_filter.mp hsecond).2] at hlt
    exact hlt
  · intro chain
    rw [List.mem_map, List.mem_filter, decide_eq_true_iff]
    constructor
    · rintro ⟨⟨chain, leftOut⟩, hmem, rfl⟩
      obtain ⟨hoccasion, hnone⟩ := List.mem_filter.mp hmem
      obtain rfl : leftOut = none := Option.isNone_iff_eq_none.mp hnone
      exact mem_occasions_iff.mp hoccasion
    · intro hchain
      exact ⟨⟨chain, none⟩, List.mem_filter.mpr ⟨mem_occasions_iff.mpr hchain, rfl⟩, rfl⟩

theorem leftOut_note (occasion : Occasion) : occasion.note.leftOut = occasion.leftOut := by
  obtain ⟨chain, leftOut⟩ := occasion
  cases leftOut <;> rfl

theorem map_message_filter_notes (table : RecordTable) (path : List String)
    (fields : List FieldDefinition) :
    ((table.expandFields path fields).notes.filter fun note => note.leftOut.isNone).map
        Note.message
      = ((DocNode.walkAll [] (table.expandFields path fields).docs).filter fun entry =>
            table.KnowsNoArgument entry.2.signature).map fun entry =>
          "No known record among the arguments of " ++ entry.2.name
            ++ " (" ++ entry.2.signature ++ ")" := by
  have hmessage : ∀ occasion ∈ (table.occasions path fields).filter fun occasion =>
      occasion.leftOut.isNone,
      occasion.note.message = (Note.noKnownArgument occasion.chain.final).message := by
    rintro ⟨chain, leftOut⟩ hmem
    obtain rfl : leftOut = none := Option.isNone_iff_eq_none.mp (List.mem_filter.mp hmem).2
    rfl
  calc
    _ = ((table.occasions path fields).filter fun occasion => occasion.leftOut.isNone).map
          fun occasion => occasion.note.message := by
        rw [notes_expandFields_eq_map, List.filter_map, List.map_map]
        simp only [Function.comp_def, leftOut_note]
    _ = (((table.occasions path fields).filter fun occasion => occasion.leftOut.isNone).map
          Occasion.chain).map fun chain => (Note.noKnownArgument chain.final).message := by
        rw [List.map_map]
        exact List.map_congr_left hmessage
    _ = ((table.chains path fields).filter fun chain =>
            table.KnowsNoArgument chain.final.signature).map fun chain =>
          (Note.noKnownArgument chain.final).message := by
        rw [map_chain_filter_occasions]
    _ = _ := by
        rw [walkAll_expandFields_eq_map, List.filter_map, List.map_map]
        rfl

/-- **The notes are told by the tree.** Walk through what is built for a known root, along the
simple chains from it. There is exactly one note for each node whose signature has arguments but
refers to nothing, and exactly one for each node and each name its signature refers to that is the
root, is given as being documented, or has been come through on the way to the node. There are no
other notes, and all of them stand in the order of the walk: those on arguments are, one by one,
what the walk has to tell of such nodes. -/
theorem notes_told_by_walk (table : RecordTable) (root : String) (visiting : List String)
    (hroot : root ∈ table.keys) :
    ∃ (expansion : Expansion) (chains : List Chain) (occasions : List Occasion),
      table.build root visiting = .ok expansion ∧
      (∀ chain : Chain, chain ∈ chains ↔ chain.IsSimple table root visiting) ∧
      chains.Pairwise (fun first second => first.address table < second.address table) ∧
      List.Forall₂ (fun entry chain =>
          entry.1 = chain.names ∧ entry.2.name = chain.final.name ∧
            entry.2.signature = chain.final.signature)
        (DocNode.walkAll [] expansion.docs) chains ∧
      expansion.notes = occasions.map Occasion.note ∧
      (∀ occasion : Occasion, occasion ∈ occasions ↔ occasion.chain ∈ chains ∧
        match occasion.leftOut with
        | none => table.KnowsNoArgument occasion.chain.final.signature
        | some target =>
            target ∈ table.references occasion.chain.final.signature ∧
              (target = root ∨ target ∈ visiting ∨ target ∈ occasion.chain.targets)) ∧
      occasions.Pairwise (fun first second => first.address table < second.address table) ∧
      (expansion.notes.filter fun note => note.leftOut.isNone).map Note.message
        = ((DocNode.walkAll [] expansion.docs).filter fun entry =>
              table.KnowsNoArgument entry.2.signature).map fun entry =>
            "No known record among the arguments of " ++ entry.2.name
              ++ " (" ++ entry.2.signature ++ ")" := by
  obtain ⟨record, hget⟩ := exists_get?_of_mem_keys hroot
  refine ⟨_, table.chains (root :: visiting) record.fields,
    table.occasions (root :: visiting) record.fields, build_eq_ok visiting hget, fun chain => ?_,
    pairwise_address_chains table _ _, ?_, notes_expandFields_eq_map table _ _,
    fun occasion => ?_, pairwise_address_occasions table _ _,
    map_message_filter_notes table _ _⟩
  · rw [mem_chains_iff, Chain.IsSimple, hget]
    simp
  · rw [walkAll_expandFields_eq_map, List.forall₂_map_left_iff, List.forall₂_same]
    exact fun chain _ => ⟨rfl, rfl, rfl⟩
  · obtain ⟨chain, leftOut⟩ := occasion
    rw [mem_occasions_iff]
    cases leftOut with
    | none => exact Iff.rfl
    | some target =>
        refine and_congr_right fun _ => and_congr_right fun _ => ?_
        rw [Chain.openNames, List.mem_append, List.mem_reverse, List.mem_cons, or_comm, or_assoc]

def readingRoom : RecordTable where
  entries := [("Book", book), ("Author", author),
    ("Visitor", ⟨"Visitor", [⟨"reads", "List<Book>", [], by decide⟩,
      ⟨"tags", "List<Tag>", [], by decide⟩], [], by decide⟩)]
  keys_nodup := by decide

/-- For a visitor, with authors being documented already, both names that the credits of a book
refer to are left out: the author, who is given, and the book, through which the credits are come
to. The tags are noted because they refer to nothing. -/
theorem readingRoom_notes_on_credits :
    "Visitor" ∈ readingRoom.keys ∧
      ∃ expansion, readingRoom.build "Visitor" ["Author"] = .ok expansion ∧
      .alreadyOpen ⟨"credits", "Pair<Author, Book>", ["Who made it"], by decide⟩ "Author"
        ∈ expansion.notes ∧
      .alreadyOpen ⟨"credits", "Pair<Author, Book>", ["Who made it"], by decide⟩ "Book"
        ∈ expansion.notes ∧
      .noKnownArgument ⟨"tags", "List<Tag>", [], by decide⟩ ∈ expansion.notes := by
  refine ⟨by decide, ?_⟩
  obtain ⟨expansion, chains, occasions, hbuild, hsimple, -, -, hnotes, hdue, -, -⟩ :=
    notes_told_by_walk readingRoom "Visitor" ["Author"] (by decide)
  have hcredits : .via 0 ⟨"reads", "List<Book>", [], by decide⟩ "Book"
      (.last 1 ⟨"credits", "Pair<Author, Book>", ["Who made it"], by decide⟩) ∈ chains :=
    (hsimple _).mpr ⟨⟨_, rfl, rfl, by decide, _, rfl, rfl⟩, by decide, by decide⟩
  have htags : .last 1 ⟨"tags", "List<Tag>", [], by decide⟩ ∈ chains :=
    (hsimple _).mpr ⟨⟨_, rfl, rfl⟩, by decide, by decide⟩
  refine ⟨expansion, hbuild, ?_, ?_, ?_⟩ <;> rw [hnotes, List.mem_map]
  · exact ⟨⟨_, some "Author"⟩, (hdue _).mpr ⟨hcredits, by decide, by decide⟩, rfl⟩
  · exact ⟨⟨_, some "Book"⟩, (hdue _).mpr ⟨hcredits, by decide, by decide⟩, rfl⟩
  · exact ⟨⟨_, none⟩, (hdue _).mpr ⟨htags, by decide⟩, rfl⟩

end RecordTable

end RecordDocs
