import RecordDocs.Proofs.JsonValues
import RecordDocs.Proofs.ReadTrees

/-!
# The grammar of written trees

Which values are read as trees is said here without the reader, and so is everything that can be at
fault in a value that is not: at which place, and what goes wrong there. A value may be at fault at
many places at once. The reader goes through the places in order, name before doc lines before
children, and each child with all that lies below it before the next, and stops at the first fault.

Places are ordered by their addresses, as the nodes of a tree are. That the reader stops at the
first fault is an induction on the value, and among children on the list: a child with no fault
moves the faults of those behind it one place further on.
-/

namespace RecordDocs.DocNode

open Json Text

/-! ### The grammar -/

/-- Doc lines are missing or void, or they can be taken one by one: from a text, a list or a
dictionary. -/
inductive IsLines : Option Value → Prop
  | missing : IsLines none
  | void {value : Value} (h : value.isVoid = true) : IsLines (some value)
  | text (text : String) : IsLines (some (.str text))
  | list (items : List Value) : IsLines (some (.list items))
  | dict (members : List (Key × Value)) : IsLines (some (.dict members))

/-- Children are missing or void, or they are the items of a list. -/
inductive HasChildren : Option Value → List Value → Prop
  | missing : HasChildren none []
  | void {value : Value} (h : value.isVoid = true) : HasChildren (some value) []
  | list (items : List Value) : HasChildren (some (.list items)) items

/-- A payload is a dictionary with a name, doc lines and children that are payloads again. -/
inductive IsPayload : Value → Prop
  | dict {members : List (Key × Value)} {items : List Value}
      (hname : ∃ name, lookup? "name" members = some name)
      (hlines : IsLines (lookup? "doc_lines" members))
      (hchildren : HasChildren (lookup? "children" members) items)
      (hall : ∀ item ∈ items, IsPayload item) : IsPayload (.dict members)

/-! ### Faults and their places -/

/-- Where a value can be at fault: in one of the parts of its own or somewhere in a child. -/
inductive Place where
  | name
  | docLines
  | children
  | child (position : Nat) (below : Place)

/-- In the lexicographic order of addresses the parts of a value come in the order in which they are
read, and its children one after the other. -/
def Place.address : Place → List Nat
  | name => [0]
  | docLines => [1]
  | children => [2]
  | child position below => (position + 2) :: below.address

inductive Yields : Value → List Value → Prop
  | text (text : String) : Yields (.str text) ((characters text).map .str)
  | list (items : List Value) : Yields (.list items) items
  | dict (members : List (Key × Value)) :
      Yields (.dict members) ((members.map fun member => member.1.asText).map .str)

/-- A value is at fault at a place: it is no dictionary, it has no name, its doc lines or its
children cannot be taken one by one, or what is taken for a child is at fault. -/
inductive FaultAt : Value → Place → Misuse → Prop
  | notDict {value : Value} (h : ∀ members, value ≠ .dict members) :
      FaultAt value .name value.subscriptMisuse
  | nameless {members : List (Key × Value)} (h : lookup? "name" members = none) :
      FaultAt (.dict members) .name (.missingMember "name")
  | docLines {members : List (Key × Value)} {value : Value}
      (h : lookup? "doc_lines" members = some value) (hkind : ¬ IsLines (some value)) :
      FaultAt (.dict members) .docLines (.notIterable value.kind)
  | children {members : List (Key × Value)} {value : Value}
      (h : lookup? "children" members = some value) (hvoid : value.isVoid = false)
      (hkind : ∀ items, ¬ Yields value items) :
      FaultAt (.dict members) .children (.notIterable value.kind)
  | child {members : List (Key × Value)} {value item : Value} {items : List Value} {position : Nat}
      {below : Place} {cause : Misuse} (h : lookup? "children" members = some value)
      (hyields : Yields value items) (hitem : items[position]? = some item)
      (hfault : FaultAt item below cause) : FaultAt (.dict members) (.child position below) cause

theorem FaultAt.cause_cases {value : Value} {place : Place} {cause : Misuse}
    (h : FaultAt value place cause) :
    cause = .missingMember "name" ∨ cause = .textIndex ∨ cause = .listIndex ∨
      (∃ kind, cause = .notSubscriptable kind) ∨ ∃ kind, cause = .notIterable kind := by
  induction h with
  | @notDict value h => cases value <;> simp [Value.subscriptMisuse]
  | nameless h => exact .inl rfl
  | docLines h hkind => exact .inr (.inr (.inr (.inr ⟨_, rfl⟩)))
  | children h hvoid hkind => exact .inr (.inr (.inr (.inr ⟨_, rfl⟩)))
  | child h hyields hitem hfault ih => exact ih

theorem Yields.unique {value : Value} {items others : List Value} (h : Yields value items)
    (hothers : Yields value others) : items = others := by
  cases h <;> cases hothers <;> rfl

/-- At one place only one thing goes wrong. -/
theorem FaultAt.unique {value : Value} {place : Place} {cause other : Misuse}
    (h : FaultAt value place cause) (hother : FaultAt value place other) : cause = other := by
  induction h with
  | notDict h =>
      cases hother with
      | notDict _ => rfl
      | nameless _ => exact absurd rfl (h _)
  | nameless h =>
      cases hother with
      | notDict hdict => exact absurd rfl (hdict _)
      | nameless _ => rfl
  | docLines h hkind =>
      cases hother with
      | docLines hsame _ =>
          rw [h] at hsame
          cases hsame
          rfl
  | children h hvoid hkind =>
      cases hother with
      | children hsame _ _ =>
          rw [h] at hsame
          cases hsame
          rfl
  | child h hyields hitem hfault ih =>
      cases hother with
      | child hsame hothers hfound hbelow =>
          rw [h] at hsame
          cases hsame
          obtain rfl := hyields.unique hothers
          rw [hitem] at hfound
          cases hfound
          exact ih hbelow

/-! ### Stopping at the first fault -/

def IsFirst (faults : Place → Misuse → Prop) (place : Place) (cause : Misuse) : Prop :=
  faults place cause ∧
    ∀ other found, faults other found → other = place ∨ place.address < other.address

/-- An outcome that decides a property with faults of its own: a result if the property holds and
there are none, and otherwise the first fault. -/
inductive Settles {α : Type} (accepted : Prop) (faults : Place → Misuse → Prop) :
    Except Misuse α → Prop
  | gives {result : α} (haccepted : accepted) (hnone : ∀ place cause, ¬ faults place cause) :
      Settles accepted faults (.ok result)
  | refuses {place : Place} {cause : Misuse} (hrefused : ¬ accepted)
      (hfirst : IsFirst faults place cause) : Settles accepted faults (.error cause)

section Settles

variable {α β : Type} {accepted other : Prop} {faults more : Place → Misuse → Prop}
  {outcome : Except Misuse α}

theorem Settles.exists_ok_iff (h : Settles accepted faults outcome) :
    (∃ result, outcome = .ok result) ↔ accepted := by
  cases h with
  | gives haccepted hnone => exact ⟨fun _ => haccepted, fun _ => ⟨_, rfl⟩⟩
  | refuses hrefused hfirst => exact iff_of_false not_exists_error_eq_ok hrefused

theorem Settles.exists_fault (h : Settles accepted faults outcome) (hrefused : ¬ accepted) :
    ∃ place cause, outcome = .error cause ∧ IsFirst faults place cause := by
  cases h with
  | gives haccepted hnone => exact absurd haccepted hrefused
  | refuses _ hfirst => exact ⟨_, _, rfl, hfirst⟩

theorem Settles.congr (h : Settles accepted faults outcome) (hiff : accepted ↔ other)
    (hfaults : ∀ place cause, faults place cause ↔ more place cause) :
    Settles other more outcome := by
  cases h with
  | gives haccepted hnone =>
      exact .gives (hiff.mp haccepted) fun place cause h => hnone place cause
        ((hfaults place cause).mpr h)
  | refuses hrefused hfirst =>
      obtain ⟨hfault, hbefore⟩ := hfirst
      exact .refuses (mt hiff.mpr hrefused) ⟨(hfaults _ _).mp hfault,
        fun place found h => hbefore place found ((hfaults place found).mpr h)⟩

theorem Settles.map (h : Settles accepted faults outcome) (next : α → β) :
    Settles accepted faults (outcome.map next) := by
  cases h with
  | gives haccepted hnone => exact .gives haccepted hnone
  | refuses hrefused hfirst => exact .refuses hrefused hfirst

end Settles

/-! ### Items one after the other -/

def ChildFault (items : List Value) (place : Place) (cause : Misuse) : Prop :=
  ∃ position item below, place = .child position below ∧ items[position]? = some item ∧
    FaultAt item below cause

variable {item : Value} {items rest : List Value} {place : Place} {cause : Misuse}

theorem address_child_lt_iff {position other : Nat} {below lower : Place} :
    (Place.child position below).address < (Place.child other lower).address ↔
      position < other ∨ position = other ∧ below.address < lower.address := by
  rw [Place.address, Place.address, List.cons_lt_cons_iff, Nat.add_lt_add_iff_right,
    Nat.add_right_cancel_iff]

theorem childFault_cons_iff :
    ChildFault (item :: rest) place cause ↔
      (∃ below, place = .child 0 below ∧ FaultAt item below cause) ∨
        ∃ position below, place = .child (position + 1) below ∧
          ChildFault rest (.child position below) cause := by
  constructor
  · rintro ⟨position, found, below, rfl, hitem, hfault⟩
    cases position with
    | zero =>
        cases hitem
        exact .inl ⟨below, rfl, hfault⟩
    | succ position =>
        exact .inr ⟨position, below, rfl, position, found, below, rfl, hitem, hfault⟩
  · rintro (⟨below, rfl, hfault⟩ | ⟨position, below, rfl, _, found, _, heq, hitem, hfault⟩)
    · exact ⟨0, item, below, rfl, rfl, hfault⟩
    · cases heq
      exact ⟨position + 1, found, below, rfl, hitem, hfault⟩

/-- The first fault of the first item is the first of all. -/
theorem isFirst_childFault_of_head (h : IsFirst (FaultAt item) place cause) :
    IsFirst (ChildFault (item :: rest)) (.child 0 place) cause := by
  obtain ⟨hfault, hbefore⟩ := h
  refine ⟨childFault_cons_iff.mpr (.inl ⟨place, rfl, hfault⟩), fun other found hother => ?_⟩
  rcases childFault_cons_iff.mp hother with ⟨below, rfl, hbelow⟩ | ⟨position, below, rfl, -⟩
  · rcases hbefore below found hbelow with rfl | hless
    · exact .inl rfl
    · exact .inr (address_child_lt_iff.mpr (.inr ⟨rfl, hless⟩))
  · exact .inr (address_child_lt_iff.mpr (.inl (Nat.succ_pos position)))

/-- Behind an item without faults the first fault stays the first, one position further on. -/
theorem isFirst_childFault_of_tail {position : Nat}
    (hnone : ∀ place cause, ¬ FaultAt item place cause)
    (h : IsFirst (ChildFault rest) (.child position place) cause) :
    IsFirst (ChildFault (item :: rest)) (.child (position + 1) place) cause := by
  obtain ⟨hfault, hbefore⟩ := h
  refine ⟨childFault_cons_iff.mpr (.inr ⟨position, place, rfl, hfault⟩), ?_⟩
  intro other found hother
  rcases childFault_cons_iff.mp hother with ⟨below, -, hbelow⟩ | ⟨index, below, rfl, hlater⟩
  · exact absurd hbelow (hnone below found)
  · rcases hbefore _ _ hlater with heq | hless
    · cases heq
      exact .inl rfl
    · rw [address_child_lt_iff] at hless
      rw [address_child_lt_iff, Nat.add_lt_add_iff_right, Nat.add_right_cancel_iff]
      exact .inr hless

theorem ofValues_settles
    (h : ∀ item ∈ items, Settles (IsPayload item) (FaultAt item) (ofValue item)) :
    Settles (∀ item ∈ items, IsPayload item) (ChildFault items) (ofValues items) := by
  induction items with
  | nil =>
      rw [ofValues]
      refine .gives (List.forall_mem_nil _) ?_
      rintro place cause ⟨position, item, below, -, hitem, -⟩
      cases hitem
  | cons item rest ih =>
      rw [List.forall_mem_cons] at h
      obtain ⟨hitem, hrest⟩ := h
      replace hrest := ih hrest
      rw [ofValues]
      cases hread : ofValue item with
      | error cause =>
          rw [hread] at hitem
          cases hitem with
          | refuses hrefused hfirst =>
              exact .refuses (fun hall => hrefused (hall item List.mem_cons_self))
                (isFirst_childFault_of_head hfirst)
      | ok doc =>
          rw [hread] at hitem
          cases hitem with
          | gives haccepted hnone =>
              -- only now the rest is read, and its first fault is the first of all
              dsimp only
              generalize ofValues rest = outcome at hrest ⊢
              cases hrest with
              | gives hall hnoneRest =>
                  refine .gives (List.forall_mem_cons.mpr ⟨haccepted, hall⟩) ?_
                  intro place cause hfault
                  rcases childFault_cons_iff.mp hfault with ⟨below, -, hbelow⟩ | ⟨_, _, -, hlater⟩
                  · exact hnone below cause hbelow
                  · exact hnoneRest _ cause hlater
              | refuses hrefused hfirst =>
                  obtain ⟨position, found, below, rfl, -⟩ := hfirst.1
                  refine .refuses (fun hall => hrefused fun later hlater => ?_)
                    (isFirst_childFault_of_tail hnone hfirst)
                  exact hall later (List.mem_cons_of_mem item hlater)

/-! ### Children -/

def ChildrenFault (value : Value) (place : Place) (cause : Misuse) : Prop :=
  (value.isVoid = false ∧ (∀ items, ¬ Yields value items) ∧
      place = .children ∧ cause = .notIterable value.kind) ∨
    ∃ items, Yields value items ∧ ChildFault items place cause

def SettlesChildren (value : Value) : Except Misuse (List (DocNode String)) → Prop :=
  Settles (∃ items, HasChildren (some value) items ∧ ∀ item ∈ items, IsPayload item)
    (ChildrenFault value)

variable {value : Value}

theorem settlesChildren_list
    (h : ∀ item ∈ items, Settles (IsPayload item) (FaultAt item) (ofValue item)) :
    SettlesChildren (.list items) (ofChildren (.list items)) := by
  rw [ofChildren]
  refine (ofValues_settles h).congr ?_ ?_
  · constructor
    · exact fun hall => ⟨items, .list items, hall⟩
    · rintro ⟨others, hchildren, hall⟩
      cases hchildren with
      | list _ => exact hall
      | void hvoid =>
          obtain rfl := List.isEmpty_iff.mp hvoid
          exact List.forall_mem_nil _
  · intro place cause
    constructor
    · exact fun hfault => .inr ⟨items, .list items, hfault⟩
    · rintro (⟨-, hnone, -⟩ | ⟨_, ⟨_⟩, hfault⟩)
      · exact absurd (.list items) (hnone items)
      · exact hfault

theorem not_exists_hasChildren (hvoid : value.isVoid = false)
    (hlist : ∀ items, value ≠ .list items) :
    ¬ ∃ items, HasChildren (some value) items ∧ ∀ item ∈ items, IsPayload item := by
  rintro ⟨items, hchildren, -⟩
  cases hchildren with
  | void h =>
      rw [hvoid] at h
      cases h
  | list items => exact hlist items rfl

theorem settlesChildren_void (hvoid : value.isVoid = true)
    (hyields : ∀ items, Yields value items → items = []) : SettlesChildren value (.ok []) := by
  refine .gives ⟨[], .void hvoid, List.forall_mem_nil _⟩ ?_
  rintro place cause (⟨hnotVoid, -⟩ | ⟨items, htaken, position, item, -, -, hitem, -⟩)
  · rw [hvoid] at hnotVoid
    cases hnotVoid
  · rw [hyields items htaken] at hitem
    cases hitem

theorem settlesChildren_of_not_yields (hyields : ∀ items, ¬ Yields value items)
    (hread : ofChildren value
      = if value.isVoid then .ok [] else .error (.notIterable value.kind)) :
    SettlesChildren value (ofChildren value) := by
  have hlist : ∀ items, value ≠ .list items := fun items h => hyields items (h ▸ .list items)
  rw [hread]
  cases hvoid : value.isVoid with
  | true => exact settlesChildren_void hvoid fun items h => absurd h (hyields items)
  | false =>
      have hfault : ChildrenFault value .children (.notIterable value.kind) :=
        .inl ⟨hvoid, hyields, rfl, rfl⟩
      refine .refuses (not_exists_hasChildren hvoid hlist) ⟨hfault, ?_⟩
      rintro place cause (⟨-, -, rfl, -⟩ | ⟨items, htaken, -⟩)
      · exact .inl rfl
      · exact absurd htaken (hyields items)

theorem faultAt_str_iff {text : String} :
    FaultAt (.str text) place cause ↔ place = .name ∧ cause = .textIndex := by
  constructor
  · rintro ⟨⟩
    exact ⟨rfl, rfl⟩
  · rintro ⟨rfl, rfl⟩
    exact .notDict (by rintro members ⟨⟩)

theorem settlesChildren_of_texts {texts : List String} (hlist : ∀ items, value ≠ .list items)
    (hyields : ∀ items, Yields value items ↔ items = texts.map .str)
    (hvoid : value.isVoid = texts.isEmpty)
    (hread : ofChildren value = if value.isVoid then .ok [] else .error .textIndex) :
    SettlesChildren value (ofChildren value) := by
  rw [hread]
  cases texts with
  | nil =>
      have hempty : value.isVoid = true := hvoid
      rw [if_pos hempty]
      exact settlesChildren_void hvoid fun items h => (hyields items).mp h
  | cons first others =>
      have htaken : Yields value ((first :: others).map .str) := (hyields _).mpr rfl
      have hhead : IsFirst (FaultAt (.str first)) .name .textIndex :=
        ⟨faultAt_str_iff.mpr ⟨rfl, rfl⟩, fun other found h => .inl (faultAt_str_iff.mp h).1⟩
      obtain ⟨hfault, hbefore⟩ := isFirst_childFault_of_head hhead
      rw [if_neg (by simp [hvoid])]
      refine .refuses (not_exists_hasChildren hvoid hlist) ⟨.inr ⟨_, htaken, hfault⟩, ?_⟩
      rintro place cause (⟨-, hnone, -⟩ | ⟨items, hitems, hother⟩)
      · exact absurd htaken (hnone _)
      · obtain rfl := (hyields items).mp hitems
        exact hbefore place cause hother

theorem yields_str_iff {text : String} :
    Yields (.str text) items ↔ items = (characters text).map .str := by
  constructor
  · rintro ⟨⟩
    rfl
  · rintro rfl
    exact .text text

theorem yields_dict_iff {members : List (Key × Value)} :
    Yields (.dict members) items
      ↔ items = (members.map fun member => member.1.asText).map .str := by
  constructor
  · rintro ⟨⟩
    rfl
  · rintro rfl
    exact .dict members

theorem ofChildren_settles (hjson : IsJson value)
    (hlist : ∀ items, value = .list items → SettlesChildren value (ofChildren value)) :
    SettlesChildren value (ofChildren value) := by
  cases hjson with
  | list hitems => exact hlist _ rfl
  | str text =>
      refine settlesChildren_of_texts (by rintro items ⟨⟩) (fun _ => yields_str_iff) ?_ ?_
      · rw [Value.isVoid, isEmpty_characters]
      · rw [ofChildren, Value.isVoid]
  | dict hkeys hvalues hnodup =>
      refine settlesChildren_of_texts (by rintro items ⟨⟩) (fun _ => yields_dict_iff) ?_ ?_
      · rw [Value.isVoid, List.isEmpty_map]
      · rw [ofChildren, Value.isVoid]
  | _ => exact settlesChildren_of_not_yields (by rintro items ⟨⟩) (by simp [ofChildren])

/-! ### Payloads -/

variable {members : List (Key × Value)} {name : Value} {docLines : List String}

theorem readLines_cases (hjson : IsJson (.dict members)) :
    (IsLines (lookup? "doc_lines" members) ∧ ∃ docLines, readLines members = .ok docLines) ∨
      ∃ value, lookup? "doc_lines" members = some value ∧ ¬ IsLines (some value) ∧
        readLines members = .error (.notIterable value.kind) := by
  have hfound := hjson.of_lookup? "doc_lines"
  rw [readLines]
  generalize lookup? "doc_lines" members = found at hfound ⊢
  cases found with
  | none => exact .inl ⟨.missing, [], rfl⟩
  | some value =>
      by_cases hvoid : value.isVoid = true
      · exact .inl ⟨.void hvoid, [], if_pos hvoid⟩
      · have hscalar : value.elementTexts = .error (.notIterable value.kind) →
            ¬ IsLines (some value) ∧
              (if value.isVoid then .ok [] else value.elementTexts)
                = (.error (.notIterable value.kind) : Except Misuse (List String)) := by
          intro hread
          refine ⟨fun hlines => ?_, (if_neg hvoid).trans hread⟩
          cases hlines with
          | void h => exact hvoid h
          | text text => cases hread
          | list items => cases hread
          | dict members => cases hread
        cases hfound value rfl with
        | null => exact absurd rfl hvoid
        | bool flag => exact .inr ⟨_, rfl, hscalar rfl⟩
        | int hwritable => exact .inr ⟨_, rfl, hscalar rfl⟩
        | float number => exact .inr ⟨_, rfl, hscalar rfl⟩
        | str text => exact .inl ⟨.text text, _, if_neg hvoid⟩
        | list hitems => exact .inl ⟨.list _, _, if_neg hvoid⟩
        | dict hkeys hvalues hnodup => exact .inl ⟨.dict _, _, if_neg hvoid⟩

/-- The parts of a dictionary, and with them its faults, are met in their order. -/
theorem faultAt_dict_iff :
    FaultAt (.dict members) place cause ↔
      (lookup? "name" members = none ∧ place = .name ∧ cause = .missingMember "name") ∨
      (∃ value, lookup? "doc_lines" members = some value ∧ ¬ IsLines (some value) ∧
        place = .docLines ∧ cause = .notIterable value.kind) ∨
      ∃ value, lookup? "children" members = some value ∧ ChildrenFault value place cause := by
  constructor
  · intro h
    cases h with
    | notDict h => exact absurd rfl (h members)
    | nameless h => exact .inl ⟨h, rfl, rfl⟩
    | docLines h hkind => exact .inr (.inl ⟨_, h, hkind, rfl, rfl⟩)
    | children h hvoid hkind => exact .inr (.inr ⟨_, h, .inl ⟨hvoid, hkind, rfl, rfl⟩⟩)
    | child h hyields hitem hfault =>
        exact .inr (.inr ⟨_, h, .inr ⟨_, hyields, _, _, _, rfl, hitem, hfault⟩⟩)
  · rintro (⟨h, rfl, rfl⟩ | ⟨value, h, hkind, rfl, rfl⟩ | ⟨value, h, hfault⟩)
    · exact .nameless h
    · exact .docLines h hkind
    · rcases hfault with ⟨hvoid, hkind, rfl, rfl⟩ | ⟨items, hyields, _, item, _, rfl, hitem, hfault⟩
      · exact .children h hvoid hkind
      · exact .child h hyields hitem hfault

theorem ChildrenFault.exists_address (h : ChildrenFault value place cause) :
    ∃ position rest, place.address = (position + 2) :: rest := by
  rcases h with ⟨-, -, rfl, -⟩ | ⟨items, -, position, item, below, rfl, -⟩
  · exact ⟨0, [], rfl⟩
  · exact ⟨position, below.address, rfl⟩

theorem readChildren_settles {found : Option Value}
    (h : ∀ value ∈ found, SettlesChildren value (ofChildren value)) :
    Settles (∃ items, HasChildren found items ∧ ∀ item ∈ items, IsPayload item)
      (fun place cause => ∃ value, found = some value ∧ ChildrenFault value place cause)
      (readChildren found) := by
  cases found with
  | none =>
      exact .gives ⟨[], .missing, List.forall_mem_nil _⟩ (by rintro _ _ ⟨_, ⟨⟩, _⟩)
  | some value =>
      refine (h value rfl).congr Iff.rfl fun place cause => ?_
      simp

theorem isPayload_dict_iff :
    IsPayload (.dict members) ↔ (∃ name, lookup? "name" members = some name) ∧
      IsLines (lookup? "doc_lines" members) ∧
      ∃ items, HasChildren (lookup? "children" members) items ∧ ∀ item ∈ items, IsPayload item := by
  constructor
  · rintro ⟨hname, hlines, hchildren, hall⟩
    exact ⟨hname, hlines, _, hchildren, hall⟩
  · rintro ⟨hname, hlines, items, hchildren, hall⟩
    exact .dict hname hlines hchildren hall

def SettlesPayload (value : Value) : Except Misuse (DocNode String) → Prop :=
  Settles (IsPayload value) (FaultAt value)

theorem settlesPayload_dict (hjson : IsJson (.dict members))
    (h : ∀ value ∈ lookup? "children" members, SettlesChildren value (ofChildren value)) :
    SettlesPayload (.dict members) (ofValue (.dict members)) := by
  cases hname : lookup? "name" members with
  | none =>
      rw [ofValue_of_nameless hname]
      refine .refuses ?_ ⟨.nameless hname, ?_⟩
      · rw [isPayload_dict_iff, hname]
        simp
      · intro place cause hfault
        rcases faultAt_dict_iff.mp hfault with ⟨-, rfl, -⟩ | ⟨_, -, -, rfl, -⟩ | ⟨_, -, hbehind⟩
        · exact .inl rfl
        · exact .inr (by decide)
        · obtain ⟨position, rest, haddress⟩ := hbehind.exists_address
          rw [haddress]
          exact .inr (List.cons_lt_cons_iff.mpr (.inl (Nat.succ_pos _)))
  | some name =>
      rcases readLines_cases hjson with ⟨hlines, docLines, hread⟩ | ⟨value, hvalue, hkind, hread⟩
      · rw [ofValue_of_readLines_ok hname hread]
        refine ((readChildren_settles h).congr ?_ ?_).map _
        · rw [isPayload_dict_iff, and_iff_right ⟨name, hname⟩, and_iff_right hlines]
        · intro place cause
          rw [faultAt_dict_iff, hname]
          have hnone : ¬ ∃ value, lookup? "doc_lines" members = some value ∧
              ¬ IsLines (some value) ∧ place = .docLines ∧ cause = .notIterable value.kind := by
            rintro ⟨value, hvalue, hkind, -⟩
            exact hkind (hvalue ▸ hlines)
          simp [hnone]
      · rw [ofValue_of_readLines_error hname hread]
        refine .refuses ?_ ⟨.docLines hvalue hkind, ?_⟩
        · rw [isPayload_dict_iff, hvalue]
          exact fun hall => hkind hall.2.1
        · intro place cause hfault
          rcases faultAt_dict_iff.mp hfault with ⟨hnone, -⟩ | ⟨_, -, -, rfl, -⟩ | ⟨_, -, hbehind⟩
          · rw [hname] at hnone
            cases hnone
          · exact .inl rfl
          · obtain ⟨position, rest, haddress⟩ := hbehind.exists_address
            rw [haddress]
            exact .inr (List.cons_lt_cons_iff.mpr (.inl (by omega)))

theorem settlesPayload_of_not_dict (hdict : ∀ members, value ≠ .dict members) :
    SettlesPayload value (ofValue value) := by
  have hread : ofValue value = .error value.subscriptMisuse := by
    cases value with
    | dict members => exact absurd rfl (hdict members)
    | _ => simp [ofValue]
  rw [hread]
  refine .refuses ?_ ⟨.notDict hdict, ?_⟩
  · rintro ⟨-, -, -, -⟩
    exact hdict _ rfl
  · rintro place cause hfault
    cases hfault with
    | notDict _ => exact .inl rfl
    | _ => exact absurd rfl (hdict _)

/-- The reader decides every value that a JSON text can hold. In the induction a list stands for
its items, which is what it is as the children of a node. -/
theorem ofValue_settles (hjson : IsJson value) :
    SettlesPayload value (ofValue value) ∧
      ∀ items, value = .list items → ∀ item ∈ items, SettlesPayload item (ofValue item) := by
  induction hjson with
  | @list items hitems ih =>
      refine ⟨settlesPayload_of_not_dict (by rintro members ⟨⟩), fun others heq item hitem => ?_⟩
      cases heq
      exact (ih item hitem).1
  | @dict members hkeys hvalues hnodup ih =>
      have hdict : IsJson (.dict members) := .dict hkeys hvalues hnodup
      refine ⟨settlesPayload_dict hdict fun value hvalue => ?_, by rintro items ⟨⟩⟩
      refine ofChildren_settles (hdict.of_lookup? "children" value hvalue) fun items heq => ?_
      subst heq
      exact settlesChildren_list ((ih _ (mem_of_lookup? hvalue)).2 items rfl)
  | _ => exact ⟨settlesPayload_of_not_dict (by rintro members ⟨⟩), by rintro items ⟨⟩⟩

/-- **Exactly the payloads are read as trees.** A value that a JSON text can hold is read as a tree
if and only if it is a payload, and the tree has one child for every item of its children, in order.
Otherwise the name is missing somewhere or a value is of the wrong kind, and of all the places where
the value is at fault the one that comes first, in the order name, doc lines, children and from
child to child with all that is below, is the one that is reported. -/
theorem reads_exactly_payloads {payload : Value} (hjson : IsJson payload) :
    ((∃ doc, ofValue payload = .ok doc) ↔ IsPayload payload) ∧
    (∀ doc, ofValue payload = .ok doc →
      List.Forall₂ (fun item child => ofValue item = .ok child)
        (childValues payload) doc.children) ∧
    (¬ IsPayload payload → ∃ place cause, ofValue payload = .error cause ∧
      (cause = .missingMember "name" ∨ cause = .textIndex ∨ cause = .listIndex ∨
        (∃ kind, cause = .notSubscriptable kind) ∨ ∃ kind, cause = .notIterable kind) ∧
      FaultAt payload place cause ∧
      ∀ other found, FaultAt payload other found →
        other = place ∧ found = cause ∨ place.address < other.address) := by
  have hsettles := (ofValue_settles hjson).1
  refine ⟨hsettles.exists_ok_iff, fun doc hdoc => readFrom_childValues hdoc, fun hrefused => ?_⟩
  obtain ⟨place, cause, hread, hfault, hbefore⟩ := hsettles.exists_fault hrefused
  refine ⟨place, cause, hread, hfault.cause_cases, hfault, fun other found hother => ?_⟩
  rcases hbefore other found hother with rfl | hless
  · exact .inl ⟨rfl, hother.unique hfault⟩
  · exact .inr hless

def crateText : String :=
  "\x7b\"name\": 5, \"doc_lines\": \x7b\"one\": 1\x7d, \"children\": "
    ++ "[\x7b\"name\": null, \"doc_lines\": 0, \"children\": \"\"\x7d]\x7d"

def crate : Value :=
  .dict [(.text "name", .int 5), (.text "doc_lines", .dict [(.text "one", .int 1)]),
    (.text "children",
      .list [.dict [(.text "name", .null), (.text "doc_lines", .int 0),
        (.text "children", .str "")]])]

def pileText : String :=
  "\x7b\"name\": \"pile\", \"children\": [\x7b\"name\": \"top\"\x7d, \x7b\"name\": \"low\", "
    ++ "\"doc_lines\": true, \"children\": 3\x7d, \"rest\"]\x7d"

def pile : Value :=
  .dict [(.text "name", .str "pile"), (.text "children",
    .list [.dict [(.text "name", .str "top")],
      .dict [(.text "name", .str "low"), (.text "doc_lines", .bool true),
        (.text "children", .int 3)],
      .str "rest"])]

theorem isJson_crate : IsJson crate :=
  have hread : read crateText = .ok crate := by cbv
  .of_read hread

theorem isJson_pile : IsJson pile :=
  have hread : read pileText = .ok pile := by cbv
  .of_read hread

/-- The crate is read as a node with one child. The pile is refused for the doc lines of its second
child, and not for the text that comes after it. -/
theorem crate_is_read_pile_is_refused :
    (IsPayload crate ∧ ∃ doc, ofValue crate = .ok doc ∧ doc.docLines = ["one"] ∧
      doc.children.length = 1) ∧
    ¬ IsPayload pile ∧ FaultAt pile (.child 2 .name) .textIndex ∧
      ∃ place, FaultAt pile place (.notIterable "bool") ∧ place.address < [4, 0] ∧
        ofValue pile = .error (.notIterable "bool") := by
  have hcrate : ofValue crate = .ok (.node "5" "" ["one"] [.node "None" "" [] []]) := by
    simp [crate, ofValue, ofChildren, ofValues, readLines, lookup?, Value.isVoid,
      Value.elementTexts, Value.asText, Value.wording, Key.asText, Except.map]
    rfl
  have hpile : ofValue pile = .error (.notIterable "bool") := by
    simp [pile, ofValue, ofChildren, ofValues, readLines, lookup?, Value.isVoid,
      Value.elementTexts, Value.kind, Except.map]
  have hrest : FaultAt pile (.child 2 .name) .textIndex :=
    .child rfl (.list _) rfl (.notDict (by rintro members ⟨⟩))
  obtain ⟨hiff, hchildren, -⟩ := reads_exactly_payloads isJson_crate
  obtain ⟨hiffPile, -, hfirst⟩ := reads_exactly_payloads isJson_pile
  have hrefused : ¬ IsPayload pile := by
    rw [← hiffPile, hpile]
    exact not_exists_error_eq_ok
  refine ⟨⟨hiff.mp ⟨_, hcrate⟩, _, hcrate, rfl, (hchildren _ hcrate).length_eq.symm⟩, hrefused,
    hrest, ?_⟩
  obtain ⟨place, cause, hread, -, hfault, hall⟩ := hfirst hrefused
  rw [hpile] at hread
  cases hread
  rcases hall _ _ hrest with ⟨-, hsame⟩ | hless
  · cases hsame
  · exact ⟨place, hfault, hless, hpile⟩

end RecordDocs.DocNode
