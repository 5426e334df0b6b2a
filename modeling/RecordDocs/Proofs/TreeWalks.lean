import Mathlib.Data.List.Forall2
import RecordDocs.DocNode

/-!
# Walks through forests

A node of a forest stands at an address: the positions, among their siblings, of the nodes on the
way to it. In the lexicographic order of addresses a node comes before everything below it, and all
this before its next sibling. The walk comes to the addresses of the forest in this order, to each
exactly once, and the names it shows are those on the way.

The names, the signature, the doc lines and the number of children that a walk shows of each node
are enough to tell forests apart, although siblings may share their names. The numbers of children
say where the walk through one tree ends and that through the next begins, so the induction is on
walks with anything behind them: two that agree as a whole are cut at the same place.
-/

namespace RecordDocs.DocNode

variable {Label : Type}

/-! ### Names above -/

mutual

/-- What is above a tree only stands in front of every way through it. -/
theorem walk_eq_map (above : List Label) (doc : DocNode Label) :
    doc.walk above = (doc.walk []).map fun entry => (above ++ entry.1, entry.2) :=
  match doc with
  | .node name signature docLines children => by
      rw [walk, walk, walkAll_eq_map (above ++ [name]) children,
        walkAll_eq_map ([] ++ [name]) children, List.map_cons, List.map_map]
      simp only [Function.comp_def, List.nil_append, List.append_assoc]

theorem walkAll_eq_map (above : List Label) (docs : List (DocNode Label)) :
    walkAll above docs = (walkAll [] docs).map fun entry => (above ++ entry.1, entry.2) :=
  match docs with
  | [] => rfl
  | doc :: rest => by
      rw [walkAll, walkAll, walk_eq_map above doc, walkAll_eq_map above rest, List.map_append]

end

theorem walk_eq_cons (above : List Label) (doc : DocNode Label) :
    doc.walk above = (above ++ [doc.name], doc) :: walkAll (above ++ [doc.name]) doc.children := by
  obtain ⟨name, signature, docLines, children⟩ := doc
  rw [walk]
  rfl

theorem exists_way_of_mem_walk {above : List Label} {doc : DocNode Label}
    {entry : List Label × DocNode Label} (h : entry ∈ doc.walk above) :
    ∃ below, entry.1 = above ++ doc.name :: below := by
  rw [walk_eq_cons, List.mem_cons] at h
  rcases h with rfl | h
  · exact ⟨[], rfl⟩
  · rw [walkAll_eq_map] at h
    obtain ⟨other, -, rfl⟩ := List.mem_map.mp h
    exact ⟨other.1, List.append_assoc above [doc.name] other.1⟩

/-! ### Addresses -/

/-- The node at an address below a node; the empty address is its own. -/
def at? (doc : DocNode Label) : List Nat → Option (DocNode Label)
  | [] => some doc
  | position :: rest => doc.children[position]?.bind fun child => child.at? rest

/-- The node at an address in a forest, which has no address itself. -/
def atIn? (docs : List (DocNode Label)) : List Nat → Option (DocNode Label)
  | [] => none
  | position :: rest => docs[position]?.bind fun doc => doc.at? rest

/-- The names of the nodes on the way to an address, as far as there are nodes. -/
def namesTo (docs : List (DocNode Label)) : List Nat → List Label
  | [] => []
  | position :: rest =>
      match docs[position]? with
      | none => []
      | some doc => doc.name :: namesTo doc.children rest

def shifted : List Nat → List Nat :=
  List.modifyHead (· + 1)

mutual

def addresses : DocNode Label → List (List Nat)
  | .node _ _ _ children => [] :: addressesIn children

def addressesIn : List (DocNode Label) → List (List Nat)
  | [] => []
  | doc :: rest => doc.addresses.map (0 :: ·) ++ (addressesIn rest).map shifted

end

variable {docs : List (DocNode Label)} {doc : DocNode Label} {address : List Nat}

@[simp]
theorem shifted_cons (position : Nat) (rest : List Nat) :
    shifted (position :: rest) = (position + 1) :: rest := rfl

@[simp]
theorem atIn?_cons_zero (rest : List Nat) : atIn? (doc :: docs) (0 :: rest) = doc.at? rest := rfl

@[simp]
theorem atIn?_cons_shifted (address : List Nat) :
    atIn? (doc :: docs) (shifted address) = atIn? docs address := by
  cases address with
  | nil => rfl
  | cons position rest => rfl

@[simp]
theorem namesTo_cons_shifted (address : List Nat) :
    namesTo (doc :: docs) (shifted address) = namesTo docs address := by
  cases address with
  | nil => rfl
  | cons position rest => rfl

theorem at?_eq_atIn? (hne : address ≠ []) : doc.at? address = atIn? doc.children address := by
  cases address with
  | nil => exact absurd rfl hne
  | cons position rest => rfl

/-! ### The addresses of a forest are those where a node is -/

mutual

theorem mem_addresses_iff (doc : DocNode Label) :
    ∀ address, address ∈ doc.addresses ↔ ∃ found, doc.at? address = some found :=
  match doc with
  | .node name signature docLines children => by
      intro address
      rw [addresses, List.mem_cons, mem_addressesIn_iff children]
      cases address with
      | nil => simp [at?]
      | cons position rest =>
          rw [at?_eq_atIn? (List.cons_ne_nil position rest)]
          simp [DocNode.children]

theorem mem_addressesIn_iff (docs : List (DocNode Label)) :
    ∀ address, address ∈ addressesIn docs ↔ ∃ found, atIn? docs address = some found :=
  match docs with
  | [] => by
      intro address
      cases address with
      | nil => simp [addressesIn, atIn?]
      | cons position rest => simp [addressesIn, atIn?]
  | doc :: rest => by
      intro address
      rw [addressesIn, List.mem_append, List.mem_map, List.mem_map]
      constructor
      · rintro (⟨tail, htail, rfl⟩ | ⟨other, hother, rfl⟩)
        · exact (mem_addresses_iff doc tail).mp htail
        · rw [atIn?_cons_shifted]
          exact (mem_addressesIn_iff rest other).mp hother
      · rintro ⟨found, hfound⟩
        match address with
        | [] => cases hfound
        | 0 :: tail => exact .inl ⟨tail, (mem_addresses_iff doc tail).mpr ⟨found, hfound⟩, rfl⟩
        | (position + 1) :: tail =>
            exact .inr ⟨position :: tail, (mem_addressesIn_iff rest _).mpr ⟨found, hfound⟩, rfl⟩

end

/-! ### The addresses are in preorder -/

theorem shifted_lt_shifted {first second : List Nat} (h : first < second) :
    shifted first < shifted second := by
  cases first with
  | nil =>
      cases second with
      | nil => exact absurd h (List.lt_irrefl [])
      | cons position rest => exact List.nil_lt_cons _ _
  | cons position rest =>
      cases second with
      | nil => exact absurd h (List.not_lt_nil _)
      | cons other more =>
          rw [shifted_cons, shifted_cons, List.cons_lt_cons_iff]
          rcases List.cons_lt_cons_iff.mp h with hless | ⟨heq, hrest⟩
          · exact .inl (Nat.succ_lt_succ hless)
          · exact .inr ⟨congrArg Nat.succ heq, hrest⟩

theorem exists_cons_of_mem_addressesIn (h : address ∈ addressesIn docs) :
    ∃ position rest, address = position :: rest := by
  obtain ⟨found, hfound⟩ := (mem_addressesIn_iff docs address).mp h
  cases address with
  | nil => cases hfound
  | cons position rest => exact ⟨position, rest, rfl⟩

mutual

theorem pairwise_addresses (doc : DocNode Label) : doc.addresses.Pairwise (· < ·) :=
  match doc with
  | .node name signature docLines children => by
      rw [addresses, List.pairwise_cons]
      refine ⟨?_, pairwise_addressesIn children⟩
      intro address haddress
      obtain ⟨position, rest, rfl⟩ := exists_cons_of_mem_addressesIn haddress
      exact List.nil_lt_cons position rest

theorem pairwise_addressesIn (docs : List (DocNode Label)) :
    (addressesIn docs).Pairwise (· < ·) :=
  match docs with
  | [] => List.Pairwise.nil
  | doc :: rest => by
      rw [addressesIn, List.pairwise_append, List.pairwise_map, List.pairwise_map]
      refine ⟨(pairwise_addresses doc).imp fun hless => ?_,
        (pairwise_addressesIn rest).imp shifted_lt_shifted, ?_⟩
      · exact List.cons_lt_cons_iff.mpr (.inr ⟨rfl, hless⟩)
      · intro first hfirst second hsecond
        obtain ⟨tail, _, rfl⟩ := List.mem_map.mp hfirst
        obtain ⟨other, hother, rfl⟩ := List.mem_map.mp hsecond
        obtain ⟨position, more, rfl⟩ := exists_cons_of_mem_addressesIn hother
        exact List.cons_lt_cons_iff.mpr (.inl (Nat.succ_pos position))

end

/-! ### The walk goes from address to address -/

/-- An entry of a walk shows the node at an address and the names on the way to it. -/
def Shows (docs : List (DocNode Label)) (entry : List Label × DocNode Label)
    (address : List Nat) : Prop :=
  atIn? docs address = some entry.2 ∧ entry.1 = namesTo docs address

mutual

theorem walk_shows (doc : DocNode Label) (rest : List (DocNode Label)) :
    List.Forall₂ (Shows (doc :: rest)) (doc.walk []) (doc.addresses.map (0 :: ·)) :=
  match doc with
  | .node name signature docLines children => by
      rw [walk, addresses, List.map_cons, walkAll_eq_map, List.forall₂_cons,
        List.forall₂_map_left_iff, List.forall₂_map_right_iff]
      refine ⟨⟨rfl, rfl⟩, (walkAll_shows children).imp ?_⟩
      rintro ⟨names, node⟩ address ⟨hnode, hnames⟩
      have hne : address ≠ [] := by
        rintro rfl
        cases hnode
      constructor
      · rw [atIn?_cons_zero, at?_eq_atIn? hne]
        exact hnode
      · exact congrArg (name :: ·) hnames

theorem walkAll_shows (docs : List (DocNode Label)) :
    List.Forall₂ (Shows docs) (walkAll [] docs) (addressesIn docs) :=
  match docs with
  | [] => .nil
  | doc :: rest => by
      rw [walkAll, addressesIn]
      refine List.rel_append (walk_shows doc rest) ?_
      rw [List.forall₂_map_right_iff]
      refine (walkAll_shows rest).imp ?_
      rintro ⟨names, node⟩ address ⟨hnode, hnames⟩
      exact ⟨(atIn?_cons_shifted address).trans hnode,
        hnames.trans (namesTo_cons_shifted address).symm⟩

end

/-- The names on the way to a node are those on the way to its parent, and its own. -/
theorem namesTo_concat {position : Nat} (h : atIn? docs (address ++ [position]) = some doc) :
    namesTo docs (address ++ [position]) = namesTo docs address ++ [doc.name] := by
  induction address generalizing docs with
  | nil =>
      obtain ⟨first, hfirst, hdoc⟩ := Option.bind_eq_some_iff.mp h
      cases hdoc
      simp only [List.nil_append, namesTo, hfirst]
  | cons index rest ih =>
      obtain ⟨first, hfirst, hdoc⟩ := Option.bind_eq_some_iff.mp h
      rw [at?_eq_atIn? (by simp)] at hdoc
      simp only [List.cons_append, namesTo, hfirst, ih hdoc]

theorem length_namesTo (h : atIn? docs address = some doc) :
    (namesTo docs address).length = address.length := by
  induction address generalizing docs with
  | nil => rfl
  | cons position rest ih =>
      obtain ⟨first, hfirst, hdoc⟩ := Option.bind_eq_some_iff.mp h
      simp only [namesTo, hfirst, List.length_cons]
      cases rest with
      | nil => rfl
      | cons next more => rw [ih hdoc]

/-! ### Forests that are walked alike -/

/-- What an entry says of its node: the way to it, its signature, its doc lines and how many
children it has. -/
def summary (entry : List Label × DocNode Label) : List Label × Label × List String × Nat :=
  (entry.1, entry.2.signature, entry.2.docLines, entry.2.children.length)

mutual

/-- Walks that say the same, with anything behind them, start with the same tree. -/
theorem eq_of_summary_walk (above : List Label) (doc : DocNode Label) :
    ∀ (other : DocNode Label) (behind others : List (List Label × Label × List String × Nat)),
      (doc.walk above).map summary ++ behind = (other.walk above).map summary ++ others →
        doc = other ∧ behind = others :=
  match doc with
  | .node name signature docLines children => by
      rintro ⟨otherName, otherSignature, otherLines, trees⟩ behind others h
      rw [walk, walk, List.map_cons, List.map_cons, List.cons_append, List.cons_append,
        List.cons.injEq] at h
      obtain ⟨hroot, hbelow⟩ := h
      simp only [summary, Prod.mk.injEq] at hroot
      obtain ⟨hnames, hsignature, hlines, hlength⟩ := hroot
      obtain rfl : name = otherName := by simpa using hnames
      obtain ⟨rfl, hbehind⟩ :=
        eq_of_summary_walkAll (above ++ [name]) children trees behind others hlength hbelow
      refine ⟨?_, hbehind⟩
      rw [show signature = otherSignature from hsignature, show docLines = otherLines from hlines]

theorem eq_of_summary_walkAll (above : List Label) (docs : List (DocNode Label)) :
    ∀ (trees : List (DocNode Label))
      (behind others : List (List Label × Label × List String × Nat)),
      docs.length = trees.length →
      (walkAll above docs).map summary ++ behind = (walkAll above trees).map summary ++ others →
        docs = trees ∧ behind = others :=
  match docs with
  | [] => by
      intro trees behind others hlength h
      obtain rfl := List.eq_nil_of_length_eq_zero hlength.symm
      exact ⟨rfl, h⟩
  | doc :: rest => by
      intro trees behind others hlength h
      obtain ⟨other, more, rfl⟩ := List.exists_cons_of_length_eq_add_one hlength.symm
      rw [walkAll, walkAll, List.map_append, List.map_append, List.append_assoc,
        List.append_assoc] at h
      obtain ⟨rfl, hrest⟩ := eq_of_summary_walk above doc other _ _ h
      obtain ⟨rfl, hbehind⟩ :=
        eq_of_summary_walkAll above rest more behind others (Nat.succ.inj hlength) hrest
      exact ⟨rfl, hbehind⟩

end

/-- The number of trees need not be known: where a tree is left in one forest, there is an entry
left in its walk. -/
theorem summary_walkAll_inj {trees : List (DocNode Label)} :
    (walkAll [] docs).map summary = (walkAll [] trees).map summary ↔ docs = trees := by
  refine ⟨fun h => ?_, fun h => h ▸ rfl⟩
  induction docs generalizing trees with
  | nil =>
      cases trees with
      | nil => rfl
      | cons other more =>
          obtain ⟨name, signature, docLines, children⟩ := other
          cases h
  | cons doc rest ih =>
      cases trees with
      | nil =>
          obtain ⟨name, signature, docLines, children⟩ := doc
          cases h
      | cons other more =>
          rw [walkAll, walkAll, List.map_append, List.map_append] at h
          obtain ⟨rfl, hrest⟩ := eq_of_summary_walk [] doc other _ _ h
          rw [ih hrest]

/-- **Walking is a lossless numbering in preorder.** The walk through a forest comes to every
address of a node exactly once and in lexicographic order, so to a node before everything below it
and to siblings in order. It shows the node with the names on the way, which are those on the way to
its parent and its own, so that there are as many as the node lies deep. What is above a tree is put
in front of every way. Forests are equal if their walks agree in the ways, the signatures, the doc
lines and the numbers of children. -/
theorem walk_numbers_losslessly :
    (∀ docs : List (DocNode Label), ∃ numbers : List (List Nat), numbers.Pairwise (· < ·) ∧
      (∀ address, address ∈ numbers ↔ ∃ found, atIn? docs address = some found) ∧
      List.Forall₂ (fun entry address => atIn? docs address = some entry.2 ∧
          entry.1 = namesTo docs address ∧ entry.1.length = address.length)
        (walkAll [] docs) numbers) ∧
    (∀ (docs : List (DocNode Label)) (address : List Nat) (position : Nat) (doc : DocNode Label),
      atIn? docs (address ++ [position]) = some doc →
        namesTo docs (address ++ [position]) = namesTo docs address ++ [doc.name]) ∧
    (∀ (doc : DocNode Label) (above : List Label),
      doc.walk above = (doc.walk []).map fun entry => (above ++ entry.1, entry.2)) ∧
    ∀ docs trees : List (DocNode Label),
      ((walkAll [] docs).map fun entry =>
          (entry.1, entry.2.signature, entry.2.docLines, entry.2.children.length))
        = ((walkAll [] trees).map fun entry =>
          (entry.1, entry.2.signature, entry.2.docLines, entry.2.children.length))
      ↔ docs = trees := by
  refine ⟨fun docs => ?_, fun docs address position doc => namesTo_concat,
    fun doc above => walk_eq_map above doc, fun docs trees => summary_walkAll_inj⟩
  refine ⟨addressesIn docs, pairwise_addressesIn docs, mem_addressesIn_iff docs, ?_⟩
  refine (walkAll_shows docs).imp ?_
  rintro ⟨names, node⟩ address ⟨hnode, hnames⟩
  exact ⟨hnode, hnames, hnames ▸ length_namesTo hnode⟩

end RecordDocs.DocNode
