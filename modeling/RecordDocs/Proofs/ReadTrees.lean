import RecordDocs.Proofs.TreeWalks

/-!
# Trees and the values they are read from

A node is read from a dictionary and its children, one by one, from the items of a list in it. So
every node of a tree is itself what the value at the same address in the payload is read as, and
what holds of a node that is read holds of all nodes of the tree.
-/

namespace RecordDocs.DocNode

variable {members : List (Key × Value)} {payload value name : Value} {items : List Value}
  {docLines : List String} {doc tree : DocNode String} {docs : List (DocNode String)}
  {cause : Misuse}

/-! ### The parts of a node in the order in which they are read -/

def readChildren : Option Value → Except Misuse (List (DocNode String))
  | none => .ok []
  | some value => ofChildren value

theorem ofValue_of_nameless (h : lookup? "name" members = none) :
    ofValue (.dict members) = .error (.missingMember "name") := by
  rw [ofValue, h]

theorem ofValue_of_readLines_error (hname : lookup? "name" members = some name)
    (hlines : readLines members = .error cause) : ofValue (.dict members) = .error cause := by
  rw [ofValue, hname]
  simp only [hlines]

theorem ofValue_of_readLines_ok (hname : lookup? "name" members = some name)
    (hlines : readLines members = .ok docLines) :
    ofValue (.dict members) = (readChildren (lookup? "children" members)).map
      (.node name.asText ((lookup? "type_signature" members).getD (.str "")).asText docLines) := by
  rw [ofValue, hname]
  simp only [hlines]
  split
  · rename_i hnone
    rw [hnone]
    rfl
  · rename_i hsome
    rw [hsome]
    rfl

theorem exists_members_of_ofValue (h : ofValue payload = .ok doc) :
    ∃ members, payload = .dict members ∧ readLines members = .ok doc.docLines ∧
      readChildren (lookup? "children" members) = .ok doc.children := by
  cases payload with
  | dict members =>
      refine ⟨members, rfl, ?_⟩
      cases hname : lookup? "name" members with
      | none =>
          rw [ofValue_of_nameless hname] at h
          cases h
      | some name =>
          cases hlines : readLines members with
          | error cause =>
              rw [ofValue_of_readLines_error hname hlines] at h
              cases h
          | ok docLines =>
              rw [ofValue_of_readLines_ok hname hlines] at h
              generalize readChildren (lookup? "children" members) = outcome at h ⊢
              cases outcome with
              | error cause => cases h
              | ok docs =>
                  cases h
                  exact ⟨rfl, rfl⟩
  | _ => simp [ofValue] at h

/-! ### Children and the items they are read from -/

def ReadFrom (items : List Value) (docs : List (DocNode String)) : Prop :=
  List.Forall₂ (fun item doc => ofValue item = .ok doc) items docs

def childItems : Option Value → List Value
  | some (.list items) => items
  | _ => []

def childValues : Value → List Value
  | .dict members => childItems (lookup? "children" members)
  | _ => []

theorem readFrom_of_ofValues (h : ofValues items = .ok docs) : ReadFrom items docs := by
  induction items generalizing docs with
  | nil =>
      rw [ofValues] at h
      cases h
      exact .nil
  | cons item rest ih =>
      rw [ofValues] at h
      cases hitem : ofValue item with
      | error cause =>
          rw [hitem] at h
          cases h
      | ok doc =>
          rw [hitem] at h
          cases hrest : ofValues rest with
          | error cause =>
              rw [hrest] at h
              cases h
          | ok trees =>
              rw [hrest] at h
              cases h
              exact .cons hitem (ih hrest)

theorem readFrom_of_readChildren {found : Option Value} (h : readChildren found = .ok docs) :
    ReadFrom (childItems found) docs := by
  have hnone : ∀ {void : Bool} {cause : Misuse},
      (if void then .ok [] else .error cause) = (.ok docs : Except Misuse _) →
        ReadFrom [] docs := by
    intro void cause heq
    cases void with
    | false => cases heq
    | true =>
        cases heq
        exact .nil
  cases found with
  | none =>
      cases h
      exact .nil
  | some value =>
      rw [readChildren] at h
      cases value with
      | list items =>
          rw [ofChildren] at h
          exact readFrom_of_ofValues h
      | _ =>
          simp only [ofChildren] at h
          exact hnone h

theorem readFrom_childValues (h : ofValue payload = .ok doc) :
    ReadFrom (childValues payload) doc.children := by
  obtain ⟨members, rfl, -, hchildren⟩ := exists_members_of_ofValue h
  exact readFrom_of_readChildren hchildren

/-! ### Parts of a payload and nodes of a tree -/

/-- The value at an address in a payload; the empty address is that of the payload itself. -/
def partAt? (payload : Value) : List Nat → Option Value
  | [] => some payload
  | position :: rest => (childValues payload)[position]?.bind fun item => partAt? item rest

/-- At every address at which there is a value there is the node it is read as, and a node nowhere
else. -/
theorem ofValue_partAt? (h : ofValue payload = .ok tree) (address : List Nat) :
    (partAt? payload address).map ofValue = (tree.at? address).map .ok := by
  induction address generalizing payload tree with
  | nil => exact congrArg some h
  | cons position rest ih =>
      have hread := readFrom_childValues h
      have hlength := hread.length_eq
      rw [partAt?, at?]
      by_cases hposition : position < (childValues payload).length
      · rw [List.getElem?_eq_getElem hposition,
          List.getElem?_eq_getElem (hlength ▸ hposition)]
        exact ih (hread.get hposition (hlength ▸ hposition))
      · rw [List.getElem?_eq_none (Nat.le_of_not_lt hposition),
          List.getElem?_eq_none (hlength ▸ Nat.le_of_not_lt hposition)]
        rfl

end RecordDocs.DocNode
