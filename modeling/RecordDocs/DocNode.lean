import RecordDocs.Value

/-!
# Documentation trees

A node documents one field: its name, its signature, its doc lines, and below it the docs of the
records that the signature refers to. Names and signatures are labels of any type; built trees have
texts. A tree can be walked in preorder, written as a document value and read back from one.
-/

namespace RecordDocs

inductive DocNode (Label : Type) where
  | node (name signature : Label) (docLines : List String) (children : List (DocNode Label))
  deriving Inhabited

namespace DocNode

variable {Label Other : Type}

def name : DocNode Label → Label
  | .node name _ _ _ => name

def signature : DocNode Label → Label
  | .node _ signature _ _ => signature

def docLines : DocNode Label → List String
  | .node _ _ docLines _ => docLines

def children : DocNode Label → List (DocNode Label)
  | .node _ _ _ children => children

def make (name signature : Label) (docLines : Option Value) (children : List (DocNode Label)) :
    Except Misuse (DocNode Label) :=
  match docLines with
  | none => .ok (.node name signature [] children)
  | some value => value.docLines.map fun lines => .node name signature lines children

mutual

/-- Every node with the names on the way to it, in preorder; `above` is the way to the root. -/
def walk (above : List Label) : DocNode Label → List (List Label × DocNode Label)
  | .node name signature docLines children =>
      (above ++ [name], .node name signature docLines children)
        :: walkAll (above ++ [name]) children

def walkAll (above : List Label) : List (DocNode Label) → List (List Label × DocNode Label)
  | [] => []
  | doc :: rest => doc.walk above ++ walkAll above rest

end

theorem walkAll_eq_flatMap (above : List Label) (docs : List (DocNode Label)) :
    walkAll above docs = docs.flatMap (walk above) := by
  induction docs with
  | nil => rfl
  | cons doc rest ih => rw [walkAll, ih, List.flatMap_cons]

theorem walkAll_flatMap {Part : Type} (above : List Label) (docs : Part → List (DocNode Label))
    (parts : List Part) :
    walkAll above (parts.flatMap docs) = parts.flatMap fun part => walkAll above (docs part) := by
  simp only [walkAll_eq_flatMap, List.flatMap_assoc]

mutual

def toValue (label : Label → Value) : DocNode Label → Value
  | .node name signature docLines children =>
      .dict
        [(.text "name", label name),
          (.text "type_signature", label signature),
          (.text "doc_lines", .list (docLines.map .str)),
          (.text "children", .list (toValues label children))]

def toValues (label : Label → Value) : List (DocNode Label) → List Value
  | [] => []
  | doc :: rest => doc.toValue label :: toValues label rest

end

/-- The doc lines of a written node: nothing if void, else the texts of the elements, so that a
text yields one line for each of its characters. -/
def readLines (members : List (Key × Value)) : Except Misuse (List String) :=
  match lookup? "doc_lines" members with
  | none => .ok []
  | some value => if value.isVoid then .ok [] else value.elementTexts

mutual

/-- Reads a tree from a document value; labels of any kind become their texts. -/
def ofValue : Value → Except Misuse (DocNode String)
  | .dict members =>
      match lookup? "name" members with
      | none => .error (.missingMember "name")
      | some name =>
          let signature := (lookup? "type_signature" members).getD (.str "")
          match readLines members with
          | .error cause => .error cause
          | .ok docLines =>
              match _h : lookup? "children" members with
              | none => .ok (.node name.asText signature.asText docLines [])
              | some value =>
                  (ofChildren value).map (.node name.asText signature.asText docLines)
  | value => .error value.subscriptMisuse
termination_by value => (sizeOf value, 0)
decreasing_by
  have := sizeOf_lookup?_lt _h
  simp only [Value.dict.sizeOf_spec]
  exact Prod.Lex.left _ _ (by omega)

/-- Reads the children of a written node. What is neither void nor a list has an element that is
no dictionary, or cannot be iterated. -/
def ofChildren (value : Value) : Except Misuse (List (DocNode String)) :=
  match value with
  | .list items => ofValues items
  | .str text => if text.isEmpty then .ok [] else .error .textIndex
  | .dict members => if members.isEmpty then .ok [] else .error .textIndex
  | .binary octets => if octets.isEmpty then .ok [] else .error (.notSubscriptable "int")
  | value => if value.isVoid then .ok [] else .error (.notIterable value.kind)
termination_by (sizeOf value, 1)
decreasing_by
  simp only [Value.list.sizeOf_spec]
  exact Prod.Lex.left _ _ (by omega)

def ofValues : List Value → Except Misuse (List (DocNode String))
  | [] => .ok []
  | value :: rest =>
      match ofValue value with
      | .error cause => .error cause
      | .ok doc => (ofValues rest).map (doc :: ·)
termination_by values => (sizeOf values, 2)
decreasing_by
  · simp only [List.cons.sizeOf_spec]
    exact Prod.Lex.left _ _ (by omega)
  · simp only [List.cons.sizeOf_spec]
    exact Prod.Lex.left _ _ (by omega)

end

mutual

def map (f : Label → Other) : DocNode Label → DocNode Other
  | .node name signature docLines children =>
      .node (f name) (f signature) docLines (mapAll f children)

def mapAll (f : Label → Other) : List (DocNode Label) → List (DocNode Other)
  | [] => []
  | doc :: rest => doc.map f :: mapAll f rest

end

mutual

/-- Whether a tree labelled by values says the same as one labelled by texts; a value that is no
text is no label of the other. -/
def agrees : DocNode Value → DocNode String → Bool
  | .node name signature docLines children, .node otherName otherSignature otherLines others =>
      Value.isText otherName name && Value.isText otherSignature signature
        && docLines == otherLines && agreesAll children others

def agreesAll : List (DocNode Value) → List (DocNode String) → Bool
  | [], [] => true
  | doc :: rest, other :: others => doc.agrees other && agreesAll rest others
  | _, _ => false

end

end DocNode

end RecordDocs
