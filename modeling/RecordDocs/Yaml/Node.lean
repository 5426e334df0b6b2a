import RecordDocs.Yaml.Event

/-!
# The nodes of a document

The events of a document make up a graph of scalars, sequences and mappings. A node is known by its
number, so that an alias can stand for the node with its anchor also before that node is complete. A
text holds one document at most.
-/

namespace RecordDocs.Yaml

/-- What a node is made of; the parts are nodes, given by their numbers. -/
inductive Content where
  | scalar (text : String)
  | sequence (items : List Nat)
  | mapping (entries : List (Nat × Nat))
  deriving DecidableEq, Repr

structure Node where
  tag : Tag
  content : Content
  deriving DecidableEq, Repr

def Node.isMapping (node : Node) : Bool :=
  match node.content with
  | .mapping _ => true
  | _ => false

abbrev Graph := Array Node

/-- The tag of a scalar. One without a tag is judged by its text if it is plain and is a string
otherwise; a lone exclamation mark makes any scalar count as plain. -/
def scalarTag (tag : Option String) (text : String) (plain : Bool) : Tag :=
  match tag with
  | none => if plain then Tag.ofPlain text else .str
  | some "!" => Tag.ofPlain text
  | some tag => Tag.ofText tag

def collectionTag (tag : Option String) (usual : Tag) : Tag :=
  match tag with
  | none => usual
  | some "!" => usual
  | some tag => Tag.ofText tag

/-- A collection that is not complete yet: its number and the parts so far, the latest first. -/
inductive Frame where
  | sequence (number : Nat) (items : List Nat)
  | mapping (number : Nat) (entries : List (Nat × Nat)) (key : Option Nat)

def Frame.number : Frame → Nat
  | .sequence number _ => number
  | .mapping number _ _ => number

structure Composition where
  nodes : Graph
  anchors : List (String × Nat)
  /-- The collections around the place, innermost first. -/
  frames : List Frame
  /-- The collections that are complete, the latest first. -/
  completed : List Nat
  /-- Whether an alias inside its own node has been met. -/
  looped : Bool
  root : Option Nat

namespace Composition

def start : Composition := ⟨#[], [], [], [], false, none⟩

/-- Puts a node into the collection around it; outside all it is the root. -/
def attach (composition : Composition) (number : Nat) : Composition :=
  match composition.frames with
  | [] => { composition with root := some number }
  | .sequence owner items :: rest =>
      { composition with frames := .sequence owner (number :: items) :: rest }
  | .mapping owner entries none :: rest =>
      { composition with frames := .mapping owner entries (some number) :: rest }
  | .mapping owner entries (some key) :: rest =>
      { composition with frames := .mapping owner ((key, number) :: entries) none :: rest }

def add (composition : Composition) (properties : Properties) (node : Node) :
    Except Fault Composition :=
  let number := composition.nodes.size
  let nodes := composition.nodes.push node
  match properties.anchor with
  | none => .ok ({ composition with nodes }.attach number)
  | some name =>
      if (composition.anchors.lookup name).isSome then .error .malformed
      else .ok ({ composition with
        nodes, anchors := (name, number) :: composition.anchors }.attach number)

def openFrame (composition : Composition) (frame : Frame) : Composition :=
  { composition with frames := frame :: composition.frames }

def complete (composition : Composition) (number : Nat) (content : Content) : Composition :=
  { composition with
    nodes := composition.nodes.modify number fun node => { node with content }
    completed := number :: composition.completed }

def closeFrame (composition : Composition) : Composition :=
  match composition.frames with
  | [] => composition
  | .sequence number items :: rest =>
      { composition with frames := rest }.complete number (.sequence items.reverse)
  | .mapping number entries _ :: rest =>
      { composition with frames := rest }.complete number (.mapping entries.reverse)

def tell (composition : Composition) : Event → Except Fault Composition
  | .alias name =>
      match composition.anchors.lookup name with
      | none => .error .malformed
      | some number =>
          let looped := composition.looped || composition.frames.any (·.number = number)
          .ok ({ composition with looped }.attach number)
  | .scalar properties text plain =>
      composition.add properties ⟨scalarTag properties.tag text plain, .scalar text⟩
  | .sequenceStart properties =>
      (composition.add properties ⟨collectionTag properties.tag .seq, .sequence []⟩).map
        (·.openFrame (.sequence composition.nodes.size []))
  | .mappingStart properties =>
      (composition.add properties ⟨collectionTag properties.tag .map, .mapping []⟩).map
        (·.openFrame (.mapping composition.nodes.size [] none))
  | .sequenceEnd => .ok composition.closeFrame
  | .mappingEnd => .ok composition.closeFrame
  | .broken fault => .error fault
  | .documentStart => if composition.root.isSome then .error .malformed else .ok composition
  | .documentEnd => .ok composition
  | .streamEnd => .ok composition

end Composition

def compose (events : List Event) : Except Fault Composition :=
  events.foldlM Composition.tell .start

end RecordDocs.Yaml
