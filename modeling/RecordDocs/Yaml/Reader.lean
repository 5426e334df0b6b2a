import RecordDocs.Number.FloatLiteral
import RecordDocs.Text.Lowercase
import RecordDocs.Value
import RecordDocs.Yaml.Node
import RecordDocs.Yaml.TokenList

/-!
# Reading documents of the markup language

The nodes of a document become document values. Scalars are read according to their tags, and
collections are filled level by level from the root, so the fault that is met first on that way is
the one reported. A mapping is flattened before it is filled: the mappings under its merge keys come
in front of its own entries, so that these win.

A node inside which an alias refers to it would be an endless value. Such an alias reads as a
finite part of that value, which goes on for more levels than anybody descends into a document.
-/

namespace RecordDocs.Yaml

open Number

/-! ### Scalars -/

def dropUnderscores (text : String) : List Char :=
  text.toList.filter (· != '_')

def integer (base : Nat) (chars : List Char) : Except Fault Int :=
  (readInteger base (String.ofList chars)).mapError .integer

def splitColons (chars : List Char) : List (List Char) :=
  match chars with
  | [] => [[]]
  | char :: rest =>
      if char == ':' then [] :: splitColons rest
      else match splitColons rest with
        | [] => [[char]]
        | part :: parts => (char :: part) :: parts

def unsignedInt (chars : List Char) : Except Fault Int :=
  match chars with
  | [] => .error .emptyNumber
  | ['0'] => .ok 0
  | '0' :: 'b' :: digits => integer 2 digits
  | '0' :: 'x' :: digits => integer 16 digits
  | '0' :: _ => integer 8 chars
  | _ =>
      if chars.contains ':' then do
        let parts ← (splitColons chars).mapM (integer 10)
        return parts.foldl (fun value part => value * 60 + part) 0
      else integer 10 chars

def readInt (text : String) : Except Fault Int :=
  match dropUnderscores text with
  | [] => .error .emptyNumber
  | '-' :: rest => (unsignedInt rest).map (- ·)
  | '+' :: rest => unsignedInt rest
  | chars => unsignedInt chars

def floatPart (chars : List Char) : Except Fault Binary64 :=
  match readFloat (String.ofList chars) with
  | some number => .ok number
  | none => .error (.notFloat (String.ofList chars))

/-- The sum of the parts, each worth sixty times the one behind it. A weight that is beyond the
numbers is a fault even where nothing is weighed. -/
def sexagesimalFloat (parts : List Binary64) : Except Fault Binary64 := do
  let step (state : Float × Nat) (part : Binary64) : Except Fault (Float × Nat) :=
    let weight := Binary64.ofRatio state.2 1
    if weight.isInfinite then .error .oversizedWeight
    else .ok (state.1 + Float.ofBits part.bits * Float.ofBits weight.bits, state.2 * 60)
  let (sum, _) ← parts.reverse.foldlM step (0, 1)
  return ⟨sum.toBits⟩

def unsignedFloat (chars : List Char) : Except Fault Binary64 :=
  match String.ofList chars with
  | ".inf" => .ok Binary64.infinity
  | ".nan" => .ok Binary64.nan
  | _ =>
      if chars.contains ':' then do
        let parts ← (splitColons chars).mapM floatPart
        sexagesimalFloat parts
      else floatPart chars

def readFloatScalar (text : String) : Except Fault Binary64 :=
  match (Text.lowercase (String.ofList (dropUnderscores text))).toList with
  | [] => .error .emptyNumber
  | '-' :: rest => (unsignedFloat rest).map fun number =>
      if number.isNaN then number else number.neg
  | '+' :: rest => unsignedFloat rest
  | chars => unsignedFloat chars

/-- Digits of base 64 as octets. Other characters are skipped; the digits have to come in fours,
with equality signs to fill up the last. -/
def base64Value? (char : Char) : Option Nat :=
  let code := char.toNat
  if 'A' ≤ char && char ≤ 'Z' then some (code - 65)
  else if 'a' ≤ char && char ≤ 'z' then some (code - 71)
  else if '0' ≤ char && char ≤ '9' then some (code + 4)
  else if char == '+' then some 62
  else if char == '/' then some 63
  else none

/-- Reads on with `count` digits of the present four read, `held` being what they leave over. -/
def base64Octets (count held fills : Nat) : List Char → Option (List UInt8)
  | [] => if count == 0 then some [] else none
  | char :: rest =>
      if char == '=' then
        if count ≥ 2 && count + fills + 1 ≥ 4 then some []
        else base64Octets count held (if count ≥ 2 then fills + 1 else fills) rest
      else match base64Value? char with
        | none => base64Octets count held fills rest
        | some digit =>
            if count == 0 then base64Octets 1 digit 0 rest
            else
              let bits := held * 64 + digit
              let octet := match count with
                | 1 => bits / 16
                | 2 => bits / 4
                | _ => bits
              let left := match count with
                | 1 => bits % 16
                | 2 => bits % 4
                | _ => 0
              (base64Octets ((count + 1) % 4) left 0 rest).map (UInt8.ofNat octet :: ·)

def readScalar (tag : Tag) (text : String) : Except Fault Value :=
  match tag with
  | .null => .ok .null
  | .bool =>
      let word := Text.lowercase text
      match Tag.truthWords.lookup word with
      | some flag => .ok (.bool flag)
      | none => .error (.notTruthWord word)
  | .int => (readInt text).map .int
  | .float => (readFloatScalar text).map .float
  | .str => .ok (.str text)
  | .timestamp =>
      match Timestamp.parse? (Tag.withoutFinalBreak text.toList) with
      | none => .error .notTimestamp
      | some stamp => stamp.check.map fun _ => .other
  | .binary =>
      if text.toList.any fun char => char.toNat ≥ 128 then .error .malformed
      else match base64Octets 0 0 0 text.toList with
        | none => .error .malformed
        | some octets => .ok (.binary octets)
  | _ => .error .malformed

/-! ### Flattening -/

namespace Graph

def entriesOf (graph : Graph) (number : Nat) : List (Nat × Nat) :=
  match graph[number]?.map Node.content with
  | some (.mapping entries) => entries
  | _ => []

def setEntries (graph : Graph) (number : Nat) (entries : List (Nat × Nat)) : Graph :=
  graph.modify number fun node => { node with content := .mapping entries }

def hasTag (graph : Graph) (tag : Tag) (number : Nat) : Bool :=
  graph[number]?.any fun node => node.tag = tag

/-- A default key among a mapping's entries is an ordinary text from then on. -/
def settleDefaults (graph : Graph) (entries : List (Nat × Nat)) : Graph :=
  entries.foldl (fun graph (key, _) =>
    if graph.hasTag .default key then graph.modify key fun node => { node with tag := .str }
    else graph) graph

/-- How many entries there are; of these only so many can be merges. -/
def entryCount (graph : Graph) : Nat :=
  graph.foldl (fun count node =>
    match node.content with
    | .mapping entries => count + entries.length
    | _ => count) 0

/-- Takes the merge keys out of a mapping from an index on and puts what they bring in front of the
mapping's entries: the entries of a mapping, or those of the mappings in a sequence, the last
mapping's first. What is brought is flattened before. Each merge key is taken out once, so there are
at most `fuel` of them. -/
def flattenFrom : Nat → Nat → Nat → List (Nat × Nat) → Graph → Except Fault Graph
  | 0, _, _, _, graph => .ok graph
  | fuel + 1, number, index, merged, graph =>
      let entries := graph.entriesOf number
      let (passed, rest) := (entries.drop index).span fun (key, _) => !graph.hasTag .merge key
      let index := index + passed.length
      match rest with
      | [] => .ok ((graph.settleDefaults passed).setEntries number (merged ++ entries))
      | (_, value) :: _ =>
          let graph := (graph.settleDefaults passed).setEntries number (entries.eraseIdx index)
          match graph[value]?.map Node.content with
          | some (.mapping _) => do
              let graph ← flattenFrom fuel value 0 [] graph
              flattenFrom fuel number index (merged ++ graph.entriesOf value) graph
          | some (.sequence items) => do
              let bring (state : List (Nat × Nat) × Graph) (item : Nat) :
                  Except Fault (List (Nat × Nat) × Graph) :=
                if state.2[item]?.any Node.isMapping then do
                  let graph ← flattenFrom fuel item 0 [] state.2
                  return (graph.entriesOf item ++ state.1, graph)
                else .error .malformed
              let (brought, graph) ← items.foldlM bring ([], graph)
              flattenFrom fuel number index (merged ++ brought) graph
          | _ => .error .malformed

def flatten (graph : Graph) (number : Nat) : Except Fault Graph :=
  flattenFrom (graph.entryCount + 1) number 0 [] graph

/-- The text of a node that has to be a scalar; a mapping with a default key stands for the scalar
under it. -/
def scalarText (graph : Graph) : Nat → Nat → Except Fault String
  | 0, _ => .error .malformed
  | fuel + 1, number =>
      match graph[number]?.map Node.content with
      | some (.scalar text) => .ok text
      | some (.mapping entries) =>
          match entries.find? fun (key, _) => graph.hasTag .default key with
          | some (_, value) => graph.scalarText fuel value
          | none => .error .malformed
      | _ => .error .malformed

end Graph

/-! ### Filling -/

/-- What a node reads as: a value, or a collection that is known by its number. -/
inductive Part where
  | plain (value : Value)
  | collection (number : Nat)

inductive Filling where
  | items (parts : List Part)
  | members (parts : List (Key × Part))
  /-- So many pairs, which nobody looks into. -/
  | pairs (count : Nat)
  | set

structure Reading where
  graph : Graph
  /-- The collections that have been met. -/
  met : Array Bool
  /-- Those that are to be filled on the next level, the latest first. -/
  next : List Nat
  fillings : Array Filling

namespace Reading

def start (graph : Graph) : Reading :=
  ⟨graph, Array.replicate graph.size false, [], Array.replicate graph.size .set⟩

/-- Meets a collection, which is filled later if it has not been met before. -/
def meet (reading : Reading) (number : Nat) : Part × Reading :=
  (.collection number,
    if reading.met.getD number true then reading
    else { reading with met := reading.met.set! number true, next := number :: reading.next })

def part (reading : Reading) (number : Nat) : Except Fault (Part × Reading) :=
  match reading.graph[number]?.map Node.tag with
  | none => .error .malformed
  | some tag =>
      if tag.isCollection then .ok (reading.meet number)
      else if !tag.isScalar then .error .malformed
      else do
        let text ← reading.graph.scalarText (reading.graph.size + 1) number
        if tag = .timestamp && reading.graph[number]?.any Node.isMapping then throw .notText
        return (.plain (← readScalar tag text), reading)

def parts (reading : Reading) : List Nat → Except Fault (List Part × Reading)
  | [] => .ok ([], reading)
  | number :: rest => do
      let (first, reading) ← reading.part number
      let (others, reading) ← reading.parts rest
      return (first :: others, reading)

def key (reading : Reading) (number : Nat) : Except Fault (Key × Reading) := do
  match ← reading.part number with
  | (.plain (.str text), reading) => return (.text text, reading)
  | (.plain value, reading) => return (.other value.wording, reading)
  | (.collection _, _) => throw .malformed

def members (reading : Reading) (before : List (Key × Part)) :
    List (Nat × Nat) → Except Fault (List (Key × Part) × Reading)
  | [] => .ok (before, reading)
  | (key, value) :: rest => do
      let (key, reading) ← reading.key key
      let (value, reading) ← reading.part value
      reading.members (put key value before) rest

def mapping (reading : Reading) (number : Nat) : Except Fault (List (Key × Part) × Reading) := do
  if !(reading.graph[number]?.any Node.isMapping) then throw .malformed
  let graph ← reading.graph.flatten number
  { reading with graph }.members [] (graph.entriesOf number)

def items (reading : Reading) (number : Nat) : Except Fault (List Nat) :=
  match reading.graph[number]?.map Node.content with
  | some (.sequence items) => .ok items
  | _ => .error .malformed

def pairs (reading : Reading) : List Nat → Except Fault Reading
  | [] => .ok reading
  | number :: rest =>
      match reading.graph[number]?.map Node.content with
      | some (.mapping [(key, value)]) => do
          let (_, reading) ← reading.part key
          let (_, reading) ← reading.part value
          reading.pairs rest
      | _ => .error .malformed

def setFilling (reading : Reading) (number : Nat) (filling : Filling) : Reading :=
  { reading with fillings := reading.fillings.set! number filling }

def fill (reading : Reading) (number : Nat) : Except Fault Reading := do
  match reading.graph[number]?.map Node.tag with
  | some .seq =>
      let (parts, reading) ← reading.parts (← reading.items number)
      return reading.setFilling number (.items parts)
  | some .map =>
      let (members, reading) ← reading.mapping number
      return reading.setFilling number (.members members)
  | some .set =>
      let (_, reading) ← reading.mapping number
      return reading
  | _ =>
      let items ← reading.items number
      return (← reading.pairs items).setFilling number (.pairs items.length)

/-- Fills level after level. No collection is filled twice, so there are at most as many levels as
nodes. -/
def fillLevels : Nat → Reading → Except Fault Reading
  | 0, reading => .ok reading
  | fuel + 1, reading => do
      if reading.next.isEmpty then return reading
      let level := reading.next.reverse
      fillLevels fuel (← level.foldlM fill { reading with next := [] })

end Reading

/-! ### Values -/

def Part.value (values : Array Value) : Part → Value
  | .plain value => value
  | .collection number => values.getD number .null

def Filling.value (values : Array Value) : Filling → Value
  | .items parts => .list (parts.map (Part.value values))
  | .members parts => .dict (parts.map fun (key, part) => (key, part.value values))
  | .pairs count => .list (List.replicate count .other)
  | .set => .other

/-- The values of the collections, each built from those that come before it; one that comes later
is taken from the turn before. -/
def turn (fillings : Array Filling) (order : List Nat) (values : Array Value) : Array Value :=
  order.foldl (fun values number =>
    values.set! number ((fillings.getD number .set).value values)) values

/-- How often an endless value is gone around: once for every level that is looked at in a
document, and some more. -/
def turns : Nat := 12

def Composition.value (composition : Composition) : Except Fault Value :=
  match composition.root with
  | none => .ok .null
  | some root => do
      let (part, reading) ← (Reading.start composition.nodes).part root
      let reading ← reading.fillLevels (composition.nodes.size + 1)
      let start := Array.replicate composition.nodes.size Value.null
      let order := composition.completed.reverse
      let count := if composition.looped then turns else 1
      let values := (List.range count).foldl (fun values _ =>
        turn reading.fillings order values) start
      return part.value values

/-- Reads a text that holds one document, or none, which is null. -/
def read (text : List Char) : Except Fault Value := do
  (← compose (events (tokens text))).value

end RecordDocs.Yaml
