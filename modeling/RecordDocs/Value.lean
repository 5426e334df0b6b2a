import RecordDocs.Keyed
import RecordDocs.Number.Shortest
import RecordDocs.Text.Lines
import RecordDocs.Text.Quoted

/-!
# Document values

The values a document is made of once its text has been read: scalars, lists and dictionaries with
ordered members. Requests for documentation, schema documents and settings all arrive as such
values, so what happens when one of the wrong kind is iterated, looked up or used as a key is said
here once.
-/

namespace RecordDocs

open Number Text

/-- A key of a dictionary: a text, or something else of which only the wording is kept. -/
inductive Key where
  | text (name : String)
  | other (label : String)
  deriving DecidableEq, Repr

inductive Value where
  | null
  | bool (flag : Bool)
  | int (number : Int)
  | float (number : Binary64)
  | str (text : String)
  | binary (octets : List UInt8)
  /-- A value of a kind that nobody asks for, such as a point in time or a set. -/
  | other
  | list (items : List Value)
  | dict (members : List (Key × Value))
  deriving Inhabited

namespace Value

def kind : Value → String
  | .null => "NoneType"
  | .bool _ => "bool"
  | .int _ => "int"
  | .float _ => "float"
  | .str _ => "str"
  | .binary _ => "bytes"
  | .other => "object"
  | .list _ => "list"
  | .dict _ => "dict"

def isText (wanted : String) : Value → Bool
  | .str text => text == wanted
  | _ => false

/-- Empty collections, zero, false and null count as nothing. -/
def isVoid : Value → Bool
  | .null => true
  | .bool flag => !flag
  | .int number => number == 0
  | .float number => number.isZero
  | .str text => text.isEmpty
  | .binary octets => octets.isEmpty
  | .other => false
  | .list items => items.isEmpty
  | .dict members => members.isEmpty

/-! ### Equality of values -/

mutual

def decEq : (first second : Value) → Decidable (first = second)
  | .null, second => match second with
    | .null => isTrue rfl
    | .bool _ | .int _ | .float _ | .str _ | .binary _ | .other | .list _ | .dict _ => isFalse nofun
  | .bool first, second => match second with
    | .bool second => decidable_of_iff (first = second) (by simp)
    | .null | .int _ | .float _ | .str _ | .binary _ | .other | .list _ | .dict _ => isFalse nofun
  | .int first, second => match second with
    | .int second => decidable_of_iff (first = second) (by simp)
    | .null | .bool _ | .float _ | .str _ | .binary _ | .other | .list _ | .dict _ => isFalse nofun
  | .float first, second => match second with
    | .float second => decidable_of_iff (first = second) (by simp)
    | .null | .bool _ | .int _ | .str _ | .binary _ | .other | .list _ | .dict _ => isFalse nofun
  | .str first, second => match second with
    | .str second => decidable_of_iff (first = second) (by simp)
    | .null | .bool _ | .int _ | .float _ | .binary _ | .other | .list _ | .dict _ => isFalse nofun
  | .binary first, second => match second with
    | .binary second => decidable_of_iff (first = second) (by simp)
    | .null | .bool _ | .int _ | .float _ | .str _ | .other | .list _ | .dict _ => isFalse nofun
  | .other, second => match second with
    | .other => isTrue rfl
    | .null | .bool _ | .int _ | .float _ | .str _ | .binary _ | .list _ | .dict _ => isFalse nofun
  | .list first, second => match second with
    | .list second =>
        have := decEqItems first second
        decidable_of_iff (first = second) (by simp)
    | .null | .bool _ | .int _ | .float _ | .str _ | .binary _ | .other | .dict _ => isFalse nofun
  | .dict first, second => match second with
    | .dict second =>
        have := decEqMembers first second
        decidable_of_iff (first = second) (by simp)
    | .null | .bool _ | .int _ | .float _ | .str _ | .binary _ | .other | .list _ => isFalse nofun

def decEqItems : (first second : List Value) → Decidable (first = second)
  | [], [] => isTrue rfl
  | [], _ :: _ | _ :: _, [] => isFalse nofun
  | first :: rest, second :: others =>
      have := decEq first second
      have := decEqItems rest others
      decidable_of_iff (first = second ∧ rest = others) (by simp)

def decEqMembers : (first second : List (Key × Value)) → Decidable (first = second)
  | [], [] => isTrue rfl
  | [], _ :: _ | _ :: _, [] => isFalse nofun
  | (key, first) :: rest, (name, second) :: others =>
      have := decEq first second
      have := decEqMembers rest others
      decidable_of_iff ((key = name ∧ first = second) ∧ rest = others) (by simp)

end

instance : DecidableEq Value := decEq

end Value

def lookup? (name : String) : List (Key × Value) → Option Value
  | [] => none
  | (key, value) :: rest => if key = .text name then some value else lookup? name rest

theorem sizeOf_lookup?_lt {name : String} {members : List (Key × Value)} {value : Value}
    (h : lookup? name members = some value) : sizeOf value < sizeOf members := by
  induction members with
  | nil => simp [lookup?] at h
  | cons member rest ih =>
    obtain ⟨key, first⟩ := member
    simp only [lookup?] at h
    simp only [List.cons.sizeOf_spec, Prod.mk.sizeOf_spec]
    split at h
    · cases h
      omega
    · have := ih h
      omega

theorem mem_of_lookup? {name : String} {members : List (Key × Value)} {value : Value}
    (h : lookup? name members = some value) : (Key.text name, value) ∈ members := by
  induction members with
  | nil => cases h
  | cons member rest ih =>
    obtain ⟨key, first⟩ := member
    rw [lookup?] at h
    split at h
    · rename_i heq
      cases h
      exact heq ▸ List.mem_cons_self
    · exact List.mem_cons_of_mem _ (ih h)

theorem lookup?_of_mem {name : String} {members : List (Key × Value)} {value : Value}
    (hnodup : (members.map Prod.fst).Nodup) (h : (Key.text name, value) ∈ members) :
    lookup? name members = some value := by
  induction members with
  | nil => cases h
  | cons member rest ih =>
    obtain ⟨key, first⟩ := member
    simp only [List.map_cons, List.nodup_cons] at hnodup
    rw [List.mem_cons, Prod.mk.injEq] at h
    rcases h with ⟨rfl, rfl⟩ | h
    · rw [lookup?, if_pos rfl]
    · have hne : key ≠ .text name := fun heq => hnodup.1 (heq ▸ List.mem_map_of_mem h)
      rw [lookup?, if_neg hne, ih hnodup.2 h]

/-! ### The wording of values -/

def Key.wording : Key → String
  | .text name => quoted name
  | .other label => label

namespace Value

mutual

def wording : Value → String
  | .null => "None"
  | .bool flag => if flag then "True" else "False"
  | .int number => toString number
  | .float number => number.text
  | .str text => quoted text
  | .binary octets => quotedOctets octets
  | .other => "<object>"
  | .list items => "[" ++ ", ".intercalate (itemWordings items) ++ "]"
  | .dict members => "\x7b" ++ ", ".intercalate (memberWordings members) ++ "\x7d"

def itemWordings : List Value → List String
  | [] => []
  | item :: rest => item.wording :: itemWordings rest

def memberWordings : List (Key × Value) → List String
  | [] => []
  | (key, value) :: rest => (key.wording ++ ": " ++ value.wording) :: memberWordings rest

end

/-- A value as a text of its own: a text stands for itself, anything else is worded. -/
def asText : Value → String
  | .str text => text
  | value => value.wording

end Value

def Key.asText : Key → String
  | .text name => name
  | .other label => label

/-! ### Values of the wrong kind -/

inductive Misuse where
  | notIterable (kind : String)
  | unhashable (kind : String)
  | notSubscriptable (kind : String)
  | textIndex
  | listIndex
  | missingMember (name : String)
  deriving DecidableEq, Repr

def Misuse.message : Misuse → String
  | .notIterable kind => "'" ++ kind ++ "' object is not iterable"
  | .unhashable kind => "unhashable type: '" ++ kind ++ "'"
  | .notSubscriptable kind => "'" ++ kind ++ "' object is not subscriptable"
  | .textIndex => "string indices must be integers, not 'str'"
  | .listIndex => "list indices must be integers or slices, not str"
  | .missingMember name => quoted name

namespace Value

/-- The texts of what a value yields one by one: the characters of a text, the items of a list, the
keys of a dictionary. -/
def elementTexts : Value → Except Misuse (List String)
  | .str text => .ok (characters text)
  | .list items => .ok (items.map asText)
  | .dict members => .ok (members.map fun member => member.1.asText)
  | .binary octets => .ok (octets.map fun octet => toString octet.toNat)
  | value => .error (.notIterable value.kind)

/-- Doc lines given as a value: a text is cut into its lines, anything else is iterated. -/
def docLines : Value → Except Misuse (List String)
  | .str text => .ok (lines text)
  | value => value.elementTexts

/-- Values that can be keys: everything but lists and dictionaries. -/
def checkHashable : Value → Except Misuse Unit
  | .list _ => .error (.unhashable "list")
  | .dict _ => .error (.unhashable "dict")
  | _ => .ok ()

def subscriptMisuse : Value → Misuse
  | .str _ => .textIndex
  | .list _ => .listIndex
  | value => .notSubscriptable value.kind

end Value

end RecordDocs
