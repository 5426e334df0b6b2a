import RecordDocs.Value

/-!
# Writing JSON

A value is written on one line, or with every item and member on a line of its own, indented by a
multiple of a given number of blanks. Characters beyond ASCII are written as they are; quotation
mark, backslash and control characters are escaped.
-/

namespace RecordDocs.Json

open Text

def escapeChar (char : Char) : List Char :=
  match char with
  | '"' => ['\\', '"']
  | '\\' => ['\\', '\\']
  | '\n' => ['\\', 'n']
  | '\r' => ['\\', 'r']
  | '\t' => ['\\', 't']
  | '\x08' => ['\\', 'b']
  | '\x0c' => ['\\', 'f']
  | _ => if char.toNat < 32 then '\\' :: 'u' :: hexDigits 4 char.toNat else [char]

def writeString (chars : List Char) : List Char :=
  '"' :: (chars.flatMap escapeChar ++ ['"'])

/-- The line break in front of an item at a nesting level, if items have lines of their own. -/
def lineStart (indent : Option Nat) (level : Nat) : List Char :=
  match indent with
  | none => []
  | some width => '\n' :: List.replicate (width * level) ' '

def separator (indent : Option Nat) (level : Nat) : List Char :=
  match indent with
  | none => [',', ' ']
  | some _ => ',' :: lineStart indent level

def writeFloat (number : Number.Binary64) : List Char :=
  if number.isNaN then "NaN".toList
  else if number.isInfinite then
    if number.isNegative then "-Infinity".toList else "Infinity".toList
  else number.text.toList

mutual

def writeValue (indent : Option Nat) (level : Nat) : Value → List Char
  | .null => "null".toList
  | .bool flag => if flag then "true".toList else "false".toList
  | .int number => (toString number).toList
  | .float number => writeFloat number
  | .str text => writeString text.toList
  | .binary _ => "null".toList
  | .other => "null".toList
  | .list [] => ['[', ']']
  | .list (item :: rest) =>
      '[' :: (lineStart indent (level + 1) ++ writeValue indent (level + 1) item
        ++ writeItems indent (level + 1) rest ++ lineStart indent level ++ [']'])
  | .dict [] => ['\x7b', '\x7d']
  | .dict ((key, value) :: rest) =>
      '\x7b' :: (lineStart indent (level + 1) ++ writeString key.asText.toList ++ [':', ' ']
        ++ writeValue indent (level + 1) value
        ++ writeMembers indent (level + 1) rest ++ lineStart indent level ++ ['\x7d'])

def writeItems (indent : Option Nat) (level : Nat) : List Value → List Char
  | [] => []
  | item :: rest =>
      separator indent level ++ writeValue indent level item ++ writeItems indent level rest

def writeMembers (indent : Option Nat) (level : Nat) : List (Key × Value) → List Char
  | [] => []
  | (key, value) :: rest =>
      separator indent level ++ writeString key.asText.toList ++ [':', ' ']
        ++ writeValue indent level value ++ writeMembers indent level rest

end

/-- The text of a value; indentation by zero blanks means one line. -/
def write (indent : Nat) (value : Value) : String :=
  String.ofList (writeValue (if indent == 0 then none else some indent) 0 value)

end RecordDocs.Json
