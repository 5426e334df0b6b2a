/-!
# Lines of a text

A text is cut into lines at every character that ends a line; a carriage return followed by a line
feed ends one line, not two. The break itself belongs to no line, and a break at the very end opens
no further line, so the empty text has none.
-/

namespace RecordDocs.Text

/-- Line feed, vertical tab, form feed, carriage return, three of the information separators, and
the three breaks beyond ASCII. -/
def isLineBreak (char : Char) : Bool :=
  let code := char.toNat
  (10 ≤ code && code ≤ 13) || (28 ≤ code && code ≤ 30) || code == 0x85
    || code == 0x2028 || code == 0x2029

/-- Puts a character in front of the first line, which it opens if there is none. -/
def consLine (char : Char) : List (List Char) → List (List Char)
  | [] => [[char]]
  | line :: lines => (char :: line) :: lines

def splitLines : List Char → List (List Char)
  | [] => []
  | '\r' :: '\n' :: rest => [] :: splitLines rest
  | char :: rest =>
      if isLineBreak char then [] :: splitLines rest else consLine char (splitLines rest)

def lines (text : String) : List String :=
  (splitLines text.toList).map String.ofList

/-- A text as a file read in text mode gives it: every carriage return, with the line feed that
may follow it, is one line feed. -/
def normaliseNewlines : List Char → List Char
  | [] => []
  | '\r' :: '\n' :: rest => '\n' :: normaliseNewlines rest
  | '\r' :: rest => '\n' :: normaliseNewlines rest
  | char :: rest => char :: normaliseNewlines rest

/-- Cuts at every occurrence of a separator; there is one piece more than separators. -/
def splitAt (separator : Char) : List Char → List (List Char)
  | [] => [[]]
  | char :: rest =>
      if char == separator then [] :: splitAt separator rest
      else match splitAt separator rest with
        | [] => [[char]]
        | piece :: pieces => (char :: piece) :: pieces

end RecordDocs.Text
