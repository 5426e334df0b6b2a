import RecordDocs.Text.Surrogate

/-!
# Reading positions

A cursor is a place in a text: what is still to be read, how many characters have been read, and
the line and column. The end of the text reads as the null character, which no text holds.
-/

namespace RecordDocs.Yaml

def isBreak (char : Char) : Bool :=
  char == '\n' || char == '\r' || char == '\x85' || char == '\u2028' || char == '\u2029'

def isBreakOrEnd (char : Char) : Bool :=
  char == '\x00' || isBreak char

def isSpaceOrEnd (char : Char) : Bool :=
  char == ' ' || char == '\t' || isBreakOrEnd char

def isNameChar (char : Char) : Bool :=
  char.isAlphanum || char == '-' || char == '_'

structure Cursor where
  rest : List Char
  index : Nat
  line : Nat
  column : Nat

namespace Cursor

def start (chars : List Char) : Cursor :=
  ⟨chars, 0, 0, 0⟩

def peek (cursor : Cursor) : Char :=
  cursor.rest.headD '\x00'

def peekAt (cursor : Cursor) (offset : Nat) : Char :=
  (cursor.rest.drop offset).headD '\x00'

/-- Moves past one character. A byte order mark takes no column, and the mark of what a text has of
its own does not count at all. -/
def advance (cursor : Cursor) : Cursor :=
  match cursor.rest with
  | [] => cursor
  | char :: rest =>
      if char == '\r' then
        if rest.headD '\x00' == '\n' then ⟨rest, cursor.index + 1, cursor.line, cursor.column + 1⟩
        else ⟨rest, cursor.index + 1, cursor.line + 1, 0⟩
      else if isBreak char then ⟨rest, cursor.index + 1, cursor.line + 1, 0⟩
      else if char == '\uFEFF' then ⟨rest, cursor.index + 1, cursor.line, cursor.column⟩
      else if char == Text.ownMark then ⟨rest, cursor.index, cursor.line, cursor.column⟩
      else ⟨rest, cursor.index + 1, cursor.line, cursor.column + 1⟩

def advanceBy (cursor : Cursor) : Nat → Cursor
  | 0 => cursor
  | count + 1 => cursor.advance.advanceBy count

theorem advance_rest {cursor : Cursor} {char : Char} {rest : List Char}
    (h : cursor.rest = char :: rest) : cursor.advance.rest = rest := by
  unfold advance
  rw [h]
  simp only
  repeat' split
  all_goals rfl

def span (condition : Char → Bool) (cursor : Cursor) : List Char × Cursor :=
  match _h : cursor.rest with
  | [] => ([], cursor)
  | char :: _ =>
      if condition char then
        let (chars, after) := cursor.advance.span condition
        (char :: chars, after)
      else ([], cursor)
termination_by cursor.rest.length
decreasing_by
  rw [advance_rest _h, _h]
  simp

def skip (condition : Char → Bool) (cursor : Cursor) : Cursor :=
  (cursor.span condition).2

def skipToColumn (cursor : Cursor) (column : Nat) : Cursor :=
  cursor.advanceBy ((cursor.rest.takeWhile (· == ' ')).length.min (column - cursor.column))

/-- Moves past a line break, which is read as a line feed unless it is one of the two separators
beyond Latin-1. -/
def lineBreak (cursor : Cursor) : Option (Char × Cursor) :=
  let char := cursor.peek
  if char == '\r' && cursor.peekAt 1 == '\n' then some ('\n', cursor.advanceBy 2)
  else if char == '\n' || char == '\r' || char == '\x85' then some ('\n', cursor.advance)
  else if char == '\u2028' || char == '\u2029' then some (char, cursor.advance)
  else none

/-- Whether three hyphens or three dots stand here with nothing attached to them. -/
def atDocumentMark (cursor : Cursor) : Bool :=
  (cursor.rest.take 3 == ['-', '-', '-'] || cursor.rest.take 3 == ['.', '.', '.'])
    && isSpaceOrEnd (cursor.peekAt 3)

def skipComment (cursor : Cursor) : Cursor :=
  if cursor.peek == '#' then cursor.skip (!isBreak ·) else cursor

def fuel (cursor : Cursor) : Nat :=
  cursor.rest.length + 1

end Cursor

end RecordDocs.Yaml
