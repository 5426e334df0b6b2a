import RecordDocs.Text.Blank
import RecordDocs.Text.Lines
import RecordDocs.Text.Surrogate

/-!
# Margins

A doc text written inside source code is indented like the code around it. Cleaning takes the
indentation away: tabs become blanks, the first line loses its leading blanks, every later line
the margin that all its fellows share, and empty lines at both ends go.
-/

namespace RecordDocs.Text

/-- Replaces tabs by blanks up to the next multiple of eight; the column counts from the last line
feed or carriage return. A mark takes none. -/
def expandTabs (column : Nat) : List Char → List Char
  | [] => []
  | '\t' :: rest =>
      let width := 8 - column % 8
      List.replicate width ' ' ++ expandTabs (column + width) rest
  | char :: rest =>
      let next :=
        if char == '\n' || char == '\r' then 0 else if char == ownMark then column else column + 1
      char :: expandTabs next rest

def indentation? (line : List Char) : Option Nat :=
  let content := (trimStart line).length
  if content == 0 then none else some (line.length - content)

def dropEmptyLines (lines : List (List Char)) : List (List Char) :=
  ((lines.reverse.dropWhile List.isEmpty).reverse).dropWhile List.isEmpty

def removeMargin (chars : List Char) : List Char :=
  match splitAt '\n' (expandTabs 0 chars) with
  | [] => []
  | first :: later =>
      let margin := ((later.filterMap indentation?).min?).getD 0
      let cleaned := trimStart first :: later.map (List.drop margin)
      List.intercalate ['\n'] (dropEmptyLines cleaned)

def cleanMargin (text : String) : String :=
  String.ofList (removeMargin text.toList)

end RecordDocs.Text
