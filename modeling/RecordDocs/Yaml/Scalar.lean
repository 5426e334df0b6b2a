import RecordDocs.Json.Reader
import RecordDocs.Text.Code
import RecordDocs.Yaml.Cursor
import RecordDocs.Yaml.Token

/-!
# Scalars in a text

The five ways to write a scalar: plain, in single or double quotation marks, and as a block whose
line breaks are kept or folded. Each reader starts at the first character of the scalar and gives
its content and the cursor behind it.
-/

namespace RecordDocs.Yaml

/-! ### Quoted scalars -/

def escapedChar? : Char → Option Char
  | '0' => some '\x00'
  | 'a' => some '\x07'
  | 'b' => some '\x08'
  | 't' => some '\t'
  | '\t' => some '\t'
  | 'n' => some '\n'
  | 'v' => some '\x0b'
  | 'f' => some '\x0c'
  | 'r' => some '\r'
  | 'e' => some '\x1b'
  | ' ' => some ' '
  | '"' => some '"'
  | '\\' => some '\\'
  | '/' => some '/'
  | 'N' => some '\x85'
  | '_' => some '\xa0'
  | 'L' => some '\u2028'
  | 'P' => some '\u2029'
  | _ => none

def escapeWidth? : Char → Option Nat
  | 'x' => some 2
  | 'u' => some 4
  | 'U' => some 8
  | _ => none

def charsOfEscape (code : Nat) : Except Fault (List Char) :=
  if code < 0x110000 then .ok (Text.hold code)
  else if code < 0x80000000 then .error .noCharacter
  else .error .oversizedCharacter

def readHexDigits (digits : List Char) : Option Nat :=
  digits.foldlM (fun value digit => (Text.hexValue? digit).map (value * 16 + ·)) 0

def quotedBreaks : Nat → Cursor → Except Fault (List Char × Cursor)
  | 0, _ => .error .malformed
  | fuel + 1, cursor =>
      if cursor.atDocumentMark then .error .malformed
      else
        match (cursor.skip fun char => char == ' ' || char == '\t') with
        | skipped =>
            match skipped.lineBreak with
            | none => .ok ([], skipped)
            | some (char, after) =>
                (quotedBreaks fuel after).map fun (breaks, final) => (char :: breaks, final)

def isQuotedOrdinary (char : Char) : Bool :=
  !(char == '\'' || char == '"' || char == '\\' || isSpaceOrEnd char)

def quotedWord (double : Bool) : Nat → Cursor → Except Fault (List Char × Cursor)
  | 0, _ => .error .malformed
  | fuel + 1, cursor =>
      let (run, cursor) := cursor.span isQuotedOrdinary
      let continueWith (chars : List Char) (after : Cursor) : Except Fault (List Char × Cursor) :=
        (quotedWord double fuel after).map fun (more, final) => (run ++ chars ++ more, final)
      let char := cursor.peek
      if !double && char == '\'' && cursor.peekAt 1 == '\'' then
        continueWith ['\''] (cursor.advanceBy 2)
      else if (double && char == '\'') || (!double && (char == '"' || char == '\\')) then
        continueWith [char] cursor.advance
      else if double && char == '\\' then
        let letter := cursor.peekAt 1
        match escapedChar? letter, escapeWidth? letter with
        | some escaped, _ => continueWith [escaped] (cursor.advanceBy 2)
        | none, some width =>
            let digits := (cursor.rest.drop 2).take width
            if digits.length < width then .error .malformed
            else match readHexDigits digits with
              | none => .error .malformed
              | some code =>
                  match charsOfEscape code with
                  | .error fault => .error fault
                  | .ok escaped => continueWith escaped (cursor.advanceBy (2 + width))
        | none, none =>
            match cursor.advance.lineBreak with
            | none => .error .malformed
            | some (_, after) =>
                match quotedBreaks after.fuel after with
                | .error fault => .error fault
                | .ok (breaks, after) => continueWith breaks after
      else .ok (run, cursor)

/-- The blanks or line breaks between two words of a quoted scalar. A single line break counts as a
blank. -/
def quotedSpaces (cursor : Cursor) : Except Fault (List Char × Cursor) :=
  let (blanks, cursor) := cursor.span fun char => char == ' ' || char == '\t'
  if cursor.peek == '\x00' then .error .malformed
  else match cursor.lineBreak with
    | none => .ok (blanks, cursor)
    | some (char, after) =>
        (quotedBreaks after.fuel after).map fun (breaks, final) =>
          let front := if char != '\n' then [char] else if breaks.isEmpty then [' '] else []
          (front ++ breaks, final)

def quotedRest (double : Bool) : Nat → Cursor → Except Fault (List Char × Cursor)
  | 0, _ => .error .malformed
  | fuel + 1, cursor =>
      if cursor.peek == (if double then '"' else '\'') then .ok ([], cursor.advance)
      else
        match quotedSpaces cursor with
        | .error fault => .error fault
        | .ok (spaces, cursor) =>
            match quotedWord double cursor.fuel cursor with
            | .error fault => .error fault
            | .ok (word, cursor) =>
                (quotedRest double fuel cursor).map fun (more, final) =>
                  (spaces ++ word ++ more, final)

def quotedScalar (double : Bool) (cursor : Cursor) : Except Fault (List Char × Cursor) :=
  let cursor := cursor.advance
  match quotedWord double cursor.fuel cursor with
  | .error fault => .error fault
  | .ok (word, cursor) =>
      (quotedRest double cursor.fuel cursor).map fun (more, final) => (word ++ more, final)

/-! ### Block scalars -/

/-- What becomes of the line breaks at the end of a block: the last one is kept and the others
dropped unless the header says otherwise. -/
inductive Chomping where
  | clip
  | strip
  | keep
  deriving DecidableEq

structure BlockHeader where
  chomping : Chomping
  indentation : Option Nat

def readChomping (cursor : Cursor) : Option (Chomping × Cursor) :=
  if cursor.peek == '+' then some (.keep, cursor.advance)
  else if cursor.peek == '-' then some (.strip, cursor.advance)
  else none

def readIndentation (cursor : Cursor) : Option (Nat × Cursor) :=
  if cursor.peek.isDigit then some (cursor.peek.toNat - 48, cursor.advance) else none

def blockHeader (cursor : Cursor) : Except Fault (BlockHeader × Cursor) :=
  let (header, cursor) : BlockHeader × Cursor :=
    match readChomping cursor with
    | some (chomping, cursor) =>
        match readIndentation cursor with
        | some (indentation, cursor) => (⟨chomping, some indentation⟩, cursor)
        | none => (⟨chomping, none⟩, cursor)
    | none =>
        match readIndentation cursor with
        | some (indentation, cursor) =>
            match readChomping cursor with
            | some (chomping, cursor) => (⟨chomping, some indentation⟩, cursor)
            | none => (⟨.clip, some indentation⟩, cursor)
        | none => (⟨.clip, none⟩, cursor)
  if header.indentation == some 0 then .error .malformed
  else if !(cursor.peek == ' ' || isBreakOrEnd cursor.peek) then .error .malformed
  else
    let cursor := (cursor.skip (· == ' ')).skipComment
    if !isBreakOrEnd cursor.peek then .error .malformed
    else match cursor.lineBreak with
      | none => .ok (header, cursor)
      | some (_, cursor) => .ok (header, cursor)

/-- The empty lines in front of a block, and the column of the deepest blank or of the first
character that is neither blank nor break. -/
def blockIndentation (deepest : Nat) : Nat → Cursor → List Char × Nat × Cursor
  | 0, cursor => ([], deepest, cursor)
  | fuel + 1, cursor =>
      if cursor.peek == ' ' then
        let cursor := cursor.advance
        blockIndentation (max deepest cursor.column) fuel cursor
      else match cursor.lineBreak with
        | none => ([], deepest, cursor)
        | some (char, cursor) =>
            let (breaks, deepest, final) := blockIndentation deepest fuel cursor
            (char :: breaks, deepest, final)

def blockBreaks (indentation : Nat) : Nat → Cursor → List Char × Cursor
  | 0, cursor => ([], cursor)
  | fuel + 1, cursor =>
      let cursor := cursor.skipToColumn indentation
      match cursor.lineBreak with
      | none => ([], cursor)
      | some (char, cursor) =>
          let (breaks, final) := blockBreaks indentation fuel cursor
          (char :: breaks, final)

def startsBlank (cursor : Cursor) : Bool :=
  cursor.peek == ' ' || cursor.peek == '\t'

/-- The lines of a block, the empty lines `breaks` before them included. A folded block joins two
lines by a blank unless one of them starts with a blank or empty lines are between them. -/
def blockLines (folded : Bool) (chomping : Chomping) (indentation : Nat) (breaks : List Char)
    (lastBreak : List Char) : Nat → Cursor → List Char × Cursor
  | 0, cursor => ([], cursor)
  | fuel + 1, cursor =>
      if cursor.column == indentation && cursor.peek != '\x00' then
        let indented := startsBlank cursor
        let (line, cursor) := cursor.span (!isBreak ·)
        let (lastBreak, cursor) :=
          match cursor.lineBreak with
          | none => ([], cursor)
          | some (char, cursor) => ([char], cursor)
        let (nextBreaks, cursor) := blockBreaks indentation cursor.fuel cursor
        let (joint, kept) :=
          if cursor.column == indentation && cursor.peek != '\x00' then
            if folded && lastBreak == ['\n'] && !indented && !startsBlank cursor then
              (if nextBreaks.isEmpty then [' '] else [], lastBreak)
            else (lastBreak, lastBreak)
          else ([], lastBreak)
        let (more, final) := blockLines folded chomping indentation nextBreaks kept fuel cursor
        (breaks ++ line ++ joint ++ more, final)
      else
        let tail := if chomping = .strip then [] else lastBreak
        let empties := if chomping = .keep then breaks else []
        (tail ++ empties, cursor)

/-- A block scalar from its indicator on; `parent` is one more than the column of the collection
around it. -/
def blockScalar (folded : Bool) (parent : Nat) (cursor : Cursor) :
    Except Fault (List Char × Cursor) :=
  match blockHeader cursor.advance with
  | .error fault => .error fault
  | .ok (header, cursor) =>
      let least := max parent 1
      let (breaks, indentation, cursor) :=
        match header.indentation with
        | none =>
            let (breaks, deepest, cursor) := blockIndentation 0 cursor.fuel cursor
            (breaks, max least deepest, cursor)
        | some increment =>
            let indentation := least + increment - 1
            let (breaks, cursor) := blockBreaks indentation cursor.fuel cursor
            (breaks, indentation, cursor)
      .ok (blockLines folded header.chomping indentation breaks [] cursor.fuel cursor)

/-! ### Plain scalars -/

def isFlowIndicator (char : Char) : Bool :=
  char == ',' || char == '[' || char == ']' || char == '\x7b' || char == '\x7d'

def endsPlain (flow : Bool) : List Char → Bool
  | [] => true
  | char :: rest =>
      let next := rest.headD '\x00'
      isSpaceOrEnd char
        || (char == ':' && (isSpaceOrEnd next || (flow && isFlowIndicator next)))
        || (flow && (char == '?' || isFlowIndicator char))

def plainRun (flow : Bool) : List Char → Nat
  | [] => 0
  | char :: rest => if endsPlain flow (char :: rest) then 0 else plainRun flow rest + 1

/-- The empty lines and blanks between two lines of a plain scalar; none at a document mark. -/
def plainBreaks : Nat → Cursor → Option (List Char × Cursor)
  | 0, _ => none
  | fuel + 1, cursor =>
      if cursor.peek == ' ' then plainBreaks fuel cursor.advance
      else match cursor.lineBreak with
        | none => some ([], cursor)
        | some (char, cursor) =>
            if cursor.atDocumentMark then none
            else (plainBreaks fuel cursor).map fun (breaks, final) => (char :: breaks, final)

structure PlainGap where
  /-- The characters the gap stands for; none if the scalar cannot go on behind it. -/
  chars : List Char
  after : Cursor
  /-- Whether the gap has a line break in it. -/
  broken : Bool

/-- The end of a document behind a line break leaves the cursor somewhere in the gap; `after` is
where the search stopped. -/
def plainGap (cursor : Cursor) : PlainGap :=
  let (blanks, cursor) := cursor.span (· == ' ')
  match cursor.lineBreak with
  | none => ⟨blanks, cursor, false⟩
  | some (char, cursor) =>
      if cursor.atDocumentMark then ⟨[], cursor, true⟩
      else
        match plainBreaks cursor.fuel cursor with
        | none => ⟨[], stopAtMark cursor.fuel cursor, true⟩
        | some (breaks, after) =>
            let front := if char != '\n' then [char] else if breaks.isEmpty then [' '] else []
            ⟨front ++ breaks, after, true⟩
where
  /-- The document mark behind the blanks and breaks at the front. -/
  stopAtMark : Nat → Cursor → Cursor
    | 0, cursor => cursor
    | fuel + 1, cursor =>
        if cursor.peek == ' ' then stopAtMark fuel cursor.advance
        else match cursor.lineBreak with
          | none => cursor
          | some (_, cursor) => if cursor.atDocumentMark then cursor else stopAtMark fuel cursor

structure PlainScalar where
  chars : List Char
  after : Cursor
  /-- Whether the cursor came to a new line behind the last word. -/
  broken : Bool

/-- The words of a plain scalar behind the gap `gap`. Outside brackets a line has to be indented to
continue the scalar; `indentation` is the least column. -/
def plainWords (flow : Bool) (indentation : Nat) (gap : List Char) (broken : Bool) :
    Nat → Cursor → PlainScalar
  | 0, cursor => ⟨[], cursor, broken⟩
  | fuel + 1, cursor =>
      let length := if cursor.peek == '#' then 0 else plainRun flow cursor.rest
      if length == 0 then ⟨[], cursor, broken⟩
      else
        let word := cursor.rest.take length
        let next := plainGap (cursor.advanceBy length)
        if next.chars.isEmpty || next.after.peek == '#'
            || (!flow && next.after.column < indentation) then
          ⟨gap ++ word, next.after, next.broken⟩
        else
          let more := plainWords flow indentation next.chars next.broken fuel next.after
          ⟨gap ++ word ++ more.chars, more.after, more.broken⟩

def plainScalar (flow : Bool) (indentation : Nat) (cursor : Cursor) : PlainScalar :=
  plainWords flow indentation [] false cursor.fuel cursor

end RecordDocs.Yaml
