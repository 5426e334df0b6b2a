import RecordDocs.Value
import RecordDocs.Yaml.Cursor
import RecordDocs.Yaml.Tag

/-!
# Writing documents of the markup language

Collections are written as indented blocks, sequences inside mappings at the column of their keys.
A text is plain where it reads back as itself, else in single quotation marks, and in double ones
if it holds characters that need escapes. Lines are folded at single blanks behind the eightieth
column.
-/

namespace RecordDocs.Yaml

def lineWidth : Nat := 80

/-! ### Which style a text can have -/

/-- Characters that break a line of a scalar; the carriage return does not count. -/
def isScalarBreak (char : Char) : Bool :=
  char == '\n' || char == '\x85' || char == '\u2028' || char == '\u2029'

def needsNoEscape (code : Nat) : Bool :=
  code == 0x0A || (0x20 ≤ code && code ≤ 0x7E) || code == 0x85
    || (code != 0xFEFF && !Text.isSurrogate code
      && ((0xA0 ≤ code && code ≤ 0xFFFD) || (0x10000 ≤ code && code < 0x10FFFF)))

def isIndicator (char : Char) : Bool :=
  "#,[]\x7b\x7d&*!|>'\"%@\x60".toList.contains char

/-- Whether a character inside a text would be taken for an indicator; `before` is the character in
front of it and `after` what follows. -/
def indicatesInside (before char : Char) (after : List Char) : Bool :=
  (char == ':' && isSpaceOrEnd (after.headD '\x00')) || (char == '#' && isSpaceOrEnd before)

def indicatesInsideAny (before : Char) : List Char → Bool
  | [] => false
  | char :: rest => indicatesInside before char rest || indicatesInsideAny char rest

def hasIndicators (chars : List Char) : Bool :=
  match chars with
  | [] => false
  | first :: rest =>
      let alone := isSpaceOrEnd (rest.headD '\x00')
      chars.take 3 == ['-', '-', '-'] || chars.take 3 == ['.', '.', '.'] || isIndicator first
        || ((first == '?' || first == ':' || first == '-') && alone)
        || indicatesInsideAny first rest

def hasPair (first second : Char → Bool) : List Char → Bool
  | a :: b :: rest => (first a && second b) || hasPair first second (b :: rest)
  | _ => false

def isBlankChar (char : Char) : Bool := char == ' '

inductive Style where
  | plain
  | single
  | double
  deriving DecidableEq

def isMultiline (chars : List Char) : Bool :=
  chars.any isScalarBreak

def allowsPlain (chars : List Char) : Bool :=
  let ends (char : Char) := char == ' ' || isScalarBreak char
  !(ends (chars.headD 'x') || ends (chars.getLastD 'x') || isMultiline chars
      || (Text.codes chars).any (!needsNoEscape ·) || hasIndicators chars)
    && Tag.ofPlain (String.ofList chars) = .str

def allowsSingle (chars : List Char) : Bool :=
  !(hasPair isScalarBreak isBlankChar chars || hasPair isBlankChar isScalarBreak chars
      || (Text.codes chars).any (!needsNoEscape ·))

/-- The style of a text; one that is a key has to stay on its line. -/
def styleOf (isKey : Bool) (chars : List Char) : Style :=
  let confined := isKey && (chars.isEmpty || isMultiline chars)
  if !confined && allowsPlain chars then .plain
  else if allowsSingle chars && !(isKey && isMultiline chars) then .single
  else .double

/-! ### The pen -/

structure Pen where
  written : String
  column : Nat
  /-- Whether the last thing written was a blank or a line break. -/
  spaced : Bool
  /-- Whether nothing but indentation and marks of entries is on the line. -/
  indented : Bool

namespace Pen

def start : Pen := ⟨"", 0, true, true⟩

def put (pen : Pen) (chars : List Char) : Pen :=
  { pen with
    written := pen.written ++ String.ofList chars
    column := pen.column + (Text.codes chars).length }

def mark (pen : Pen) (chars : List Char) (needsBlank opensEntry : Bool) : Pen :=
  let pen := if pen.spaced || !needsBlank then pen else pen.put [' ']
  { pen.put chars with spaced := false, indented := pen.indented && opensEntry }

def breakLine (pen : Pen) (char : Char) : Pen :=
  { written := pen.written.push char, column := 0, spaced := true, indented := true }

/-- Goes to a column, on a new line unless the pen is on its way there. -/
def indent (pen : Pen) (column : Nat) : Pen :=
  let pen :=
    if !pen.indented || pen.column > column || (pen.column == column && !pen.spaced) then
      pen.breakLine '\n'
    else pen
  if pen.column < column then
    { pen.put (List.replicate (column - pen.column) ' ') with spaced := true }
  else pen

def continueAt (pen : Pen) (column : Nat) : Pen :=
  { pen.indent column with spaced := false, indented := false }

end Pen

/-! ### Scalars -/

/-- Writes blanks between two words: a single one gives way to a new line when the line is full. -/
def Pen.blanks (pen : Pen) (column count : Nat) (mayFold : Bool) : Pen :=
  if count == 1 && mayFold && pen.column > lineWidth then pen.indent column
  else pen.put (List.replicate count ' ')

def plainText (column : Nat) (fold : Bool) : Nat → Pen → List Char → Pen
  | 0, pen, _ => pen
  | _, pen, [] => pen
  | fuel + 1, pen, chars =>
      let blanks := (chars.takeWhile isBlankChar).length
      let pen :=
        if blanks == 0 then pen
        else if blanks == 1 && fold && pen.column > lineWidth then pen.continueAt column
        else pen.put (List.replicate blanks ' ')
      let rest := chars.drop blanks
      let word := rest.takeWhile (!isBlankChar ·)
      plainText column fold fuel (pen.put word) (rest.drop word.length)

def writePlain (column : Nat) (fold : Bool) (chars : List Char) (pen : Pen) : Pen :=
  if chars.isEmpty then pen
  else
    let pen := if pen.spaced then pen else pen.put [' ']
    plainText column fold (chars.length + 1) { pen with spaced := false, indented := false } chars

/-- Line breaks in a quoted text: one more than there are, as a single one would be folded away. -/
def Pen.lineBreaks (pen : Pen) (column : Nat) (breaks : List Char) : Pen :=
  let pen := if breaks.head? == some '\n' then pen.breakLine '\n' else pen
  (breaks.foldl Pen.breakLine pen).indent column

/-- The inside of a text in single quotation marks. A blank at either end is never folded. -/
def singleText (column : Nat) (fold : Bool) : Nat → Pen → Bool → List Char → Pen
  | 0, pen, _, _ => pen
  | _, pen, _, [] => pen
  | fuel + 1, pen, atStart, chars =>
      match chars.takeWhile isBlankChar with
      | [] =>
          match chars.takeWhile isScalarBreak with
          | [] =>
              let word := chars.takeWhile fun char => !isBlankChar char && !isScalarBreak char
              let quoted := word.flatMap fun char => if char == '\'' then ['\'', '\''] else [char]
              singleText column fold fuel (pen.put quoted) false (chars.drop word.length)
          | breaks =>
              singleText column fold fuel (pen.lineBreaks column breaks) false
                (chars.drop breaks.length)
      | blanks =>
          let rest := chars.drop blanks.length
          let pen := pen.blanks column blanks.length (fold && !atStart && !rest.isEmpty)
          singleText column fold fuel pen false rest

def writeSingle (column : Nat) (fold : Bool) (chars : List Char) (pen : Pen) : Pen :=
  let pen := pen.mark ['\''] true false
  (singleText column fold (chars.length + 1) pen true chars).mark ['\''] false false

def escapeLetter? : Char → Option Char
  | '\x00' => some '0'
  | '\x07' => some 'a'
  | '\x08' => some 'b'
  | '\t' => some 't'
  | '\n' => some 'n'
  | '\x0b' => some 'v'
  | '\x0c' => some 'f'
  | '\r' => some 'r'
  | '\x1b' => some 'e'
  | '"' => some '"'
  | '\\' => some '\\'
  | '\x85' => some 'N'
  | '\u2028' => some 'L'
  | '\u2029' => some 'P'
  | _ => none

def upperHex (width code : Nat) : List Char :=
  (Text.hexDigits width code).map Char.toUpper

def escapeText (code : Nat) : List Char :=
  match if Text.isSurrogate code then none else escapeLetter? (Char.ofNat code) with
  | some letter => ['\\', letter]
  | none =>
      if code ≤ 0xFF then '\\' :: 'x' :: upperHex 2 code
      else if code ≤ 0xFFFF then '\\' :: 'u' :: upperHex 4 code
      else '\\' :: 'U' :: upperHex 8 code

def isDoubleOrdinary (code : Nat) : Bool :=
  !(code == 0x22 || code == 0x5C || code == 0x85 || code == 0x2028 || code == 0x2029
      || code == 0xFEFF || Text.isSurrogate code)
    && ((0x20 ≤ code && code ≤ 0x7E) || (0xA0 ≤ code && code ≤ 0xFFFD))

/-- The inside of a text in double quotation marks, of which the codes are given. `run` holds,
backwards, the characters that are due but not yet written; `index` counts the codes read. A full
line is broken in front of a blank or behind an escape, which may go one column further, with a
backslash at its end. -/
def doubleText (column : Nat) (fold : Bool) (length : Nat) :
    Nat → List Char → Pen → List Nat → Pen
  | _, run, pen, [] => pen.put run.reverse
  | index, run, pen, code :: rest =>
      let char := Char.ofNat code
      let ordinary := isDoubleOrdinary code
      let (pen, flushed) :=
        if ordinary then (pen, run) else ((pen.put run.reverse).put (escapeText code), [])
      let inside := 0 < index && index + 1 < length
      if fold && inside && (char == ' ' || flushed.isEmpty)
          && pen.column + flushed.length > (if ordinary then lineWidth else lineWidth + 1) then
        let pen := (pen.put (flushed.reverse ++ ['\\'])).continueAt column
        let next := if ordinary then code else rest.headD 0
        let pen := if next == 0x20 then pen.put ['\\'] else pen
        doubleText column fold length (index + 1) (if ordinary then [char] else []) pen rest
      else
        let run := if ordinary then char :: flushed else []
        doubleText column fold length (index + 1) run pen rest

def writeDouble (column : Nat) (fold : Bool) (chars : List Char) (pen : Pen) : Pen :=
  let pen := pen.mark ['"'] true false
  let codes := Text.codes chars
  (doubleText column fold codes.length 0 [] pen codes).mark ['"'] false false

def writeText (column : Nat) (isKey : Bool) (chars : List Char) (pen : Pen) : Pen :=
  match styleOf isKey chars with
  | .plain => writePlain column (!isKey) chars pen
  | .single => writeSingle column (!isKey) chars pen
  | .double => writeDouble column (!isKey) chars pen

/-! ### Collections -/

/-- Whether a text can be a key without a mark of its own: it has one line, is not empty, and with
the five characters of its tag is shorter than 128 characters. -/
def isSimpleKey (chars : List Char) : Bool :=
  !chars.isEmpty && !isMultiline chars && (Text.codes chars).length + 5 < 128

def scalarWord : Value → List Char
  | .null => "null".toList
  | .bool flag => if flag then "true".toList else "false".toList
  | .int number => (toString number).toList
  | .float number =>
      if number.isNaN then ".nan".toList
      else if number.isInfinite then
        if number.isNegative then "-.inf".toList else ".inf".toList
      else number.text.toList
  | _ => "null".toList

/-- The column of a collection or scalar inside one at `column`; the outermost collection is at the
left edge. -/
def innerColumn (step : Nat) : Option Nat → Nat
  | none => 0
  | some column => column + step

def writeKey (step column : Nat) (key : Key) (pen : Pen) : Pen :=
  let pen := pen.indent column
  let chars := key.asText.toList
  if isSimpleKey chars then
    (writeText (column + step) true chars pen).mark [':'] false false
  else
    let pen := writeText (column + step) false chars (pen.mark ['?'] true true)
    (pen.indent column).mark [':'] true true

mutual

/-- Writes a value inside a collection at `column`; `inMapping` says that it is the value of an
entry, where a sequence on a line of its own is not indented. -/
def writeNode (step : Nat) (column : Option Nat) (inMapping : Bool) : Value → Pen → Pen
  | .str text, pen => writeText ((column.getD 0) + step) false text.toList pen
  | .list [], pen => (pen.mark ['['] true false).mark [']'] false false
  | .list (item :: rest), pen =>
      let inner :=
        if inMapping && !pen.indented then column.getD 0 else innerColumn step column
      writeSequence step inner (item :: rest) pen
  | .dict [], pen => (pen.mark ['\x7b'] true false).mark ['\x7d'] false false
  | .dict (member :: rest), pen => writeMapping step (innerColumn step column) (member :: rest) pen
  | value, pen => writePlain ((column.getD 0) + step) true (scalarWord value) pen

def writeSequence (step column : Nat) : List Value → Pen → Pen
  | [], pen => pen
  | item :: rest, pen =>
      let pen := (pen.indent column).mark ['-'] true true
      writeSequence step column rest (writeNode step (some column) false item pen)

def writeMapping (step column : Nat) : List (Key × Value) → Pen → Pen
  | [], pen => pen
  | (key, value) :: rest, pen =>
      let pen := writeNode step (some column) true value (writeKey step column key pen)
      writeMapping step column rest pen

end

/-- How many blanks a level is indented by: as asked for, if that is between two and nine. -/
def stepOf (indent : Nat) : Nat :=
  if 1 < indent && indent < 10 then indent else 2

def write (indent : Nat) (value : Value) : String :=
  ((writeNode (stepOf indent) none false value .start).indent 0).written

end RecordDocs.Yaml
