import RecordDocs.Yaml.Property

/-!
# The tokens of a text

Outside brackets, collections are marked by indentation alone, and a key is recognised only when
the colon behind it is read. The reader therefore remembers where a key may have started, one such
place for each level of brackets, and puts the marks of the key and of its mapping in front of it
once the colon comes. A place is forgotten at the end of its line or after 1024 characters.
-/

namespace RecordDocs.Yaml

structure KeyStart where
  /-- How many tokens there were. -/
  position : Nat
  /-- Whether nothing but a key can stand here. -/
  required : Bool
  index : Nat
  line : Nat
  column : Nat

structure Scan where
  cursor : Cursor
  tokens : Array Token
  /-- How many brackets are open. -/
  flowLevel : Nat
  /-- The column of the innermost block collection, below zero outside all. -/
  indent : Int
  /-- The columns of the block collections around it. -/
  indents : List Int
  keyAllowed : Bool
  /-- The places where keys may have started, with their bracket levels. -/
  keyStarts : List (Nat × KeyStart)

namespace Scan

def start (chars : List Char) : Scan :=
  ⟨.start chars, #[], 0, -1, [], true, []⟩

def inFlow (scan : Scan) : Bool :=
  scan.flowLevel > 0

def column (scan : Scan) : Int :=
  scan.cursor.column

def push (scan : Scan) (token : Token) : Scan :=
  { scan with tokens := scan.tokens.push token }

def take (scan : Scan) (width : Nat) (token : Token) : Scan :=
  { scan.push token with cursor := scan.cursor.advanceBy width }

def insert (scan : Scan) (position : Nat) (token : Token) : Scan :=
  { scan with tokens := (scan.tokens.take position).push token ++ scan.tokens.drop position }

/-! ### Places of keys -/

def isStale (scan : Scan) (start : KeyStart) : Bool :=
  start.line != scan.cursor.line || scan.cursor.index - start.index > 1024

/-- Forgets the places that are too far back; one where a key was required is a fault. -/
def dropStale (scan : Scan) : Except Fault Scan :=
  if scan.keyStarts.any fun (_, start) => scan.isStale start && start.required then
    .error .malformed
  else .ok { scan with
    keyStarts := scan.keyStarts.filter fun (_, start) => !scan.isStale start }

def dropKeyStart (scan : Scan) : Except Fault Scan :=
  match scan.keyStarts.lookup scan.flowLevel with
  | none => .ok scan
  | some start =>
      if start.required then .error .malformed
      else .ok { scan with
        keyStarts := scan.keyStarts.filter fun (level, _) => level != scan.flowLevel }

def saveKeyStart (scan : Scan) : Except Fault Scan := do
  if !scan.keyAllowed then return scan
  let required := !scan.inFlow && scan.indent == scan.column
  let start : KeyStart :=
    ⟨scan.tokens.size, required, scan.cursor.index, scan.cursor.line, scan.cursor.column⟩
  let cleared ← scan.dropKeyStart
  return { cleared with keyStarts := (scan.flowLevel, start) :: cleared.keyStarts }

/-! ### Indentation -/

def closeBlocks (tokens : Array Token) (indent column : Int) :
    List Int → Array Token × Int × List Int
  | [] => (tokens, indent, [])
  | outer :: rest =>
      if indent > column then closeBlocks (tokens.push .blockEnd) outer column rest
      else (tokens, indent, outer :: rest)

def unwind (scan : Scan) (column : Int) : Scan :=
  if scan.inFlow then scan
  else
    let (tokens, indent, indents) := closeBlocks scan.tokens scan.indent column scan.indents
    { scan with tokens, indent, indents }

/-- Opens a block collection at a column if that is deeper than the innermost one; `position` is
where its mark belongs. -/
def openBlock (scan : Scan) (column : Int) (position : Nat) (token : Token) : Scan :=
  if scan.indent < column then
    { scan.insert position token with indents := scan.indent :: scan.indents, indent := column }
  else scan

/-! ### Tokens -/

/-- Blanks, comments and line breaks in front of a token. A line break outside brackets allows a
key. -/
def skipToToken : Nat → Scan → Scan
  | 0, scan => scan
  | fuel + 1, scan =>
      let cursor := (scan.cursor.skip (· == ' ')).skipComment
      match cursor.lineBreak with
      | none => { scan with cursor }
      | some (_, cursor) =>
          skipToToken fuel { scan with cursor, keyAllowed := scan.keyAllowed || !scan.inFlow }

def documentMark (scan : Scan) (token : Token) : Except Fault Scan := do
  let scan ← (scan.unwind (-1)).dropKeyStart
  return { scan with keyAllowed := false }.take 3 token

def directive (scan : Scan) : Except Fault Scan := do
  let scan ← (scan.unwind (-1)).dropKeyStart
  let (directive, cursor) ← directiveLine scan.cursor
  return { scan.push (.directive directive) with keyAllowed := false, cursor }

def flowStart (scan : Scan) (token : Token) : Except Fault Scan := do
  let scan ← scan.saveKeyStart
  return { scan with flowLevel := scan.flowLevel + 1, keyAllowed := true }.take 1 token

def flowEnd (scan : Scan) (token : Token) : Except Fault Scan := do
  let scan ← scan.dropKeyStart
  return { scan with flowLevel := scan.flowLevel - 1, keyAllowed := false }.take 1 token

def flowEntry (scan : Scan) : Except Fault Scan := do
  let scan ← scan.dropKeyStart
  return { scan with keyAllowed := true }.take 1 .flowEntry

def blockEntry (scan : Scan) : Except Fault Scan := do
  if !scan.inFlow && !scan.keyAllowed then throw .malformed
  let opened :=
    if scan.inFlow then scan
    else scan.openBlock scan.column scan.tokens.size .blockSequenceStart
  let scan ← opened.dropKeyStart
  return { scan with keyAllowed := true }.take 1 .blockEntry

def key (scan : Scan) : Except Fault Scan := do
  if !scan.inFlow && !scan.keyAllowed then throw .malformed
  let opened :=
    if scan.inFlow then scan
    else scan.openBlock scan.column scan.tokens.size .blockMappingStart
  let scan ← opened.dropKeyStart
  return { scan with keyAllowed := !scan.inFlow }.take 1 .key

/-- The colon behind a key. If the key is one that needed no mark, the marks are added now. -/
def value (scan : Scan) : Except Fault Scan := do
  match scan.keyStarts.lookup scan.flowLevel with
  | some start =>
      let scan := { scan with
        keyStarts := scan.keyStarts.filter fun (level, _) => level != scan.flowLevel }
      let marked := scan.insert start.position .key
      let opened :=
        if scan.inFlow then marked
        else marked.openBlock start.column start.position .blockMappingStart
      return { opened with keyAllowed := false }.take 1 .value
  | none =>
      if !scan.inFlow && !scan.keyAllowed then throw .malformed
      let opened :=
        if scan.inFlow then scan
        else scan.openBlock scan.column scan.tokens.size .blockMappingStart
      let scan ← { opened with keyAllowed := !scan.inFlow }.dropKeyStart
      return scan.take 1 .value

/-- A token that may be a key itself, after which no key may start. -/
def property (scan : Scan) (read : Cursor → Except Fault (Token × Cursor)) :
    Except Fault Scan := do
  let scan ← scan.saveKeyStart
  let (token, cursor) ← read scan.cursor
  return { scan.push token with keyAllowed := false, cursor }

def block (scan : Scan) (folded : Bool) : Except Fault Scan := do
  let scan ← { scan with keyAllowed := true }.dropKeyStart
  let (chars, cursor) ← blockScalar folded (scan.indent + 1).toNat scan.cursor
  return { scan.push (.scalar (String.ofList chars) false) with cursor }

def quotedToken (double : Bool) (cursor : Cursor) : Except Fault (Token × Cursor) :=
  (quotedScalar double cursor).map fun (chars, cursor) =>
    (.scalar (String.ofList chars) false, cursor)

def plain (scan : Scan) : Except Fault Scan := do
  let scan ← scan.saveKeyStart
  let scalar := plainScalar scan.inFlow (scan.indent + 1).toNat scan.cursor
  return { scan.push (.scalar (String.ofList scalar.chars) true) with
    keyAllowed := scalar.broken
    cursor := scalar.after }

def atPlain (scan : Scan) : Bool :=
  let char := scan.cursor.peek
  !(isSpaceOrEnd char || "-?:,[]\x7b\x7d#&*!|>'\"%@\x60".toList.contains char)
    || (!isSpaceOrEnd (scan.cursor.peekAt 1)
      && (char == '-' || (!scan.inFlow && (char == '?' || char == ':'))))

def finish (scan : Scan) : Except Fault Scan := do
  let scan ← (scan.unwind (-1)).dropKeyStart
  return scan.push .streamEnd

def token (scan : Scan) : Except Fault Scan :=
  let cursor := scan.cursor
  let char := cursor.peek
  let alone := isSpaceOrEnd (cursor.peekAt 1)
  if char == '%' && cursor.column == 0 then scan.directive
  else if char == '-' && cursor.column == 0 && cursor.atDocumentMark then
    scan.documentMark .documentStart
  else if char == '.' && cursor.column == 0 && cursor.atDocumentMark then
    scan.documentMark .documentEnd
  else if char == '[' then scan.flowStart .flowSequenceStart
  else if char == '\x7b' then scan.flowStart .flowMappingStart
  else if char == ']' then scan.flowEnd .flowSequenceEnd
  else if char == '\x7d' then scan.flowEnd .flowMappingEnd
  else if char == ',' then scan.flowEntry
  else if char == '-' && alone then scan.blockEntry
  else if char == '?' && (scan.inFlow || alone) then scan.key
  else if char == ':' && (scan.inFlow || alone) then scan.value
  else if char == '*' then
    scan.property fun cursor => (anchorName cursor).map fun (name, after) => (.alias name, after)
  else if char == '&' then
    scan.property fun cursor => (anchorName cursor).map fun (name, after) => (.anchor name, after)
  else if char == '!' then
    scan.property fun cursor => (tagText cursor).map fun (tag, after) => (.tag tag, after)
  else if char == '|' && !scan.inFlow then scan.block false
  else if char == '>' && !scan.inFlow then scan.block true
  else if char == '\'' then scan.property (quotedToken false)
  else if char == '"' then scan.property (quotedToken true)
  else if scan.atPlain then scan.plain
  else .error .malformed

/-- Ends the tokens with a fault. As long as a key may have started at a token, neither it nor what
is behind it can be told, so the fault comes first. -/
def breakOff (scan : Scan) (fault : Fault) : Array Token :=
  let pending := scan.keyStarts.filter fun (_, start) => !scan.isStale start
  let told := pending.foldl (fun told (_, start) => min told start.position) scan.tokens.size
  (scan.tokens.take told).push (.broken fault)

def next (scan : Scan) : Except Fault (Option Scan) := do
  let scan ← (skipToToken scan.cursor.fuel scan).dropStale
  let scan := scan.unwind scan.column
  if scan.cursor.rest.isEmpty then return none
  return some (← scan.token)

def run : Nat → Scan → Array Token
  | 0, scan => scan.breakOff .malformed
  | fuel + 1, scan =>
      match scan.next with
      | .error fault => scan.breakOff fault
      | .ok (some later) => run fuel later
      | .ok none =>
          match (skipToToken scan.cursor.fuel scan).finish with
          | .error fault => scan.breakOff fault
          | .ok ended => ended.tokens

end Scan

def isAdmitted (char : Char) : Bool :=
  let code := char.toNat
  code == 9 || code == 10 || code == 13 || (0x20 ≤ code && code ≤ 0x7E) || code == 0x85
    || (0xA0 ≤ code && code ≤ 0xFFFD) || 0x10000 ≤ code

/-- The tokens of a text; a byte order mark at its very front is skipped. -/
def tokens (chars : List Char) : List Token :=
  if !chars.all isAdmitted then [.broken .malformed]
  else
    let scan := Scan.start chars
    let scan := if chars.head? == some '\uFEFF' then
      { scan with cursor := scan.cursor.advance } else scan
    (Scan.run (chars.length + 2) scan).toList

end RecordDocs.Yaml
