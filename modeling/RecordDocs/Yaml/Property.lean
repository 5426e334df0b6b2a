import RecordDocs.Text.Utf8
import RecordDocs.Yaml.Scalar

/-!
# Names, tags and directives

The short constructs around the content of a document: anchors and aliases, tags, and the
directives in front of a document.
-/

namespace RecordDocs.Yaml

def anchorName (cursor : Cursor) : Except Fault (String × Cursor) :=
  let (name, after) := cursor.advance.span isNameChar
  let follows := isSpaceOrEnd after.peek || "?:,]\x7d%@\x60".toList.contains after.peek
  if name.isEmpty || !follows then .error .malformed
  else .ok (String.ofList name, after)

/-! ### Tags -/

def isUriChar (char : Char) : Bool :=
  char.isAlphanum || "-;/?:@&=+$,_.!~*'()[]%".toList.contains char

def escapedOctets : List Char → Option (List UInt8 × List Char)
  | '%' :: high :: low :: rest =>
      match Text.hexValue? high, Text.hexValue? low with
      | some high, some low =>
          (escapedOctets rest).map fun (octets, left) =>
            (UInt8.ofNat (high * 16 + low) :: octets, left)
      | _, _ => none
  | '%' :: _ => none
  | chars => some ([], chars)

def uriText : Nat → Cursor → Except Fault (List Char × Cursor)
  | 0, _ => .error .malformed
  | fuel + 1, cursor =>
      let (run, cursor) := cursor.span fun char => isUriChar char && char != '%'
      if cursor.peek != '%' then .ok (run, cursor)
      else match escapedOctets cursor.rest with
        | none => .error .malformed
        | some (octets, left) =>
            match Text.decodeUtf8 octets with
            | .error _ => .error .malformed
            | .ok chars =>
                let after := cursor.advanceBy (cursor.rest.length - left.length)
                (uriText fuel after).map fun (more, final) => (run ++ chars ++ more, final)

def tagUri (cursor : Cursor) : Except Fault (String × Cursor) :=
  match uriText cursor.fuel cursor with
  | .error fault => .error fault
  | .ok (chars, after) =>
      if after.index == cursor.index then .error .malformed
      else .ok (String.ofList chars, after)

/-- A handle: an exclamation mark alone before a blank, else a name between two of them. -/
def tagHandle (cursor : Cursor) : Except Fault (String × Cursor) :=
  if cursor.peek != '!' then .error .malformed
  else if cursor.peekAt 1 == ' ' then .ok ("!", cursor.advance)
  else
    let (name, after) := cursor.advance.span isNameChar
    if after.peek != '!' then .error .malformed
    else .ok (String.ofList ('!' :: name ++ ['!']), after.advance)

def isTagEnd (char : Char) : Bool :=
  char == ' ' || isBreakOrEnd char

def hasHandle (cursor : Cursor) : Bool :=
  ((cursor.rest.drop 1).takeWhile (!isTagEnd ·)).contains '!'

def tagText (cursor : Cursor) : Except Fault (TagText × Cursor) := do
  let next := cursor.peekAt 1
  let (tag, after) ← (
    if next == '<' then do
      let (suffix, after) ← tagUri (cursor.advanceBy 2)
      if after.peek != '>' then throw .malformed
      return (⟨none, suffix⟩, after.advance)
    else if isSpaceOrEnd next then
      return (⟨none, "!"⟩, cursor.advance)
    else do
      let (handle, after) ←
        if hasHandle cursor then tagHandle cursor else pure ("!", cursor.advance)
      let (suffix, after) ← tagUri after
      return (⟨some handle, suffix⟩, after) : Except Fault (TagText × Cursor))
  if isTagEnd after.peek then return (tag, after) else throw .malformed

/-! ### Directives -/

def skipBlanks (cursor : Cursor) : Cursor :=
  cursor.skip (· == ' ')

def versionNumber (cursor : Cursor) : Except Fault (Nat × Cursor) :=
  match cursor.span Char.isDigit with
  | ([], _) => .error .malformed
  | (digits, after) =>
      if digits.length > Number.maxDigits then
        .error (.integer (.tooManyDigits digits.length))
      else .ok (Number.ofDigits 10 (digits.map fun digit => digit.toNat - 48), after)

def directiveLine (cursor : Cursor) : Except Fault (Directive × Cursor) := do
  let (name, cursor) := cursor.advance.span isNameChar
  if name.isEmpty || !isTagEnd cursor.peek then throw .malformed
  let (directive, cursor) ← (
    match String.ofList name with
    | "YAML" => do
        let (major, cursor) ← versionNumber (skipBlanks cursor)
        if cursor.peek != '.' then throw .malformed
        let (_, cursor) ← versionNumber cursor.advance
        if !isTagEnd cursor.peek then throw .malformed
        return (.version major, cursor)
    | "TAG" => do
        let (handle, cursor) ← tagHandle (skipBlanks cursor)
        if cursor.peek != ' ' then throw .malformed
        let (expansion, cursor) ← tagUri (skipBlanks cursor)
        if !isTagEnd cursor.peek then throw .malformed
        return (.tagHandle handle expansion, cursor)
    | _ => return (.unknown, cursor.skip (!isBreak ·)) : Except Fault (Directive × Cursor))
  let cursor := (skipBlanks cursor).skipComment
  if !isBreakOrEnd cursor.peek then throw .malformed
  match cursor.lineBreak with
  | none => return (directive, cursor)
  | some (_, cursor) => return (directive, cursor)

end RecordDocs.Yaml
