import RecordDocs.Number.FloatLiteral
import RecordDocs.Text.CharacterName
import RecordDocs.Text.Code
import RecordDocs.Text.Identifier
import RecordDocs.Text.Lines
import RecordDocs.Text.Surrogate

/-!
# Tokens of annotation expressions

An annotation is written as one expression on one line, which may go on inside brackets and behind
a backslash. Its tokens are names, constants and signs. The line must not be indented; blank lines
and comments around it do not count. Names are read in their compatibility form.
-/

namespace RecordDocs.Annotation

open Number

inductive Constant where
  | null
  | ellipsis
  | flag (value : Bool)
  | integer (value : Int)
  | decimal (value : Binary64)
  | text (value : String)
  | octets (value : List UInt8)
  deriving DecidableEq

inductive Token where
  | name (text : String)
  /-- A word that cannot be a name. -/
  | reserved (word : String)
  | constant (value : Constant)
  | sign (char : Char)
  /-- The end of a line with something on it. -/
  | lineEnd
  deriving DecidableEq

/-! ### Names and numbers -/

/-- Words that cannot be names; in another form than this they can. -/
def reservedWords : List String :=
  ["False", "None", "True", "and", "as", "assert", "async", "await", "break", "class", "continue",
    "def", "del", "elif", "else", "except", "finally", "for", "from", "global", "if", "import",
    "in", "is", "lambda", "nonlocal", "not", "or", "pass", "raise", "return", "try", "while",
    "with", "yield"]

/-- Characters that belong to a word, whether it is a name or not. -/
def isWordStart (char : Char) : Bool :=
  char.isAlpha || char == '_' || char.toNat ≥ 0x80

def isWordPart (char : Char) : Bool :=
  isWordStart char || char.isDigit

def wordToken? (word : List Char) : Option Token :=
  let text := String.ofList word
  if reservedWords.contains text then some (.reserved text)
  else if Text.isIdentifier word then some (.name (String.ofList (Text.compatibilityForm word)))
  else none

/-- Digits of a class, where single underscores may stand between two of them, and what follows. -/
def digitPart? (isMember : Char → Bool) : List Char → Option (List Char × List Char)
  | [] => none
  | char :: rest =>
      if !isMember char then none
      else match rest with
        | '_' :: more => (digitPart? isMember more).map fun (digits, left) => (char :: digits, left)
        | [] => some ([char], [])
        | next :: more =>
            if isMember next then
              (digitPart? isMember (next :: more)).map fun (digits, left) => (char :: digits, left)
            else some ([char], next :: more)

def optionalDigits (chars : List Char) : Option (List Char × List Char) :=
  match chars with
  | [] => some ([], [])
  | first :: _ => if first.isDigit then digitPart? Char.isDigit chars else some ([], chars)

def isDigitIn (base : Nat) (char : Char) : Bool :=
  match Text.hexValue? char with
  | some value => value < base
  | none => false

def valueIn (base : Nat) (digits : List Char) : Nat :=
  ofDigits base (digits.map fun digit => (Text.hexValue? digit).getD 0)

def exponentPart (chars : List Char) : Option (List Char × List Char) :=
  match chars with
  | letter :: rest =>
      if letter != 'e' && letter != 'E' then some ([], chars)
      else
        let (mark, digits) := match rest with
          | '-' :: digits => (['-'], digits)
          | '+' :: digits => ([], digits)
          | digits => ([], digits)
        match digits with
        | first :: _ =>
            if first.isDigit then
              (digitPart? Char.isDigit digits).map fun (digits, left) =>
                ('e' :: mark ++ digits, left)
            else some ([], chars)
        | [] => some ([], chars)
  | [] => some ([], [])

/-- An integer in the decimal system; only zero itself may start with a zero. -/
def decimalInteger? (digits : List Char) : Option Constant :=
  if digits.length > maxDigits then none
  else if digits.head? == some '0' && digits.any (· != '0') then none
  else some (.integer (valueIn 10 digits))

def decimalNumber (chars : List Char) : Option (Constant × List Char) := do
  let (whole, rest) ← optionalDigits chars
  let (point, decimals, rest) ← match rest with
    | '.' :: rest => (optionalDigits rest).map fun (decimals, left) => (['.'], decimals, left)
    | _ => some ([], [], rest)
  let (exponent, rest) ← exponentPart rest
  if point.isEmpty && exponent.isEmpty then return (← decimalInteger? whole, rest)
  else return (.decimal (← readMagnitude (whole ++ point ++ decimals ++ exponent)), rest)

/-- The base that a letter behind a leading zero announces. -/
def baseOf? : Char → Option Nat
  | 'x' => some 16
  | 'X' => some 16
  | 'o' => some 8
  | 'O' => some 8
  | 'b' => some 2
  | 'B' => some 2
  | _ => none

def number (chars : List Char) : Option (Constant × List Char) := do
  let (value, rest) ← match chars with
    | '0' :: letter :: digits =>
        match baseOf? letter with
        | some base => do
            let digits := match digits with
              | '_' :: more => more
              | more => more
            let (digits, rest) ← digitPart? (isDigitIn base) digits
            pure (Constant.integer (valueIn base digits), rest)
        | none => decimalNumber chars
    | _ => decimalNumber chars
  match rest with
  | next :: _ => if isWordPart next then none else return (value, rest)
  | [] => return (value, rest)

/-! ### Texts -/

def escapeCode? : Char → Option Nat
  | '\\' => some 92
  | '\'' => some 39
  | '"' => some 34
  | 'a' => some 7
  | 'b' => some 8
  | 'f' => some 12
  | 'n' => some 10
  | 'r' => some 13
  | 't' => some 9
  | 'v' => some 11
  | _ => none

def hexWidth? (isOctets : Bool) : Char → Option Nat
  | 'x' => some 2
  | 'u' => if isOctets then none else some 4
  | 'U' => if isOctets then none else some 8
  | _ => none

/-- How a text is written: with escapes or without, as characters or octets, with places to fill in
or without, between which marks. -/
structure Quotation where
  isRaw : Bool
  isOctets : Bool
  isPattern : Bool
  mark : Char
  isLong : Bool

def Quotation.closes (quotation : Quotation) (chars : List Char) : Bool :=
  if quotation.isLong then chars.take 3 == List.replicate 3 quotation.mark
  else chars.head? == some quotation.mark

def Quotation.allows (quotation : Quotation) (char : Char) : Bool :=
  (quotation.isLong || char != '\n') && (!quotation.isOctets || char.toNat < 0x80)

/-- A name in braces: the code of the character that has it, and how many characters it takes. -/
def namedEscape? : List Char → Option (Nat × Nat)
  | '\x7b' :: rest => do
      let name := rest.takeWhile (· != '\x7d')
      let code ← Text.namedCode? name
      if (rest.drop name.length).isEmpty then none else return (code, name.length + 2)
  | _ => none

/-- What an escape of a code gives; a code beyond the last character is refused. -/
def Quotation.escaped? (quotation : Quotation) (code : Nat) : Option (List Char) :=
  if quotation.isOctets then some [Char.ofNat code]
  else if code < 0x110000 then some (Text.hold code)
  else none

/-- What stands in a text up to its closing marks, and what follows them. A brace in a pattern is
written twice; nothing is filled in. -/
def Quotation.body (quotation : Quotation) : List Char → Option (List Char × List Char)
  | [] => none
  | char :: rest =>
      let continueAfter (chars : List Char) (result : Option (List Char × List Char)) :=
        result.map fun (later, left) => (chars ++ later, left)
      let continueEscaped (code : Nat) (result : Option (List Char × List Char)) :=
        (quotation.escaped? code).bind fun chars => continueAfter chars result
      if quotation.closes (char :: rest) then
        some ([], rest.drop (if quotation.isLong then 2 else 0))
      else if char = '\\' then
        match rest with
        | [] => none
        | next :: after =>
            if quotation.isOctets && next.toNat ≥ 0x80 then none
            else if quotation.isRaw then continueAfter ['\\', next] (body quotation after)
            else if next = '\n' then body quotation after
            else match escapeCode? next with
              | some code => continueEscaped code (body quotation after)
              | none =>
                  let octal := (next :: after.take 2).takeWhile (isDigitIn 8)
                  if !octal.isEmpty then
                    let code := valueIn 8 octal
                    let code := if quotation.isOctets then code % 256 else code
                    continueEscaped code (body quotation (after.drop (octal.length - 1)))
                  else match hexWidth? quotation.isOctets next with
                    | some width =>
                        let digits := (after.take width).takeWhile (isDigitIn 16)
                        if digits.length = width then
                          continueEscaped (valueIn 16 digits) (body quotation (after.drop width))
                        else none
                    | none =>
                        if next = 'N' && !quotation.isOctets then
                          match namedEscape? after with
                          | some (code, width) =>
                              continueEscaped code (body quotation (after.drop width))
                          | none => none
                        else continueAfter ['\\', next] (body quotation after)
      else if quotation.isPattern && (char = '\x7b' || char = '\x7d') then
        if rest.head? = some char then continueAfter [char] (body quotation (rest.drop 1))
        else none
      else if quotation.allows char then continueAfter [char] (body quotation rest)
      else none
termination_by chars => chars.length
decreasing_by
  all_goals simp only [List.length_cons, List.length_drop]
  all_goals omega

def Quotation.constant (quotation : Quotation) (chars : List Char) : Constant :=
  if quotation.isOctets then .octets (chars.map fun char => UInt8.ofNat char.toNat)
  else .text (String.ofList chars)

/-- What the letters in front of a quotation mark say: whether the text is without escapes, whether
it is one of octets, and whether it is a pattern. -/
def quotationLetters? (letters : String) : Option (Bool × Bool × Bool) :=
  match letters.map Char.toLower with
  | "" => some (false, false, false)
  | "u" => some (false, false, false)
  | "r" => some (true, false, false)
  | "b" => some (false, true, false)
  | "br" => some (true, true, false)
  | "rb" => some (true, true, false)
  | "f" => some (false, false, true)
  | "fr" => some (true, false, true)
  | "rf" => some (true, false, true)
  | _ => none

def quotedConstant (letters : String) (mark : Char) (rest : List Char) :
    Option (Constant × List Char) := do
  let (isRaw, isOctets, isPattern) ← quotationLetters? letters
  let isLong := rest.take 2 == [mark, mark]
  let quotation : Quotation := ⟨isRaw, isOctets, isPattern, mark, isLong⟩
  let (chars, left) ← quotation.body (if isLong then rest.drop 2 else rest)
  return (quotation.constant chars, left)

/-! ### Lines -/

/-- The indentation of a line, and the line behind it. Where an indentation goes on behind a
backslash, that in front of the first backslash counts if there is any. -/
def indentation (column fixed : Nat) : List Char → Option (Nat × List Char)
  | ' ' :: rest => indentation (column + 1) fixed rest
  | '\t' :: rest => indentation (column + 1) fixed rest
  | '\x0c' :: rest => indentation 0 fixed rest
  | '\\' :: '\n' :: next :: rest =>
      indentation column (if fixed = 0 then column else fixed) (next :: rest)
  | '\\' :: _ => none
  | rest => some (if fixed = 0 then column else fixed, rest)

def maxDepth : Nat := 200

def isSign (char : Char) : Bool :=
  ",.|-+".toList.contains char

/-! ### Scanning -/

/-- The tokens of a text; `depth` counts the brackets that are open. At the start of a line blank
lines and comments are skipped, and outside brackets the line must not be indented. -/
def scan : Nat → Nat → Bool → List Char → Option (List Token)
  | 0, _, _, _ => none
  | fuel + 1, depth, true, chars => do
      let (column, rest) ← indentation 0 0 chars
      if rest.head? = some '#' || rest.head? = some '\n' then
        match rest.dropWhile (· != '\n') with
        | [] => scan fuel depth false []
        | _ :: rest => scan fuel depth true rest
      else if depth = 0 && column != 0 then none
      else scan fuel depth false rest
  | _ + 1, depth, false, [] => if depth = 0 then some [] else none
  | fuel + 1, depth, false, char :: rest =>
      let next (token : Token) (left : List Char) :=
        (scan fuel depth false left).map (token :: ·)
      if char = ' ' || char = '\t' || char = '\x0c' then scan fuel depth false rest
      else if char = '\n' then
        let later := scan fuel depth true rest
        if depth = 0 then later.map (.lineEnd :: ·) else later
      else if char = '#' then scan fuel depth false (rest.dropWhile (· != '\n'))
      else if char = '\\' then
        match rest with
        | '\n' :: after => if after.isEmpty then none else scan fuel depth false after
        | _ => none
      else if isWordStart char then
        let word := char :: rest.takeWhile isWordPart
        let behind := rest.dropWhile isWordPart
        match behind with
        | '\'' :: after => do
            let (constant, left) ← quotedConstant (String.ofList word) '\'' after
            next (.constant constant) left
        | '"' :: after => do
            let (constant, left) ← quotedConstant (String.ofList word) '"' after
            next (.constant constant) left
        | _ => do next (← wordToken? word) behind
      else if char = '\'' || char = '"' then do
        let (constant, left) ← quotedConstant "" char rest
        next (.constant constant) left
      else if char.isDigit || (char = '.' && (rest.head?.map Char.isDigit).getD false) then do
        let (constant, left) ← number (char :: rest)
        next (.constant constant) left
      else if char = '.' && rest.take 2 == ['.', '.'] then next (.constant .ellipsis) (rest.drop 2)
      else if char = '[' || char = '(' then
        if depth = maxDepth then none
        else (scan fuel (depth + 1) false rest).map (.sign char :: ·)
      else if char = ']' || char = ')' then
        if depth = 0 then none else (scan fuel (depth - 1) false rest).map (.sign char :: ·)
      else if isSign char then next (.sign char) rest
      else none

/-- The tokens of an expression, its line end and those behind it left out. -/
def tokens (text : String) : Option (List Token) := do
  let chars := Text.normaliseNewlines text.toList
  let all ← scan (2 * chars.length + 2) 0 true chars
  return (all.reverse.dropWhile (· = .lineEnd)).reverse

end RecordDocs.Annotation
