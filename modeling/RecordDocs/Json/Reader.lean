import RecordDocs.Number.FloatLiteral
import RecordDocs.Text.Surrogate
import RecordDocs.Value

/-!
# Reading JSON

The reader follows the grammar of the format, with three liberties: the names of the infinities and
of the number that is none are numbers, a member that occurs again replaces the value of the first,
and an escaped surrogate may be without a partner. An integer with more digits than are converted is
a fault of its own.
-/

namespace RecordDocs.Json

open Number Text

inductive Fault where
  | malformed
  | number (cause : IntegerFault)
  deriving DecidableEq, Repr

def isSpace (char : Char) : Bool :=
  char == ' ' || char == '\t' || char == '\n' || char == '\r'

def skipSpace (chars : List Char) : List Char :=
  chars.dropWhile isSpace

/-! ### Strings -/

def escapeCode? : Char → Option Nat
  | '"' => some 34
  | '\\' => some 92
  | '/' => some 47
  | 'b' => some 8
  | 'f' => some 12
  | 'n' => some 10
  | 'r' => some 13
  | 't' => some 9
  | _ => none

def hexCode? (a b c d : Char) : Option Nat := do
  [a, b, c, d].foldlM (fun code digit => (Text.hexValue? digit).map (code * 16 + ·)) 0

/-- The codes of a string whose opening quotation mark has been read, and what follows the closing
one. Control characters have to be escaped. -/
def readCodes : List Char → Option (List Nat × List Char)
  | [] => none
  | '"' :: rest => some ([], rest)
  | '\\' :: 'u' :: a :: b :: c :: d :: rest =>
      match hexCode? a b c d with
      | none => none
      | some code => (readCodes rest).map fun (codes, left) => (code :: codes, left)
  | '\\' :: letter :: rest =>
      match escapeCode? letter with
      | none => none
      | some code => (readCodes rest).map fun (codes, left) => (code :: codes, left)
  | char :: rest =>
      if char.toNat < 32 || char == '\\' then none
      else (readCodes rest).map fun (codes, left) => (char.toNat :: codes, left)

/-- What a text holds for the codes of its characters and escapes; a high surrogate and the low one
behind it are one character. -/
def pairSurrogates : List Nat → List Char
  | [] => []
  | high :: low :: rest =>
      if isHighSurrogate high && isLowSurrogate low then
        hold (joinSurrogates high low) ++ pairSurrogates rest
      else charOfCode high :: pairSurrogates (low :: rest)
  | [code] => [charOfCode code]

def readString (chars : List Char) : Option (String × List Char) :=
  (readCodes chars).map fun (codes, left) => (String.ofList (pairSurrogates codes), left)

/-! ### Numbers -/

def isDigit (char : Char) : Bool := '0' ≤ char && char ≤ '9'

def digitsOf (chars : List Char) : List Nat :=
  chars.map fun char => char.toNat - 48

/-- The whole part of a number: a zero alone, or digits that do not start with one. -/
def readWhole : List Char → Option (List Char × List Char)
  | '0' :: rest => some (['0'], rest)
  | chars =>
      match chars.takeWhile isDigit with
      | [] => none
      | digits => some (digits, chars.dropWhile isDigit)

def readDecimals : List Char → Option (List Char × List Char)
  | '.' :: rest =>
      match rest.takeWhile isDigit with
      | [] => none
      | digits => some (digits, rest.dropWhile isDigit)
  | _ => none

def readExponent : List Char → Option (Int × List Char)
  | letter :: rest =>
      if letter == 'e' || letter == 'E' then
        let (negative, unsigned) := splitSign rest
        match unsigned.takeWhile isDigit with
        | [] => none
        | digits =>
            let magnitude : Int := ofDigits 10 (digitsOf digits)
            some (if negative then -magnitude else magnitude, unsigned.dropWhile isDigit)
      else none
  | [] => none

/-- A number without its sign, and what follows it. One with decimals or an exponent is a floating
point number, any other an integer. -/
def readMagnitude (negative : Bool) (chars : List Char) : Except Fault (Value × List Char) :=
  match readWhole chars with
  | none => .error .malformed
  | some (whole, rest) =>
      let decimals? := readDecimals rest
      let (decimals, rest) := decimals?.getD ([], rest)
      let exponent? := readExponent rest
      let (exponent, rest) := exponent?.getD (0, rest)
      if decimals?.isSome || exponent?.isSome then
        let digits := ofDigits 10 (digitsOf (whole ++ decimals))
        let number := Binary64.ofDecimal digits (exponent - decimals.length)
        .ok (.float (Binary64.withSign negative number), rest)
      else if whole.length > maxDigits then .error (.number (.tooManyDigits whole.length))
      else
        let magnitude : Int := ofDigits 10 (digitsOf whole)
        .ok (.int (if negative then -magnitude else magnitude), rest)

/-! ### Values -/

def words : List (List Char × Value) :=
  [("null".toList, .null), ("true".toList, .bool true), ("false".toList, .bool false),
    ("NaN".toList, .float Binary64.nan), ("Infinity".toList, .float Binary64.infinity),
    ("-Infinity".toList, .float Binary64.infinity.neg)]

def readWord (chars : List Char) : Option (Value × List Char) :=
  words.findSome? fun (word, value) =>
    if word.isPrefixOf chars then some (value, chars.drop word.length) else none

def readScalar (chars : List Char) : Except Fault (Value × List Char) :=
  match readWord chars with
  | some found => .ok found
  | none =>
      match chars with
      | '-' :: rest => readMagnitude true rest
      | _ => readMagnitude false chars

mutual

/-- A value at the front of a text, and what follows it. Each step down spends fuel. -/
def readValue : Nat → List Char → Except Fault (Value × List Char)
  | 0, _ => .error .malformed
  | fuel + 1, chars =>
      match chars with
      | '"' :: rest =>
          match readString rest with
          | none => .error .malformed
          | some (text, left) => .ok (.str text, left)
      | '[' :: rest =>
          match skipSpace rest with
          | ']' :: left => .ok (.list [], left)
          | items => (readItems fuel items).map fun (items, left) => (.list items, left)
      | '\x7b' :: rest =>
          match skipSpace rest with
          | '\x7d' :: left => .ok (.dict [], left)
          | members =>
              (readMembers fuel members []).map fun (members, left) => (.dict members, left)
      | _ => readScalar chars

def readItems : Nat → List Char → Except Fault (List Value × List Char)
  | 0, _ => .error .malformed
  | fuel + 1, chars =>
      match readValue fuel chars with
      | .error fault => .error fault
      | .ok (item, rest) =>
          match skipSpace rest with
          | ']' :: left => .ok ([item], left)
          | ',' :: more =>
              (readItems fuel (skipSpace more)).map fun (items, left) => (item :: items, left)
          | _ => .error .malformed

/-- The members of an object that is not empty, up to its closing brace; `before` are those already
read. -/
def readMembers : Nat → List Char → List (Key × Value) →
    Except Fault (List (Key × Value) × List Char)
  | 0, _, _ => .error .malformed
  | fuel + 1, '"' :: chars, before =>
      match readString chars with
      | none => .error .malformed
      | some (name, rest) =>
          match skipSpace rest with
          | ':' :: rest =>
              match readValue fuel (skipSpace rest) with
              | .error fault => .error fault
              | .ok (value, rest) =>
                  let members := put (.text name) value before
                  match skipSpace rest with
                  | '\x7d' :: left => .ok (members, left)
                  | ',' :: more => readMembers fuel (skipSpace more) members
                  | _ => .error .malformed
          | _ => .error .malformed
  | _ + 1, _, _ => .error .malformed

end

def read (text : String) : Except Fault Value :=
  let chars := text.toList
  match readValue (2 * chars.length + 2) (skipSpace chars) with
  | .error fault => .error fault
  | .ok (value, rest) => if (skipSpace rest).isEmpty then .ok value else .error .malformed

end RecordDocs.Json
