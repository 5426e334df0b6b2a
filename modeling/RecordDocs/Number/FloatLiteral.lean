import RecordDocs.Number.Integer
import RecordDocs.Number.Shortest

/-!
# Decimal literals of floating point numbers

A literal has digits with at most one point among them, then possibly an exponent; it denotes the
number nearest to its decimal.
-/

namespace RecordDocs.Number

def digitSpan : List Char → List Nat × List Char
  | [] => ([], [])
  | char :: rest =>
      match Text.digitValue? char with
      | some digit => let (digits, left) := digitSpan rest; (digit :: digits, left)
      | none => ([], char :: rest)

/-- An exponent part, which ends the literal; the empty text is the exponent zero. -/
def readExponent : List Char → Option Int
  | [] => some 0
  | letter :: rest =>
      if letter == 'e' || letter == 'E' then
        let (negative, unsigned) := splitSign rest
        match digitSpan unsigned with
        | ([], _) => none
        | (digits, []) =>
            let magnitude : Int := ofDigits 10 digits
            some (if negative then -magnitude else magnitude)
        | (_, _ :: _) => none
      else none

def readMagnitude (chars : List Char) : Option Binary64 :=
  let (whole, rest) := digitSpan chars
  let (decimals, rest) :=
    match rest with
    | '.' :: afterPoint => digitSpan afterPoint
    | _ => ([], rest)
  if whole.isEmpty && decimals.isEmpty then none
  else
    (readExponent rest).map fun exponent =>
      Binary64.ofDecimal (ofDigits 10 (whole ++ decimals)) (exponent - decimals.length)

def readNamed (chars : List Char) : Option Binary64 :=
  match String.ofList (chars.map Char.toLower) with
  | "inf" | "infinity" => some Binary64.infinity
  | "nan" => some Binary64.nan
  | _ => none

def readFloat (text : String) : Option Binary64 :=
  let chars := text.toList.dropWhile isLiteralBlank
  let (negative, unsigned) := splitSign (chars.reverse.dropWhile isLiteralBlank).reverse
  ((readMagnitude unsigned).or (readNamed unsigned)).map (Binary64.withSign negative)

end RecordDocs.Number
