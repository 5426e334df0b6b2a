import RecordDocs.Text.Blank
import RecordDocs.Text.Code
import RecordDocs.Text.Quoted

/-!
# Integer literals

Reading an integer from text: blanks around it, an optional sign, then digits of any script with
single underscores allowed between them. Decimal conversion in either direction is refused beyond
4300 digits; bases that are powers of two have no such limit.
-/

namespace RecordDocs.Number

/-- The most decimal digits that are converted between text and integer. -/
def maxDigits : Nat := 4300

inductive IntegerFault where
  | malformed (base : Nat) (text : String)
  | tooManyDigits (count : Nat)
  | unwritable
  deriving DecidableEq, Repr

def IntegerFault.message : IntegerFault → String
  | .malformed base text =>
      "invalid literal for int() with base " ++ toString base ++ ": "
        ++ String.ofList ((Text.quoteChars text.toList).take 200)
  | .tooManyDigits count =>
      "Exceeds the limit (4300 digits) for integer string conversion: value has "
        ++ toString count ++ " digits; use sys.set_int_max_str_digits() to increase the limit"
  | .unwritable =>
      "Exceeds the limit (4300 digits) for integer string conversion; "
        ++ "use sys.set_int_max_str_digits() to increase the limit"

/-- Blanks around an integer literal; the information separators are not among them. -/
def isLiteralBlank (char : Char) : Bool :=
  Text.isBlank char && !(28 ≤ char.toNat && char.toNat ≤ 31)

def digitIn? (base : Nat) (char : Char) : Option Nat :=
  let value? :=
    if 'a' ≤ char && char ≤ 'z' then some (char.toNat - 87)
    else if 'A' ≤ char && char ≤ 'Z' then some (char.toNat - 55)
    else Text.digitValue? char
  value?.filter (· < base)

/-- The longest run of digits at the front, and what follows it. An underscore has to stand between
two digits; `blocked` says that the previous character forbids one here. -/
def digitRun (base : Nat) (blocked : Bool) : List Char → Option (List Nat × List Char)
  | [] => if blocked then none else some ([], [])
  | char :: rest =>
      if char == '_' then
        if blocked then none else digitRun base true rest
      else match digitIn? base char with
        | some digit => (digitRun base false rest).map fun (digits, left) => (digit :: digits, left)
        | none => if blocked then none else some ([], char :: rest)

def ofDigits (base : Nat) (digits : List Nat) : Nat :=
  digits.foldl (fun value digit => value * base + digit) 0

def splitSign : List Char → Bool × List Char
  | '-' :: rest => (true, rest)
  | '+' :: rest => (false, rest)
  | chars => (false, chars)

def baseLetters : Nat → List Char
  | 2 => ['b', 'B']
  | 8 => ['o', 'O']
  | 16 => ['x', 'X']
  | _ => []

/-- Drops the announcement of the base, with the one underscore that may follow it. -/
def dropBase (base : Nat) : List Char → List Char
  | '0' :: letter :: rest =>
      if (baseLetters base).contains letter then
        match rest with
        | '_' :: digits => digits
        | digits => digits
      else '0' :: letter :: rest
  | chars => chars

def readInteger (base : Nat) (text : String) : Except IntegerFault Int :=
  let (negative, unsigned) := splitSign (text.toList.dropWhile isLiteralBlank)
  match digitRun base true (dropBase base unsigned) with
  | none => .error (.malformed base text)
  | some (digits, left) =>
      if base == 10 && digits.length > maxDigits then .error (.tooManyDigits digits.length)
      else if !left.all isLiteralBlank then .error (.malformed base text)
      else
        let magnitude : Int := ofDigits base digits
        .ok (if negative then -magnitude else magnitude)

/-- The integer with the bits of two integers; a negative one has all the bits that its complement
lacks. -/
def bitwiseOr : Int → Int → Int
  | .ofNat left, .ofNat right => .ofNat (left ||| right)
  | .ofNat left, .negSucc right => .negSucc (right ^^^ (right &&& left))
  | .negSucc left, .ofNat right => .negSucc (left ^^^ (left &&& right))
  | .negSucc left, .negSucc right => .negSucc (left &&& right)

def isWritable (value : Int) : Bool :=
  value.natAbs < Nat.pow 10 maxDigits

end RecordDocs.Number
