import RecordDocs.Yaml.Token

/-!
# Points in time

A date, possibly with a time of day and an offset from universal time. What counts as a point in
time is decided by its shape; whether the calendar and the clock have it is checked afterwards.
-/

namespace RecordDocs.Yaml

structure ClockTime where
  hour : Nat
  minute : Nat
  second : Nat
  /-- The offset in minutes, if one is written with a sign. -/
  offset : Option Int

structure Timestamp where
  year : Nat
  month : Nat
  day : Nat
  /-- Whether month and day have two digits each. -/
  padded : Bool
  time : Option ClockTime

namespace Timestamp

def digitsValue (digits : List Char) : Nat :=
  Number.ofDigits 10 (digits.map fun digit => digit.toNat - 48)

def readDigits (least most : Nat) (chars : List Char) : Option (List Char × List Char) :=
  let digits := (chars.takeWhile Char.isDigit).take most
  if digits.length < least then none else some (digits, chars.drop digits.length)

def readMark (mark : Char) : List Char → Option (List Char)
  | [] => none
  | char :: rest => if char == mark then some rest else none

def isTab (char : Char) : Bool := char == ' ' || char == '\t'

def readOffset (chars : List Char) : Option (Option Int) :=
  match chars with
  | [] => some none
  | _ =>
      match chars.dropWhile isTab with
      | ['Z'] => some none
      | sign :: rest => do
          if sign != '+' && sign != '-' then none
          let (hours, rest) ← readDigits 1 2 rest
          let minutes ← match rest with
            | [] => some 0
            | ':' :: rest =>
                match readDigits 2 2 rest with
                | some (minutes, []) => some (digitsValue minutes)
                | _ => none
            | _ => none
          let total : Int := digitsValue hours * 60 + minutes
          return some (if sign == '-' then -total else total)
      | [] => none

def readTime (chars : List Char) : Option ClockTime := do
  let chars ← match chars with
    | 'T' :: rest => some rest
    | 't' :: rest => some rest
    | char :: rest => if isTab char then some (rest.dropWhile isTab) else none
    | [] => none
  let (hour, rest) ← readDigits 1 2 chars
  let rest ← readMark ':' rest
  let (minute, rest) ← readDigits 2 2 rest
  let rest ← readMark ':' rest
  let (second, rest) ← readDigits 2 2 rest
  let rest := match rest with
    | '.' :: decimals => decimals.dropWhile Char.isDigit
    | _ => rest
  let offset ← readOffset rest
  return ⟨digitsValue hour, digitsValue minute, digitsValue second, offset⟩

def parse? (chars : List Char) : Option Timestamp := do
  let (year, rest) ← readDigits 4 4 chars
  let rest ← readMark '-' rest
  let (month, rest) ← readDigits 1 2 rest
  let rest ← readMark '-' rest
  let (day, rest) ← readDigits 1 2 rest
  let time ← match rest with
    | [] => some none
    | _ => (readTime rest).map some
  return ⟨digitsValue year, digitsValue month, digitsValue day,
    month.length == 2 && day.length == 2, time⟩

/-- A plain scalar is a point in time only if a date alone is written with all its digits. -/
def isImplicit (chars : List Char) : Bool :=
  match parse? chars with
  | none => false
  | some stamp => stamp.padded || stamp.time.isSome

def isLeap (year : Nat) : Bool :=
  year % 4 == 0 && (year % 100 != 0 || year % 400 == 0)

def daysIn (year month : Nat) : Nat :=
  if month == 2 then (if isLeap year then 29 else 28)
  else if month == 4 || month == 6 || month == 9 || month == 11 then 30
  else 31

/-- An offset of a day or more, as it is worded. -/
def offsetWording (minutes : Int) : String :=
  let seconds := minutes * 60
  let days := seconds.fdiv 86400
  let rest := seconds.fmod 86400
  "datetime.timedelta(days=" ++ toString days
    ++ (if rest == 0 then "" else ", seconds=" ++ toString rest) ++ ")"

def check (stamp : Timestamp) : Except Fault Unit := do
  if let some time := stamp.time then
    if let some offset := time.offset then
      if offset.natAbs ≥ 1440 then throw (.offsetRange (offsetWording offset))
  if stamp.year == 0 then throw (.yearRange stamp.year)
  if stamp.month == 0 || stamp.month > 12 then throw .monthRange
  if stamp.day == 0 || stamp.day > daysIn stamp.year stamp.month then throw .dayRange
  if let some time := stamp.time then
    if time.hour > 23 then throw .hourRange
    if time.minute > 59 then throw .minuteRange
    if time.second > 59 then throw .secondRange

end Timestamp

end RecordDocs.Yaml
