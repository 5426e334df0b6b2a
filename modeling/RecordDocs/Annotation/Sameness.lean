import RecordDocs.Annotation.TypeForm
import RecordDocs.Number.Shortest

/-!
# Sameness of type forms

Two forms are the same if they denote the same; unions and literals do not depend on the order of
their members. Truth values and floating point numbers are the same as the integers that they are
equal to. A form with a list in it cannot be told apart from others by looking it up.
-/

namespace RecordDocs.Annotation

open Number

/-- The number that a constant is equal to, if it is one; truth values are numbers here. -/
def Constant.number? : Constant → Option Int
  | .flag value => some (if value then 1 else 0)
  | .integer value => some value
  | _ => none

/-- The number that an integral floating point number is equal to. -/
def integral? (value : Binary64) : Option Int :=
  if value.isNaN || value.isInfinite then none
  else
    let (numerator, denominator) := value.ratio
    if numerator % denominator = 0 then
      let magnitude : Int := numerator / denominator
      some (if value.isNegative then -magnitude else magnitude)
    else none

def Constant.same : Constant → Constant → Bool
  | .decimal first, .decimal second =>
      !first.isNaN && (first = second || (first.isZero && second.isZero))
  | .decimal first, second =>
      match integral? first, second.number? with
      | some first, some second => first == second
      | _, _ => false
  | first, .decimal second =>
      match first.number?, integral? second with
      | some first, some second => first == second
      | _, _ => false
  | first, second =>
      match first.number?, second.number? with
      | some first, some second => first == second
      | _, _ => first = second

namespace TypeForm

/-- Values in a literal differ also if they are equal but of different kinds. -/
def sameKind (first second : TypeForm) : Bool :=
  first.kind == second.kind

mutual

def same : TypeForm → TypeForm → Bool
  | .constant first, .constant second => first.same second
  | .cls first, .cls second => first = second
  | .thing first, .thing second => first = second
  | .special first, .special second => first = second
  | .generic first, .generic second => first = second
  | .application first arguments, .application second others =>
      first.same second && sameAll arguments others
  | .container first arguments, .container second others =>
      first = second && sameAll arguments others
  | .union _ members, .union _ others =>
      members.length == others.length && isWithin members others
  | .literal values, .literal others =>
      values.length == others.length && isWithinLiteral values others
  | .annotated base notes, .annotated other others => base.same other && sameAll notes others
  | .reference first _, .reference second _ => first == second
  | .typeVariable first, .typeVariable second => first = second
  | .newType _ first, .newType _ second => first == second
  | .list items, .list others => sameAll items others
  | .tuple items, .tuple others => sameAll items others
  | _, _ => false
termination_by structural first => first

def sameAll : List TypeForm → List TypeForm → Bool
  | [], [] => true
  | first :: rest, second :: others => first.same second && sameAll rest others
  | _, _ => false
termination_by structural forms => forms

def isWithin : List TypeForm → List TypeForm → Bool
  | [], _ => true
  | first :: rest, others => (others.any fun other => first.same other) && isWithin rest others
termination_by structural forms => forms

def isWithinLiteral : List TypeForm → List TypeForm → Bool
  | [], _ => true
  | first :: rest, others =>
      (others.any fun other => first.sameKind other && first.same other)
        && isWithinLiteral rest others
termination_by structural forms => forms

end

mutual

/-- Whether there is no list in the form; only such forms can be told apart in a union. -/
def isHashable : TypeForm → Bool
  | .application _ arguments => areHashable arguments
  | .container _ arguments => areHashable arguments
  | .union _ members => areHashable members
  | .literal values => areHashable values
  | .annotated base notes => base.isHashable && areHashable notes
  | .tuple items => areHashable items
  | .list _ => false
  | _ => true

def areHashable : List TypeForm → Bool
  | [] => true
  | first :: rest => first.isHashable && areHashable rest

end

end TypeForm

end RecordDocs.Annotation
