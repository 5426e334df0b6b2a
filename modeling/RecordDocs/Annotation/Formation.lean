import RecordDocs.Annotation.Expression
import RecordDocs.Annotation.Memory

/-!
# Forming types

What subscripts, alternatives and signs make of forms. Named generics and qualifiers ask for types
as arguments, so a text among them becomes a reference and a bare word with a meaning of its own is
refused; container classes take any arguments as they are. Unions flatten and keep the first of
members that are the same; one that is left with a single member is that member. What words and
generics make of their arguments is remembered.
-/

namespace RecordDocs.Annotation

namespace TypeForm

/-! ### References and types -/

/-- A text as a name or expression to be looked up later; it has to be an expression. -/
def ofText (text : String) (isQualified : Bool) : Except Fault TypeForm :=
  if text.isEmpty then .error .emptyReference
  else match Text.firstSurrogates? text.toList with
    | some run => .error (.unencodable run)
    | none =>
        if text.toList.contains '\x00' then .error .nullCharacter
        else match Expression.read? text with
          | none => .error (.notExpression text)
          | some _ => .ok (.reference text isQualified)

/-- The form that an argument stands for: the null constant for its class, a text for a
reference. -/
def convert (isQualified : Bool) : TypeForm → Except Fault TypeForm
  | .constant .null => .ok (.cls nullClass)
  | .constant (.text text) => ofText text isQualified
  | form => .ok form

/-- Whether an applied word is a type; qualifiers only are where they are allowed. -/
def isAllowed (isQualified : Bool) : SpecialForm → Bool
  | .generic => false
  | .protocol => false
  | .classVariable => isQualified
  | .final => isQualified
  | _ => true

def isAllowedBare (isQualified : Bool) : SpecialForm → Bool
  | .any => true
  | .annotated => true
  | .marker _ => true
  | .classVariable => isQualified
  | .final => isQualified
  | _ => false

/-- The form as a type, if it can be one; `place` is where it is asked for. -/
def check (place : String) (isQualified : Bool) (form : TypeForm) : Except Fault TypeForm := do
  let form ← form.convert isQualified
  match form with
  | .application (.qualifier word) _ =>
      if isAllowed isQualified word then return form else form.refuse .argument
  | .annotated (.special word) _ =>
      if isAllowed isQualified word then return form else form.refuse .argument
  | .special word => if isAllowedBare isQualified word then return form else form.refuse .bareWord
  | .tuple _ => form.refuse (.several place)
  | _ => return form

/-! ### Unions and literals -/

def distinctFrom (seen : List TypeForm) : List TypeForm → List TypeForm
  | [] => []
  | form :: rest =>
      if seen.any (same form) then distinctFrom seen rest
      else form :: distinctFrom (form :: seen) rest

/-- The kind of the first thing in a form that cannot be told apart. -/
def unhashable : Fault :=
  .unfit (.unhashable "list")

def alternatives : TypeForm → List TypeForm
  | .union _ members => members
  | form => [form]

def unionOf (forms : List TypeForm) : Except Fault TypeForm := do
  if forms.isEmpty then throw (.unfit .noMembers)
  let types ← forms.mapM (check "Union[arg, ...]: each arg must be a type." false)
  let members := types.flatMap alternatives
  if !areHashable members then throw unhashable
  match distinctFrom [] members with
  | [single] => return single
  | members => return .union false members

def formUnion (index : TypeForm) : Forming TypeForm :=
  remembered .word (.special .union) index (unionOf index.listed)

def formOptional (index : TypeForm) : Forming TypeForm :=
  remembered .word (.special .optional) index do
    let type ← index.check "typing.Optional requires a single type." false
    formUnion (.tuple [type, .cls nullClass])

def literalValues : TypeForm → List TypeForm
  | .literal values => values
  | form => [form]

def distinctValuesFrom (seen : List TypeForm) : List TypeForm → List TypeForm
  | [] => []
  | value :: rest =>
      if seen.any fun other => value.sameKind other && value.same other then
        distinctValuesFrom seen rest
      else value :: distinctValuesFrom (value :: seen) rest

/-- A literal of values; values that cannot be told apart are all kept. -/
def literalOf (forms : List TypeForm) : TypeForm :=
  let values := forms.flatMap literalValues
  .literal (if areHashable values then distinctValuesFrom [] values else values)

def formLiteral (index : TypeForm) : Forming TypeForm :=
  remembered .literal (.special .literal) index (return literalOf index.listed)

/-! ### Notes and qualifiers -/

/-- Values that are written out or built in have no module that notes could take over. -/
def hasNoModule : TypeForm → Bool
  | .constant _ => true
  | .list _ => true
  | .thing (.module _) => true
  | .thing (.unnamed _ home _) => home == builtinHome
  | _ => false

def owner : TypeForm → String
  | .thing (.module name) => "module '" ++ name ++ "'"
  | form => "'" ++ form.kind ++ "' object"

/-- A form with notes; notes on an annotated form follow those that it has. -/
def withNotes (base : TypeForm) (notes : List TypeForm) : Except Fault TypeForm :=
  match base with
  | .annotated inner earlier => .ok (.annotated inner (earlier ++ notes))
  | base =>
      if base.hasNoModule then .error (.noAttribute base.owner "__module__")
      else .ok (.annotated base notes)

def annotatedOf : TypeForm → Except Fault TypeForm
  | .tuple (base :: note :: notes) => do
      withNotes (← base.check "Annotated[t, ...]: t must be a type." true) (note :: notes)
  | _ => .error (.unfit .noNotes)

def formAnnotated (index : TypeForm) : Forming TypeForm :=
  remembered .notes (.special .annotated) index (annotatedOf index)

/-- What a qualifier says when it is given several forms. -/
def qualifierPlace : SpecialForm → String
  | .required => "Required accepts only a single type."
  | .notRequired => "NotRequired accepts only a single type."
  | word => "typing." ++ word.name ++ " accepts only single type."

def formQualifier (word : SpecialForm) (index : TypeForm) : Forming TypeForm :=
  remembered .word (.special word) index do
    return .application (.qualifier word) [← index.check (qualifierPlace word) false]

def isEllipsis : TypeForm → Bool
  | .constant .ellipsis => true
  | _ => false

def concatenationOf (forms : List TypeForm) : Except Fault TypeForm :=
  match forms.getLast? with
  | none => .error (.unfit .nothingConcatenated)
  | some last => do
      if !last.isEllipsis then throw (.unfit .closedConcatenation)
      let wanted := "Concatenate[arg, ...]: each arg must be a type."
      let types ← forms.dropLast.mapM (check wanted false)
      return .application (.qualifier .concatenate) (types ++ [last])

def formConcatenation (index : TypeForm) : Forming TypeForm :=
  remembered .word (.special .concatenate) index (concatenationOf index.listed)

/-! ### Declarations -/

def isTypeVariable : TypeForm → Bool
  | .typeVariable _ => true
  | _ => false

def declarationOf (word : SpecialForm) (forms : List TypeForm) : Except Fault TypeForm := do
  let parameters ← forms.mapM (convert false)
  if parameters.isEmpty then throw (.unfit (.noVariables word.name))
  if !parameters.all isTypeVariable then throw (.unfit (.notVariables word.name))
  if (distinctFrom [] parameters).length != parameters.length then
    throw (.unfit (.repeatedVariables word.name))
  return .application (.qualifier word) parameters

def formDeclaration (word : SpecialForm) (index : TypeForm) : Forming TypeForm :=
  remembered .declaration (.special word) index (declarationOf word index.listed)

/-! ### Applications -/

/-- Asks for as many arguments as a form takes; a class asks for them at the least. -/
def checkCount (form : TypeForm) (actual expected : Nat) : Except Fault Unit :=
  if expected = 0 then form.refuse .noParameters
  else if actual = expected then .ok ()
  else
    let isLeast := match form with
      | .cls _ => actual < expected
      | _ => false
    form.refuse fun wording => .argumentCount wording isLeast actual expected

/-- Arguments of any number; an ellipsis behind others says that the last goes on. -/
def sequenceArguments (forms : List TypeForm) : Except Fault (List TypeForm) :=
  match forms.getLast? with
  | some last =>
      if forms.length ≥ 2 && last.isEllipsis then
        (forms.dropLast.mapM (check "Tuple[t, ...]: t must be a type." false)).map (· ++ [last])
      else forms.mapM (check "Tuple[t0, t1, ...]: each t must be a type." false)
  | none => .ok []

def parametersOf (parameters : TypeForm) : Except Fault (List TypeForm) :=
  parameters.listed.mapM (convert false)

def asParameters : TypeForm → TypeForm
  | .list items => .tuple items
  | form => form

def formSignature (generic : GenericName) : TypeForm → Forming TypeForm
  | .tuple [parameters, result] =>
      let parameters := parameters.asParameters
      remembered .signature (.generic generic) (.tuple [parameters, result]) do
        let result ← result.check "Callable[args, result]: result must be a type." false
        return .application (.named generic) ((← parametersOf parameters) ++ [result])
  | _ => throw (.unfit .noResult)

def formApplication (generic : GenericName) (index : TypeForm) : Forming TypeForm :=
  match generic.arity with
  | .exactly count =>
      remembered .generic (.generic generic) index do
        let types ← index.listed.mapM fun form =>
          check "Parameters to generic types must be types." false form
        checkCount (.generic generic) types.length count
        return .application (.named generic) types
  | .anyNumber =>
      remembered .sequence (.generic generic) index do
        return .application (.named generic) (← sequenceArguments index.listed)
  | .signature => formSignature generic index

def formClassApplication (ref : ClassRef) (index : TypeForm) : Forming TypeForm :=
  match ref.kind with
  | .plain => throw (.unfit (.notSubscriptable (subject (.cls ref))))
  | .container => return .container ref index.listed
  | .initOnly => return .initOnly index
  | .generic count =>
      remembered .declaration (.cls ref) index do
        let arguments ← index.listed.mapM fun form => convert false form
        checkCount (.cls ref) arguments.length count
        return .application (.cls ref) arguments

/-! ### Alternatives -/

/-- What can be in an infixed union: classes, the null constant, classes with arguments and unions
of these. -/
def isClassLike : TypeForm → Bool
  | .constant .null => true
  | .cls _ => true
  | .special word => word.isClass
  | .container _ _ => true
  | .union isInfixed _ => isInfixed
  | _ => false

def isNamed : TypeForm → Bool
  | .special word => !word.isClass
  | .generic _ => true
  | .application _ _ => true
  | .union isInfixed _ => !isInfixed
  | .literal _ => true
  | .annotated _ _ => true
  | .reference _ _ => true
  | .typeVariable _ => true
  | .newType _ _ => true
  | _ => false

def isNull : TypeForm → Bool
  | .constant .null => true
  | _ => false

def infixedMembers : TypeForm → List TypeForm
  | .constant .null => [.cls nullClass]
  | form => form.alternatives

/-- Two truth values or integers combine by their bits. -/
def bitwise? : TypeForm → TypeForm → Option Constant
  | .constant (.flag left), .constant (.flag right) => some (.flag (left || right))
  | .constant left, .constant right => do
      return .integer (Number.bitwiseOr (← left.number?) (← right.number?))
  | _, _ => none

def either (left right : TypeForm) : Forming TypeForm :=
  if left.isClassLike && right.isClassLike && !(left.isNull && right.isNull) then
    match distinctFrom [] (left.infixedMembers ++ right.infixedMembers) with
    | [single] => return single
    | members => return .union true members
  else if left.isNamed || right.isNamed then formUnion (.tuple [left, right])
  else match bitwise? left right with
    | some value => return .constant value
    | none => throw (.unfit (.notCombinable left.kind right.kind))

def eitherAll : List TypeForm → Forming TypeForm
  | [] => throw (.unfit .noMembers)
  | first :: rest => rest.foldlM either first

/-! ### Signs -/

def negate : TypeForm → Except Fault TypeForm
  | .constant (.integer value) => .ok (.constant (.integer (-value)))
  | .constant (.flag value) => .ok (.constant (.integer (if value then -1 else 0)))
  | .constant (.decimal value) => .ok (.constant (.decimal value.neg))
  | form => .error (.unfit (.notSigned '-' form.kind))

def affirm : TypeForm → Except Fault TypeForm
  | .constant (.integer value) => .ok (.constant (.integer value))
  | .constant (.flag value) => .ok (.constant (.integer (if value then 1 else 0)))
  | .constant (.decimal value) => .ok (.constant (.decimal value))
  | form => .error (.unfit (.notSigned '+' form.kind))

/-! ### Positions -/

/-- The place that a position stands for; negative ones count from the end. -/
def place? (length : Nat) (position : Int) : Option Nat :=
  let place := if position < 0 then position + length else position
  if 0 ≤ place && place < length then some place.toNat else none

def maxPosition : Nat := 0x8000000000000000

def itemAt (sequence : SequenceKind) (items : List TypeForm) (index : TypeForm) :
    Except Fault TypeForm :=
  let position? := match index with
    | .constant value => value.number?
    | _ => none
  match position? with
  | none => .error (.unfit (.notIndex sequence index.kind))
  | some position =>
      if position ≥ maxPosition || position < -maxPosition then .error .oversizedIndex
      else match (place? items.length position).bind (items[·]?) with
        | some item => .ok item
        | none => .error (.outOfRange sequence)

def item (form index : TypeForm) : Except Fault TypeForm :=
  match form with
  | .constant (.text text) =>
      itemAt .text ((Text.characters text).map fun char => .constant (.text char)) index
  | .constant (.octets octets) =>
      itemAt .octets (octets.map fun octet => .constant (.integer octet.toNat)) index
  | .list items => itemAt .list items index
  | .tuple items => itemAt .tuple items index
  | form => .error (.unfit (.notSubscriptable form.subject))

end TypeForm

end RecordDocs.Annotation
