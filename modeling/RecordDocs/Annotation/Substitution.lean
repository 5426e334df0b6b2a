import RecordDocs.Annotation.Formation

/-!
# Substitution

Giving arguments to a form that has some already puts them in the place of its type variables. In
each part with type variables the arguments for them are given to the part in turn. A form can also
be built anew from other parts, as it is when the notes at its parts are left out.
-/

namespace RecordDocs.Annotation

namespace TypeForm

/-! ### Type variables -/

mutual

def typeVariables : TypeForm → List TypeVariable
  | .application _ arguments => allTypeVariables true arguments
  | .container _ arguments => allTypeVariables false arguments
  | .union isInfixed members => allTypeVariables (!isInfixed) members
  | .literal values => allTypeVariables true values
  | .annotated base _ => base.typeVariables
  | .typeVariable ref => [ref]
  | _ => []

/-- The type variables of all forms; `opensTuples` says that those inside of tuples count. -/
def allTypeVariables (opensTuples : Bool) : List TypeForm → List TypeVariable
  | [] => []
  | .tuple items :: rest =>
      (if opensTuples then allTypeVariables true items else [])
        ++ allTypeVariables opensTuples rest
  | form :: rest => form.typeVariables ++ allTypeVariables opensTuples rest

end

def parameters (form : TypeForm) : List TypeVariable :=
  form.typeVariables.eraseDups

/-! ### Arguments for type variables -/

abbrev Bindings := List (TypeVariable × TypeForm)

/-- The items that an unpacked form stands for; one that goes on at its end is kept as it is. -/
def unpacked (form : TypeForm) : Except Fault (List TypeForm) :=
  match form with
  | .application (.qualifier .unpack) [.application (.named word) items] =>
      if word.arity ≠ .anyNumber then .error .notUnpackable
      else if (items.getLast?.map isEllipsis).getD false then .ok [form]
      else .ok items
  | .application (.qualifier .unpack) [.annotated base _] =>
      if base.same (.cls (.builtin "tuple" .container)) then .ok [base] else .error .notUnpackable
  | .application (.qualifier .unpack) [.application _ _] => .error .notUnpackable
  | .application (.qualifier .unpack) [.literal _] => .error .notUnpackable
  | .application (.qualifier .unpack) [.union false _] => .error .notUnpackable
  | form => .ok [form]

/-- Container classes and infixed unions take arguments as they are. -/
def takesAnything : TypeForm → Bool
  | .container _ _ => true
  | .union isInfixed _ => isInfixed
  | _ => false

def bindings (form index : TypeForm) : Except Fault Bindings := do
  let parameters := form.parameters
  if parameters.isEmpty then form.refuse .noParameters
  else
    let given := index.listed
    let arguments ← if form.takesAnything then pure given else given.mapM (convert false)
    let arguments := (← arguments.mapM unpacked).flatten
    checkCount form arguments.length parameters.length
    return parameters.zip arguments

def isUnpacked : TypeForm → Bool
  | .application (.qualifier .unpack) _ => true
  | _ => false

def boundType (values : Bindings) (ref : TypeVariable) : Except Fault TypeForm := do
  let argument := (values.lookup ref).getD (.typeVariable ref)
  let type ← argument.check "Parameters to generic types must be types." false
  if type.isUnpacked then type.refuse .argument else return type

/-- A part with the arguments for its type variables; `again` gives them to it. -/
def substitutePart (values : Bindings) (form : TypeForm) (again : TypeForm → Forming TypeForm) :
    Forming TypeForm :=
  match form with
  | .typeVariable ref => boundType values ref
  | form =>
      let parameters := form.parameters
      if parameters.isEmpty then return form
      else again (.tuple (parameters.filterMap fun ref => values.lookup ref))

mutual

def applyAgain : TypeForm → TypeForm → Forming TypeForm
  | .application origin arguments, index =>
      remembered .again (.application origin arguments) index do
        if origin = .qualifier .generic || origin = .qualifier .protocol then
          refuse (.application origin arguments) .appliedAlready
        else
          let values ← bindings (.application origin arguments) index
          return .application origin (← substituteAll origin.isSignature values arguments)
  | .container ref arguments, index => do
      let values ← bindings (.container ref arguments) index
      return .container ref (← substituteAll false values arguments)
  | .union true members, index => do
      let values ← bindings (.union true members) index
      eitherAll (← substituteAll false values members)
  | .union false members, index =>
      remembered .again (.union false members) index do
        let values ← bindings (.union false members) index
        formUnion (.tuple (← substituteAll false values members))
  | .literal constants, index =>
      remembered .again (.literal constants) index do
        let values ← bindings (.literal constants) index
        return .literal (← substituteAll false values constants)
  | .annotated base notes, index =>
      remembered .again (.annotated base notes) index do
        let values ← bindings (.annotated base notes) index
        withNotes (← substitutePart values base fun inner => applyAgain base inner) notes
  | form, _ => throw (.unfit (.notSubscriptable form.subject))

/-- The parts with the arguments for their type variables. Tuples among them are kept, or their
items are taken out if `opensTuples` says so. -/
def substituteAll (opensTuples : Bool) (values : Bindings) :
    List TypeForm → Forming (List TypeForm)
  | [] => return []
  | .tuple items :: rest => do
      let parts := if opensTuples then items else [.tuple items]
      return parts ++ (← substituteAll opensTuples values rest)
  | form :: rest => do
      let part ← substitutePart values form fun inner => applyAgain form inner
      return part :: (← substituteAll opensTuples values rest)

end

/-! ### Other parts -/

def rebuild (form : TypeForm) (parts : List TypeForm) : Forming TypeForm :=
  match form with
  | .application origin _ => return .application origin parts
  | .container ref _ => return .container ref parts
  | .union isInfixed _ => if isInfixed then eitherAll parts else formUnion (.tuple parts)
  | .literal _ => return .literal parts
  | .annotated base notes => withNotes (parts.headD base) notes
  | form => return form

/-- The form with the parts it comes to have, which is the form itself if they are the same. -/
def withParts (form : TypeForm) (before after : List TypeForm) : Forming TypeForm :=
  if sameAll before after then return form else form.rebuild after

mutual

/-- The form without the notes and the marks of required members at it and at its parts. -/
def withoutNotes : TypeForm → Forming TypeForm
  | .annotated base _ => base.withoutNotes
  | .application (.qualifier .required) (inner :: _) => inner.withoutNotes
  | .application (.qualifier .notRequired) (inner :: _) => inner.withoutNotes
  | .application origin arguments => do
      withParts (.application origin arguments) arguments (← allWithoutNotes arguments)
  | .container ref arguments => do
      withParts (.container ref arguments) arguments (← allWithoutNotes arguments)
  | .union isInfixed members => do
      withParts (.union isInfixed members) members (← allWithoutNotes members)
  | .literal values => do
      withParts (.literal values) values (← allWithoutNotes values)
  | form => return form

def allWithoutNotes : List TypeForm → Forming (List TypeForm)
  | [] => return []
  | form :: rest => do
      let form ← form.withoutNotes
      return form :: (← allWithoutNotes rest)

end

/-! ### Subscripts -/

/-- What a word with a meaning of its own becomes with arguments. -/
def formWordApplication (word : SpecialForm) (index : TypeForm) : Forming TypeForm :=
  match word with
  | .annotated => formAnnotated index
  | .generic => formDeclaration word index
  | .protocol => formDeclaration word index
  | .union => formUnion index
  | .optional => formOptional index
  | .literal => formLiteral index
  | .concatenate => formConcatenation index
  | .any => throw (.unfit (.notSubscriptable (subject (.special word))))
  | .marker _ => throw (.unfit (.notSubscriptable (subject (.special word))))
  | word => formQualifier word index

def subscript (form index : TypeForm) : Forming TypeForm :=
  match form with
  | .cls ref => formClassApplication ref index
  | .special word => formWordApplication word index
  | .generic word => formApplication word index
  | .application _ _ => form.applyAgain index
  | .container _ _ => form.applyAgain index
  | .union _ _ => form.applyAgain index
  | .literal _ => form.applyAgain index
  | .annotated _ _ => form.applyAgain index
  | form => form.item index

end TypeForm

end RecordDocs.Annotation
