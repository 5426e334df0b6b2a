import RecordDocs.Annotation.Substitution
import RecordDocs.Annotation.Vocabulary

/-!
# Attributes and calls

What stands behind a point or in parentheses after a form. The words of the typing vocabulary are
its attributes; no other attribute is there, but which message says so depends on what the form
passes the question on to. A call gives the class of a form, or a reference.
-/

namespace RecordDocs.Annotation

namespace TypeForm

/-! ### Attributes -/

def isReservedMember (name : String) : Bool :=
  name.startsWith "__" && name.endsWith "__"

def missingOf (label name : String) : Fault :=
  .noAttribute ("type object '" ++ label ++ "'") name

def missingMember (name : String) : TypeForm → Fault
  | .cls ref => missingOf ref.label name
  | .special word => if word.isClass then missingOf word.name name else .noMember name
  | .generic word => if isReservedMember name then .noMember name else missingOf word.label name
  | .application (.named word) _ =>
      if isReservedMember name then .noMember name else missingOf word.label name
  | .application (.cls ref) _ =>
      if isReservedMember name then .noMember name else missingOf ref.label name
  | .application (.qualifier word) _ =>
      if isReservedMember name || !word.isClass then .noMember name else missingOf word.name name
  | .container ref _ => missingOf ref.label name
  | .union false _ => .noMember name
  | .literal _ => .noMember name
  | .annotated base _ => if isReservedMember name then .noMember name else missingMember name base
  | form => .noAttribute form.owner name

def member (form : TypeForm) (name : String) : Except Fault TypeForm :=
  match form with
  | .thing (.module module) =>
      if module ≠ typingName then .error (form.missingMember name)
      else match typingWord? name with
        | some word => .ok word
        | none => .error (form.missingMember name)
  | form => .error (form.missingMember name)

/-! ### Calls -/

def classOfKind (kind : String) : TypeForm :=
  if kind == nullClass.name then .cls nullClass
  else if kind == containerAliasClass.label then .cls containerAliasClass
  else if kind == infixedUnionClass.label then .cls infixedUnionClass
  else if kind == initOnlyClass.name then .cls initOnlyClass
  else if let some ref := typingClass? kind then .cls ref
  else (builtin? kind).getD (builtinClass .plain kind)

def classOf : TypeForm → TypeForm
  | .thing (.unnamed kind home _) => .cls (.ofModule home kind .plain 0)
  | form => classOfKind form.kind

/-- A form with arguments in parentheses behind it: the class of a form, or a reference. -/
def call (form : TypeForm) (arguments : List TypeForm) : Except Fault TypeForm :=
  match form, arguments with
  | .cls ref, [argument] =>
      if ref = .builtin "type" .container then .ok argument.classOf
      else if ref = referenceClass then
        match argument with
        | .constant (.text text) => ofText text false
        | argument => argument.refuse .notText
      else .error (.unfit (.notCallable form.subject))
  | form, _ => .error (.unfit (.notCallable form.subject))

end TypeForm

end RecordDocs.Annotation
