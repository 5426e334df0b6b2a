import RecordDocs.Annotation.Fault
import RecordDocs.Signature

/-!
# Signatures of annotations

A form as a signature: a class by its name, a form with arguments by the name of what it applies and
the signatures of its arguments between angle brackets. A union is headed by one word however it is
written. A signature's parameters are one argument, in square brackets. A form with an integer that
is too long to be written has no signature.
-/

namespace RecordDocs.Annotation

def Thing.signature : Thing → String
  | .function name _ _ => name
  | .module name => name
  | .unnamed _ _ wording => wording

namespace TypeForm

def bracketed (signatures : List String) : String :=
  "[" ++ ", ".intercalate signatures ++ "]"

/-- A head with the signatures of its arguments, which go without brackets if there are none. -/
def headed (head : String) (signatures : List String) : String :=
  if signatures.isEmpty then head else Signature.render ⟨head, signatures⟩

/-- The parameters of a signature in one and its result, given the signatures of its arguments as
items of a list and as arguments. -/
def grouped (items arguments : List String) : List String :=
  [bracketed items.dropLast, arguments.getLastD ""]

/-- A form's signature as an argument, given the one on its own: an ellipsis is three dots. -/
def dotted : TypeForm → String → String
  | .constant .ellipsis, _ => "..."
  | _, alone => alone

mutual

def signature : TypeForm → String
  | .constant .null => "None"
  | .constant (.text text) => Text.strip text
  | .constant value => value.wording
  | .cls ref => if ref = nullClass then "None" else ref.name
  | .thing value => value.signature
  | .special word => word.name
  | .generic word => word.origin
  | .application origin arguments =>
      let signatures := argumentSignatures arguments
      headed origin.name
        (if origin.isSignature && !areWhole arguments then
          grouped (itemSignatures arguments) signatures
        else signatures)
  | .container ref arguments => headed ref.name (argumentSignatures arguments)
  | .union _ members => headed "Union" (argumentSignatures members)
  | .literal values => Signature.render ⟨"Literal", itemWordings values⟩
  | .annotated base notes =>
      headed "Annotated" (dotted base base.signature :: argumentSignatures notes)
  | .reference text _ => text
  | .typeVariable ref => ref.name
  | .newType name _ => name
  | .initOnly inner => wording (.initOnly inner)
  | .list items => bracketed (itemSignatures items)
  | .tuple items => bracketed (itemSignatures items)

def itemSignatures : List TypeForm → List String
  | [] => []
  | item :: rest => item.signature :: itemSignatures rest

def argumentSignatures : List TypeForm → List String
  | [] => []
  | argument :: rest => dotted argument argument.signature :: argumentSignatures rest

end

def signature? (form : TypeForm) : Except Fault String :=
  if form.isWritable then .ok form.signature else .error .unwritable

end TypeForm

end RecordDocs.Annotation
