import RecordDocs.Annotation.TypeForm
import RecordDocs.Number.Integer
import RecordDocs.Number.Shortest

/-!
# The wording of type forms

How a form is written out in full, as messages do and as a form without a name of its own is
rendered. Classes are worded differently on their own and as arguments; a union of two with the
null class has a name of its own. A form is not worded if an integer in it has too many digits.
-/

namespace RecordDocs.Annotation

def Constant.wording : Constant → String
  | .null => "None"
  | .ellipsis => "Ellipsis"
  | .flag value => if value then "True" else "False"
  | .integer value => toString value
  | .decimal value => value.text
  | .text value => Text.quoted value
  | .octets value => Text.quotedOctets value

def TypeForm.isParameters : TypeForm → Bool
  | .constant .ellipsis => true
  | .application (.qualifier .concatenate) _ => true
  | .list _ => true
  | .tuple _ => true
  | _ => false

/-- Whether the first of a signature's arguments stands for its parameters as a whole; otherwise
all but the last are its parameters. -/
def areWhole : List TypeForm → Bool
  | [parameters, _] => parameters.isParameters
  | _ => false

def Origin.wording : Origin → String
  | .named generic => "typing." ++ generic.name
  | .qualifier form => "typing." ++ form.name
  | .cls ref => ref.fullName

def Thing.wording : Thing → String
  | .function name _ isNative =>
      (if isNative then "<built-in function " else "<function ") ++ name ++ ">"
  | .module name => "<module '" ++ name ++ "'>"
  | .unnamed _ _ wording => wording

def isNullClass : TypeForm → Bool
  | .cls ref => ref = nullClass
  | _ => false

namespace TypeForm

/-- A tuple of one item has a comma behind it. -/
def tupleWording : List String → String
  | [item] => "(" ++ item ++ ",)"
  | items => "(" ++ ", ".intercalate items ++ ")"

/-- A union by name; one with the null class has a name of its own. -/
def unionWording (members : List TypeForm) (wordings : List String) : String :=
  match members, wordings with
  | [first, second], [firstWording, secondWording] =>
      if isNullClass first then "typing.Optional[" ++ secondWording ++ "]"
      else if isNullClass second then "typing.Optional[" ++ firstWording ++ "]"
      else "typing.Union[" ++ ", ".intercalate wordings ++ "]"
  | _, _ => "typing.Union[" ++ ", ".intercalate wordings ++ "]"

def argumentsWording (wordings : List String) : String :=
  if wordings.isEmpty then "[()]" else "[" ++ ", ".intercalate wordings ++ "]"

/-- A form as it is worded as an argument, given how it is worded on its own: a class by its full
name, an ellipsis by its dots, a function that is not native by its name. -/
def asArgument : TypeForm → String → String
  | .cls ref, _ => ref.fullName
  | .constant .ellipsis, _ => "..."
  | .special word, _ => "typing." ++ word.name
  | .thing (.function name _ false), _ => name
  | _, alone => alone

/-- A form as it is worded as an argument of a container class: any function by its full name, and
the class of such forms as on its own. -/
def asContent : TypeForm → String → String
  | .thing (.function name home _), _ => qualifiedName home name
  | .cls ref, alone => if ref = containerAliasClass then alone else ref.fullName
  | form, alone => asArgument form alone

def asMarked : TypeForm → String → String
  | .cls ref, _ => ref.name
  | .special word, alone => if word.isClass then word.name else alone
  | _, alone => alone

/-- An infixed union; the null class is worded as the constant. -/
def infixedWording (wordings : List String) : String :=
  " | ".intercalate (wordings.map fun wording =>
    if wording == nullClass.fullName then Constant.null.wording else wording)

mutual

def wording : TypeForm → String
  | .constant value => value.wording
  | .cls ref => "<class '" ++ ref.fullName ++ "'>"
  | .thing value => value.wording
  | .special word =>
      if word.isClass && word != .any then "<class 'typing." ++ word.name ++ "'>"
      else "typing." ++ word.name
  | .generic word => "typing." ++ word.name
  | .application (.qualifier .unpack) arguments => "*" ++ ", ".intercalate (itemWordings arguments)
  | .application origin arguments =>
      let wordings := argumentWordings arguments
      if origin.isSignature && !areWhole arguments then
        origin.wording ++ "[[" ++ ", ".intercalate wordings.dropLast ++ "], "
          ++ wordings.getLastD "" ++ "]"
      else origin.wording ++ argumentsWording wordings
  | .container ref arguments => ref.fullName ++ argumentsWording (contentWordings arguments)
  | .union isInfixed members =>
      if isInfixed then infixedWording (contentWordings members)
      else unionWording members (argumentWordings members)
  | .literal values => "typing.Literal" ++ argumentsWording (argumentWordings values)
  | .annotated base notes =>
      "typing.Annotated["
        ++ ", ".intercalate (asArgument base base.wording :: itemWordings notes) ++ "]"
  | .reference text _ => "ForwardRef(" ++ Text.quoted text ++ ")"
  | .typeVariable ref => ref.sign.toString ++ ref.name
  | .newType _ fullName => fullName
  | .initOnly inner => "dataclasses.InitVar[" ++ asMarked inner inner.wording ++ "]"
  | .list items => "[" ++ ", ".intercalate (itemWordings items) ++ "]"
  | .tuple items => tupleWording (itemWordings items)

def itemWordings : List TypeForm → List String
  | [] => []
  | item :: rest => item.wording :: itemWordings rest

def argumentWordings : List TypeForm → List String
  | [] => []
  | argument :: rest => asArgument argument argument.wording :: argumentWordings rest

def contentWordings : List TypeForm → List String
  | [] => []
  | content :: rest => asContent content content.wording :: contentWordings rest

end

/-! ### Integers that are too long to be written -/

mutual

def isWritable : TypeForm → Bool
  | .constant (.integer value) => Number.isWritable value
  | .application _ arguments => areWritable arguments
  | .container _ arguments => areWritable arguments
  | .union _ members => areWritable members
  | .literal values => areWritable values
  | .annotated base notes => base.isWritable && areWritable notes
  | .initOnly inner => inner.isWritable
  | .list items => areWritable items
  | .tuple items => areWritable items
  | _ => true

def areWritable : List TypeForm → Bool
  | [] => true
  | first :: rest => first.isWritable && areWritable rest

end

end TypeForm

end RecordDocs.Annotation
