import RecordDocs.Annotation.Wording
import RecordDocs.Text.Surrogate

/-!
# Faults of annotations

Why a form cannot be built, a name not looked up or a reference not read. Most faults only mean
that an annotation cannot be resolved where it stands; an attribute that is missing, a position
beyond an end, an integer too long to be written and a reference whose text cannot be read are
errors of their own.
-/

namespace RecordDocs.Annotation

inductive SequenceKind where
  | text
  | octets
  | list
  | tuple
  deriving DecidableEq, Repr

def SequenceKind.notIndexMessage (kind : String) : SequenceKind → String
  | .text => "string indices must be integers, not '" ++ kind ++ "'"
  | .octets => "byte indices must be integers or slices, not " ++ kind
  | .list => "list indices must be integers or slices, not " ++ kind
  | .tuple => "tuple indices must be integers or slices, not " ++ kind

def SequenceKind.outOfRangeMessage : SequenceKind → String
  | .text => "string index out of range"
  | .octets => "index out of range"
  | .list => "list index out of range"
  | .tuple => "tuple index out of range"

inductive Unfit where
  | argument (wording : String)
  | bareWord (wording : String)
  /-- Several forms where one is asked for. -/
  | several (place wording : String)
  | noMembers
  | nothingConcatenated
  /-- What is concatenated does not go on at its end. -/
  | closedConcatenation
  | noResult
  | noNotes
  | noVariables (word : String)
  | notVariables (word : String)
  | repeatedVariables (word : String)
  | appliedAlready (wording : String)
  | noParameters (wording : String)
  /-- `isLeast` says that a class asks for the expected arguments at the least. -/
  | argumentCount (wording : String) (isLeast : Bool) (actual expected : Nat)
  | notSubscriptable (subject : String)
  | notIndex (sequence : SequenceKind) (kind : String)
  | notCallable (subject : String)
  | notCombinable (left right : String)
  | notSigned (sign : Char) (kind : String)
  | unhashable (kind : String)
  | notText (wording : String)
  deriving DecidableEq, Repr

def Unfit.message : Unfit → String
  | .argument wording => wording ++ " is not valid as type argument"
  | .bareWord wording => "Plain " ++ wording ++ " is not valid as type argument"
  | .several place wording => place ++ " Got " ++ (wording.take 100).toString ++ "."
  | .noMembers => "Cannot take a Union of no types."
  | .nothingConcatenated => "Cannot take a Concatenate of no types."
  | .closedConcatenation =>
      "The last parameter to Concatenate should be a ParamSpec variable or ellipsis."
  | .noResult => "Callable must be used as Callable[[arg, ...], result]."
  | .noNotes =>
      "Annotated[...] should be used with at least two arguments (a type and an annotation)."
  | .noVariables word => "Parameter list to " ++ word ++ "[...] cannot be empty"
  | .notVariables word =>
      "Parameters to " ++ word
        ++ "[...] must all be type variables or parameter specification variables."
  | .repeatedVariables word => "Parameters to " ++ word ++ "[...] must all be unique"
  | .appliedAlready wording => "Cannot subscript already-subscripted " ++ wording
  | .noParameters wording => wording ++ " is not a generic class"
  | .argumentCount wording isLeast actual expected =>
      "Too " ++ (if actual > expected then "many" else "few") ++ " arguments for " ++ wording
        ++ "; actual " ++ toString actual ++ ", expected "
        ++ (if isLeast then "at least " else "") ++ toString expected
  | .notSubscriptable subject => subject ++ " is not subscriptable"
  | .notIndex sequence kind => sequence.notIndexMessage kind
  | .notCallable subject => subject ++ " is not callable"
  | .notCombinable left right =>
      "unsupported operand type(s) for |: '" ++ left ++ "' and '" ++ right ++ "'"
  | .notSigned sign kind =>
      "bad operand type for unary " ++ sign.toString ++ ": '" ++ kind ++ "'"
  | .unhashable kind => "unhashable type: '" ++ kind ++ "'"
  | .notText wording => "Forward reference must be a string -- got " ++ wording

inductive Fault where
  | unknownName (name : String)
  /-- A source text is no expression. -/
  | illFormed
  /-- A reference is no expression. -/
  | notExpression (text : String)
  | unfit (cause : Unfit)
  | noAttribute (subject member : String)
  /-- An attribute is missing of what only passes such questions on. -/
  | noMember (member : String)
  | emptyReference
  | nullCharacter
  | unencodable (run : Text.SurrogateRun)
  | outOfRange (sequence : SequenceKind)
  /-- A position is too large an integer. -/
  | oversizedIndex
  /-- An integer has too many digits to be written. -/
  | unwritable
  /-- What is to be unpacked is no tuple. -/
  | notUnpackable
  deriving DecidableEq, Repr

namespace Fault

def message : Fault → String
  | unknownName name => "name " ++ Text.quoted name ++ " is not defined"
  | illFormed => "invalid syntax"
  | notExpression text => "Forward reference must be an expression -- got " ++ Text.quoted text
  | unfit cause => cause.message
  | noAttribute subject member => subject ++ " has no attribute " ++ Text.quoted member
  | noMember member => member
  | emptyReference => SequenceKind.text.outOfRangeMessage
  | nullCharacter => "source code string cannot contain null bytes"
  | unencodable run => run.message
  | outOfRange sequence => sequence.outOfRangeMessage
  | oversizedIndex => "cannot fit 'int' into an index-sized integer"
  | unwritable => Number.IntegerFault.unwritable.message
  | notUnpackable => ""

/-- Whether an annotation with this fault is one that cannot be resolved, and not an error of its
own. -/
def isUnresolvable : Fault → Bool
  | unknownName _ => true
  | illFormed => true
  | notExpression _ => true
  | unfit _ => true
  | _ => false

end Fault

namespace TypeForm

/-- What messages call the form: a class by its name, anything else by its kind. -/
def subject : TypeForm → String
  | .cls ref => "type '" ++ ref.label ++ "'"
  | .special word => if word.isClass then "type '" ++ word.name ++ "'" else "typing." ++ word.name
  | form => "'" ++ form.kind ++ "' object"

def refuse {α : Type} (form : TypeForm) (cause : String → Unfit) : Except Fault α :=
  if form.isWritable then .error (.unfit (cause form.wording)) else .error .unwritable

end TypeForm

end RecordDocs.Annotation
