import RecordDocs.Annotation.Access

/-!
# Looking up what annotations mean

A scope says what names mean; names it does not know may be built in. In a scope an expression
denotes a form, and the references in a form are resolved to what their texts denote, as often as
needed: a text that denotes a text is looked up again.
-/

namespace RecordDocs.Annotation

/-- Names and what they mean; an earlier one hides a later one of its name. -/
abbrev Scope := List (String × TypeForm)

namespace Scope

def find? (scope : Scope) (name : String) : Option TypeForm :=
  (scope.lookup name).or (builtin? name)

mutual

/-- What an expression denotes; the first fault from the left decides. -/
def evaluate (scope : Scope) : Expression → Forming TypeForm
  | .name text =>
      match scope.find? text with
      | some form => return form
      | none => throw (.unknownName text)
  | .constant value => return .constant value
  | .attribute owner name => do
      let form ← scope.evaluate owner
      form.member name
  | .subscript owner index => do
      let form ← scope.evaluate owner
      form.subscript (← scope.evaluate index)
  | .call function arguments => do
      let form ← scope.evaluate function
      form.call (← scope.evaluateAll arguments)
  | .either left right => do
      let form ← scope.evaluate left
      form.either (← scope.evaluate right)
  | .negative operand => do
      let form ← scope.evaluate operand
      form.negate
  | .positive operand => do
      let form ← scope.evaluate operand
      form.affirm
  | .list items => return .list (← scope.evaluateAll items)
  | .tuple items => return .tuple (← scope.evaluateAll items)

def evaluateAll (scope : Scope) : List Expression → Forming (List TypeForm)
  | [] => return []
  | item :: rest => do
      let form ← scope.evaluate item
      return form :: (← scope.evaluateAll rest)

end

def evaluateText (scope : Scope) (text : String) : Forming TypeForm :=
  match Expression.read? text with
  | some expression => scope.evaluate expression
  | none => throw .illFormed

/-- What a source text denotes; blanks in front of it do not matter. -/
def evaluateSource (scope : Scope) (text : String) : Forming TypeForm :=
  let isMargin (char : Char) := char == ' ' || char == '\t'
  scope.evaluateText (String.ofList (text.toList.dropWhile isMargin))

end Scope

/-! ### References -/

namespace TypeForm

def asReference : TypeForm → Except Fault TypeForm
  | .constant (.text text) => ofText text false
  | form => .ok form

mutual

/-- The form in which references are resolved by `resolveText`. The texts among the arguments of a
container class are references; all of them are read before one is resolved. -/
def resolve (resolveText : String → Bool → Forming TypeForm) : TypeForm → Forming TypeForm
  | .reference text isQualified => resolveText text isQualified
  | .application origin arguments => do
      withParts (.application origin arguments) arguments (← resolveAll resolveText arguments)
  | .container ref arguments => do
      discard (arguments.mapM asReference : Except Fault (List TypeForm))
      withParts (.container ref arguments) arguments (← resolveContents resolveText arguments)
  | .union isInfixed members => do
      withParts (.union isInfixed members) members (← resolveAll resolveText members)
  | .literal values => do
      withParts (.literal values) values (← resolveAll resolveText values)
  | .annotated base notes => do
      withParts (.annotated base notes) [base] [← base.resolve resolveText]
  | form => return form

def resolveAll (resolveText : String → Bool → Forming TypeForm) :
    List TypeForm → Forming (List TypeForm)
  | [] => return []
  | form :: rest => do
      let form ← form.resolve resolveText
      return form :: (← resolveAll resolveText rest)

def resolveContents (resolveText : String → Bool → Forming TypeForm) :
    List TypeForm → Forming (List TypeForm)
  | [] => return []
  | .constant (.text text) :: rest => do
      let form ← resolveText text false
      return form :: (← resolveContents resolveText rest)
  | form :: rest => do
      let form ← form.resolve resolveText
      return form :: (← resolveContents resolveText rest)

end

mutual

/-- The length of the longest text in the parts of a form. A reference inside a text is shorter
than the text, so this bounds how deep they can lie inside each other. -/
def longestText : TypeForm → Nat
  | .constant (.text text) => text.length
  | .reference text _ => text.length
  | .application _ arguments => longestOf arguments
  | .container _ arguments => longestOf arguments
  | .union _ members => longestOf members
  | .literal values => longestOf values
  | .annotated base _ => base.longestText
  | _ => 0

def longestOf : List TypeForm → Nat
  | [] => 0
  | form :: rest => max form.longestText (longestOf rest)

end

end TypeForm

namespace Scope

/-- What the text of a reference denotes as a type, and its own references as well, to a depth of
`fuel`. -/
def resolveText (scope : Scope) : Nat → String → Bool → Forming TypeForm
  | 0, text, isQualified => return .reference text isQualified
  | fuel + 1, text, isQualified => do
      let form ← scope.evaluateText text
      let type ← form.check "Forward references must evaluate to types." isQualified
      type.resolve (resolveText scope fuel)

/-- The type that an annotation stands for where names mean what a scope says. The annotation may
be a text. -/
def resolve (scope : Scope) (declared : TypeForm) : Forming TypeForm := do
  let form ← declared.convert true
  form.resolve (scope.resolveText (declared.longestText + 1))

def hint (scope : Scope) (declared : TypeForm) : Forming TypeForm := do
  (← scope.resolve declared).withoutNotes

end Scope

end RecordDocs.Annotation
