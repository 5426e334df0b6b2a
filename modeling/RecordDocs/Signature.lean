import RecordDocs.Text.Blank

/-!
# Type signatures

A signature such as `Map<Key, Entry>` has an outer name and a list of arguments between angle
brackets. Arguments are cut at the commas outside inner brackets and are not looked into: an
argument with brackets of its own is one token. A signature refers to a record when it names it
outright or when one of its arguments does.
-/

namespace RecordDocs

open Text

structure Signature where
  outer : String
  arguments : List String
  deriving DecidableEq, Repr

namespace Signature

def consPiece (char : Char) : List (List Char) → List (List Char)
  | [] => [[char]]
  | piece :: pieces => (char :: piece) :: pieces

/-- Cuts what follows the opening bracket at the commas outside inner brackets. The bracket that
closes the list has to be the last character; `depth` counts the inner brackets that are open. -/
def cutArguments (depth : Nat) : List Char → Option (List (List Char))
  | [] => none
  | char :: rest =>
      if char = '<' then (cutArguments (depth + 1) rest).map (consPiece char)
      else if char = '>' then
        match depth with
        | 0 => if rest.isEmpty then some [[]] else none
        | depth + 1 => (cutArguments depth rest).map (consPiece char)
      else if char = ',' ∧ depth = 0 then (cutArguments depth rest).map ([] :: ·)
      else (cutArguments depth rest).map (consPiece char)

def parseChars? (chars : List Char) : Option Signature :=
  let outer := chars.takeWhile (· ≠ '<')
  match chars.dropWhile (· ≠ '<') with
  | [] => none
  | _ :: body =>
      if outer.isEmpty || outer.contains '>' then none
      else (cutArguments 0 body).map fun pieces =>
        { outer := String.ofList (trim outer)
          arguments := pieces.map fun piece => String.ofList (trim piece) }

/-- Reads a signature; anything that is not one balanced parameter list after an outer name is
none. -/
def parse? (text : String) : Option Signature :=
  parseChars? (trim text.toList)

def render (signature : Signature) : String :=
  signature.outer ++ "<" ++ ", ".intercalate signature.arguments ++ ">"

end Signature

def distinctFrom (seen : List String) : List String → List String
  | [] => []
  | name :: rest =>
      if name ∈ seen then distinctFrom seen rest
      else name :: distinctFrom (name :: seen) rest

/-- The known names that a signature text refers to: the whole text if it is known, and otherwise
its known arguments, each once and in order. -/
def references (known : String → Bool) (text : String) : List String :=
  let name := strip text
  if name = "" then []
  else if known name then [name]
  else match Signature.parse? name with
    | none => []
    | some signature =>
        distinctFrom [] (signature.arguments.filter fun argument => argument ≠ "" && known argument)

end RecordDocs
