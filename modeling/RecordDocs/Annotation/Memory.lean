import RecordDocs.Annotation.Fault
import RecordDocs.Annotation.Sameness

/-!
# Remembered forms

What a word or a generic became with arguments is remembered, and the same subject with the same
arguments becomes it again. As forms that are written differently may be the same, a form can come
back in the spelling in which it was first made. What has not been asked for the longest is
forgotten first. Forms that cannot be told apart from others are made anew each time, and a fault
is not remembered.
-/

namespace RecordDocs.Annotation

/-- The ways of making forms that are remembered apart from each other. -/
inductive Shelf where
  | word
  | literal
  | generic
  | sequence
  | signature
  | declaration
  | notes
  /-- Arguments for what has some already. -/
  | again
  deriving DecidableEq, Repr

structure Recollection where
  shelf : Shelf
  subject : TypeForm
  index : TypeForm
  result : TypeForm

/-- What was asked for last comes first. -/
abbrev Memory := List Recollection

def TypeForm.listed : TypeForm → List TypeForm
  | .tuple items => items
  | form => [form]

namespace Shelf

def capacity : Nat := 128

/-- Whether two indices are the same to a shelf; the values of literals are so by kind as well. -/
def sameIndex (shelf : Shelf) (first second : TypeForm) : Bool :=
  match shelf with
  | literal =>
      let values := first.listed.zip second.listed
      first.listed.length == second.listed.length
        && values.all fun (value, other) => value.sameKind other && value.same other
  | _ => first.same second

end Shelf

namespace Recollection

def answers (entry : Recollection) (shelf : Shelf) (subject index : TypeForm) : Bool :=
  entry.shelf = shelf && entry.subject.same subject && shelf.sameIndex entry.index index

end Recollection

namespace Memory

def limited (shelf : Shelf) : Nat → Memory → Memory
  | _, [] => []
  | room, entry :: rest =>
      if entry.shelf ≠ shelf then entry :: limited shelf room rest
      else match room with
        | 0 => limited shelf 0 rest
        | room + 1 => entry :: limited shelf room rest

def add (memory : Memory) (entry : Recollection) : Memory :=
  limited entry.shelf Shelf.capacity (entry :: memory)

/-- Looks an answer up, and puts it first. -/
def answer? (memory : Memory) (shelf : Shelf) (subject index : TypeForm) :
    Option (TypeForm × Memory) :=
  match memory.find? (·.answers shelf subject index) with
  | some entry =>
      some (entry.result, entry :: memory.eraseP (·.answers shelf subject index))
  | none => none

end Memory

abbrev Forming := ExceptT Fault (StateM Memory)

/-- What a subject becomes with an index, from memory if it is there. -/
def remembered (shelf : Shelf) (subject index : TypeForm) (make : Forming TypeForm) :
    Forming TypeForm := do
  if !(subject.isHashable && index.isHashable) then make
  else match (← get).answer? shelf subject index with
    | some (result, memory) => do
        set memory
        return result
    | none => do
        let result ← make
        modify (·.add ⟨shelf, subject, index, result⟩)
        return result

end RecordDocs.Annotation
