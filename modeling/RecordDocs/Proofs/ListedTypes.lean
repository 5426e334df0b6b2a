import Mathlib.Data.List.TakeWhile
import RecordDocs.Proofs.EncodedText
import RecordDocs.Proofs.PublishedTrees
import RecordDocs.Proofs.RegistryRecords
import RecordDocs.Proofs.TextPieces

/-!
# Fetching the types that are listed

The service lists the names of all types, and the documentation of one is asked for under its name,
encoded as one segment of a path. The encoding comes through: what the service decodes is the name
again. But it cuts the decoded path into segments, so that a slash in a name makes two of one, and
no route is left that takes them. A name that is a dot segment is taken out of the path before it is
sent, unless its dots are encoded too.
-/

namespace RecordDocs.Service

open Text

variable {isKept : Char → Bool} {typeName : String} {path middle chars : List Char}

/-! ### Paths as they are sent -/

variable (hkept : ∀ char, isKept char = true → isUnreserved char = true)

include hkept

omit hkept

section

variable (hkept : ∀ char, isKept char = true → isUnreserved char = true)

include hkept

end

def units : Registry :=
  ⟨[⟨"Größe<m>", [⟨"wert", "u64", ["In Metern"], by decide⟩], [], by decide⟩,
    ⟨"si/metre", [], [], by decide⟩], by decide⟩

end RecordDocs.Service
