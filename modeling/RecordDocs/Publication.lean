import RecordDocs.Expansion
import RecordDocs.Json.Writer
import RecordDocs.Settings
import RecordDocs.Yaml.Writer

/-!
# Publications

A publication is one document with a member for each requested root, in the order in which they
are first asked for: the list of a root's field nodes, or the one node of the root itself. The
first root that is not known ends it; the notes made until then are kept.
-/

namespace RecordDocs

/-- The members documented so far or the reason why there is no document, and all notes. -/
structure Publication where
  notes : List Note
  members : Except RootError (List (Key × Value))

namespace RecordTable

def publishRoot (table : RecordTable) (wrapRoot : Bool) (root : String) :
    Except RootError (Value × List Note) :=
  if wrapRoot then
    (table.buildRoot root).map fun expansion =>
      ((expansion.docs.head?.map (DocNode.toValue Value.str)).getD .null, expansion.notes)
  else
    (table.build root []).map fun expansion =>
      (.list (DocNode.toValues .str expansion.docs), expansion.notes)

/-- Documents roots one after the other; one that comes again replaces its own member. -/
def publishOnto (table : RecordTable) (wrapRoot : Bool) (members : List (Key × Value)) :
    List String → Publication
  | [] => ⟨[], .ok members⟩
  | root :: rest =>
      match table.publishRoot wrapRoot root with
      | .error cause => ⟨[], .error cause⟩
      | .ok (value, notes) =>
          let further := table.publishOnto wrapRoot (put (.text root) value members) rest
          { further with notes := notes ++ further.notes }

def publish (table : RecordTable) (wrapRoot : Bool) (roots : List String) : Publication :=
  table.publishOnto wrapRoot [] roots

end RecordTable

/-- The text of a document in a format; it always ends a line. -/
def OutputFormat.write (format : OutputFormat) (indent : Nat) (value : Value) : String :=
  match format with
  | .json => Json.write indent value ++ "\n"
  | .yaml => Yaml.write indent value

end RecordDocs
