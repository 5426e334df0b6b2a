import RecordDocs.AnnotatedClass
import RecordDocs.Proofs.Outcomes

/-!
# What counts in a lineage

Of all declarations of a name in the lineage of a class, that of the nearest class counts. What a
data class gathers need not be what counts, as a class with two bases can gather from the one what
the other has declared anew. In a line of data classes, where each class gathers from all behind it,
the two are one.
-/

namespace RecordDocs

open Annotation

namespace AnnotatedClass

variable {cls : AnnotatedClass} {name : String}

def declarations (cls : AnnotatedClass) : List (String × Attribute) :=
  cls.lineage.reverse.flatMap (·.attributes)

/-- The declarations that count; a nearer class has the last word. -/
def annotated (cls : AnnotatedClass) : List (String × Attribute) :=
  putAll [] cls.declarations

theorem mem_declarations_of_mem_annotated {entry : String × Attribute}
    (h : entry ∈ cls.annotated) : entry ∈ cls.declarations := by
  rcases mem_of_mem_putAll h with hnil | hmem
  · cases hnil
  · exact hmem

theorem mem_declarations_of_lookup {name : String} {member : Attribute}
    (h : cls.annotated.lookup name = some member) : (name, member) ∈ cls.declarations := by
  obtain ⟨front, behind, hannotated, -⟩ := List.lookup_eq_some_iff.mp h
  refine mem_declarations_of_mem_annotated ?_
  rw [hannotated]
  exact List.mem_append_right _ List.mem_cons_self

/-! ### Lines of data classes -/

/-- A line in which every class has gathered what all classes behind it have, and its own. -/
inductive IsLine : List ClassBody → Prop
  | nil : IsLine []
  | cons {body : ClassBody} {rest : List ClassBody}
      (hgathered : body.gathered = some (gather rest body.attributes)) (hrest : IsLine rest) :
      IsLine (body :: rest)

theorem gather_eq (ancestors : List ClassBody) (attributes : List (String × Attribute)) :
    gather ancestors attributes
      = putAll [] (ancestors.reverse.flatMap (·.gathered.getD []) ++ attributes) := by
  simp only [gather, putAll, List.foldl_append, List.foldl_flatMap]

theorem IsLine.lookup_eq {line : List ClassBody} (h : IsLine line) (name : String) :
    (putAll [] (line.reverse.flatMap (·.gathered.getD []))).lookup name
      = (putAll [] (line.reverse.flatMap (·.attributes))).lookup name := by
  induction h with
  | nil => rfl
  | @cons body rest hgathered hrest ih =>
      have hown : putAll [] (gather rest body.attributes) = gather rest body.attributes := by
        rw [gather_eq]
        exact putAll_of_nodup (nodup_keys_putAll _)
      rw [List.reverse_cons, List.flatMap_append, List.flatMap_append, List.flatMap_singleton,
        List.flatMap_singleton, lookup_putAll_append, lookup_putAll_append, hgathered,
        Option.getD_some, hown, gather_eq, lookup_putAll_append, ih, Option.or_assoc,
        Option.or_self]

/-- In a line of data classes what a class has gathered is what counts in its lineage. -/
theorem IsLine.counts (h : IsLine cls.lineage) :
    ∀ gathered, cls.body.gathered = some gathered →
      ∀ entry ∈ gathered, cls.annotated.lookup entry.1 = some entry.2 := by
  intro gathered hgathered entry hmem
  cases h with
  | cons hown hrest =>
      rw [hown] at hgathered
      obtain rfl := Option.some.inj hgathered
      rw [gather_eq] at hmem
      rw [← lookup_of_mem (nodup_keys_putAll _) hmem, lookup_putAll_append, hrest.lookup_eq,
        annotated, declarations, lineage, List.reverse_cons, List.flatMap_append,
        List.flatMap_singleton, lookup_putAll_append]

end AnnotatedClass

end RecordDocs
