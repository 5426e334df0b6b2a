import RecordDocs.DocNode
import RecordDocs.Proofs.JsonText

/-!
# Written trees

A tree that is written as a document value is read back with every label replaced by its text.
Texts are their own texts, so a tree labelled by texts is read back as it is; its value has nothing
in it but texts, lists and dictionaries with distinct names, so its JSON text is faithful as well.
-/

namespace RecordDocs.DocNode

variable {Label : Type}

/-! ### The members of a written node -/

def membersWith (name signature : Value) (docLines : List String) (children : List Value) :
    List (Key × Value) :=
  [(.text "name", name), (.text "type_signature", signature),
    (.text "doc_lines", .list (docLines.map .str)), (.text "children", .list children)]

theorem readLines_membersWith (name signature : Value) (docLines : List String)
    (children : List Value) :
    readLines (membersWith name signature docLines children) = .ok docLines := by
  have hlookup : lookup? "doc_lines" (membersWith name signature docLines children)
      = some (.list (docLines.map .str)) := by
    simp [membersWith, lookup?]
  have htexts : (docLines.map Value.str).map Value.asText = docLines := by
    rw [List.map_map]
    exact List.map_id docLines
  rw [readLines, hlookup]
  cases docLines with
  | nil => rfl
  | cons line lines =>
      change Except.ok (((line :: lines).map Value.str).map Value.asText) = _
      rw [htexts]

theorem ofValue_membersWith (name signature : Value) (docLines : List String)
    (children : List Value) :
    ofValue (.dict (membersWith name signature docLines children))
      = (ofValues children).map (.node name.asText signature.asText docLines) := by
  have hname : lookup? "name" (membersWith name signature docLines children) = some name := by
    simp [membersWith, lookup?]
  have hsignature : lookup? "type_signature" (membersWith name signature docLines children)
      = some signature := by
    simp [membersWith, lookup?]
  have hchildren : lookup? "children" (membersWith name signature docLines children)
      = some (.list children) := by
    simp [membersWith, lookup?]
  rw [ofValue, hname]
  simp only [hsignature, readLines_membersWith]
  split
  · rename_i hnone
    rw [hchildren] at hnone
    cases hnone
  · rename_i value hvalue
    rw [hchildren] at hvalue
    cases hvalue
    rw [ofChildren]
    rfl

/-! ### Reading back -/

mutual

theorem ofValue_toValue (label : Label → Value) (doc : DocNode Label) :
    ofValue (doc.toValue label) = .ok (doc.map fun own => (label own).asText) :=
  match doc with
  | .node name signature docLines children => by
      have hchildren := ofValues_toValues label children
      change ofValue (.dict (membersWith _ _ _ _)) = _
      rw [ofValue_membersWith, hchildren, map]
      rfl

theorem ofValues_toValues (label : Label → Value) (docs : List (DocNode Label)) :
    ofValues (toValues label docs) = .ok (mapAll (fun own => (label own).asText) docs) :=
  match docs with
  | [] => by rw [toValues, ofValues, mapAll]
  | doc :: rest => by
      have hdoc := ofValue_toValue label doc
      have hrest := ofValues_toValues label rest
      rw [toValues, ofValues, hdoc, hrest, mapAll]
      rfl

end

mutual

theorem map_id (doc : DocNode Label) : doc.map id = doc :=
  match doc with
  | .node name signature docLines children => by
      rw [map, mapAll_id children]
      rfl

theorem mapAll_id (docs : List (DocNode Label)) : mapAll id docs = docs :=
  match docs with
  | [] => rfl
  | doc :: rest => by rw [mapAll, map_id doc, mapAll_id rest]

end

theorem ofValue_toValue_str (doc : DocNode String) : ofValue (doc.toValue .str) = .ok doc :=
  (ofValue_toValue .str doc).trans (congrArg Except.ok (map_id doc))

theorem ofValues_toValues_str (docs : List (DocNode String)) :
    ofValues (toValues .str docs) = .ok docs :=
  (ofValues_toValues .str docs).trans (congrArg Except.ok (mapAll_id docs))

/-! ### Their values -/

theorem textual_membersWith {name signature : String} {docLines : List String}
    {children : List Value} (hchildren : ∀ child ∈ children, Json.Textual child) :
    Json.Textual (.dict (membersWith (.str name) (.str signature) docLines children)) := by
  have hlines : ∀ line ∈ docLines.map Value.str, Json.Textual line := by
    intro line hline
    obtain ⟨text, _, rfl⟩ := List.mem_map.mp hline
    exact .str text
  refine .dict ?_ ?_ ?_
  · simp [membersWith]
  · simp only [membersWith, List.forall_mem_cons]
    exact ⟨.str name, .str signature, .list hlines, .list hchildren, by simp⟩
  · simp [membersWith]

mutual

theorem textual_toValue (doc : DocNode String) : Json.Textual (doc.toValue .str) :=
  match doc with
  | .node _ _ _ children => textual_membersWith (textual_of_mem_toValues children)

theorem textual_of_mem_toValues (docs : List (DocNode String)) :
    ∀ value ∈ toValues .str docs, Json.Textual value :=
  match docs with
  | [] => by simp [toValues]
  | doc :: rest => by
      rw [toValues, List.forall_mem_cons]
      exact ⟨textual_toValue doc, textual_of_mem_toValues rest⟩

end

end RecordDocs.DocNode
