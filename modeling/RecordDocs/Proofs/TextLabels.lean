import RecordDocs.Proofs.WrittenTrees

/-!
# Trees labelled by texts

A tree may be labelled by any values. When it is written and read back, every label has become a
text, so that the tree comes back as it was exactly if its labels were texts before. What has been
read is labelled by texts in any case: from then on, writing and reading change nothing any more.
-/

namespace RecordDocs.DocNode

variable {Label Other Third : Type}

def nodes (doc : DocNode Label) : List (DocNode Label) :=
  (doc.walk []).map Prod.snd

def IsLabelledByTexts (doc : DocNode Value) : Prop :=
  ∀ node ∈ doc.nodes,
    (∃ name, node.name = .str name) ∧ ∃ signature, node.signature = .str signature

/-! ### Nodes -/

mutual

theorem map_snd_walk (above : List Label) (doc : DocNode Label) :
    (doc.walk above).map Prod.snd = doc.nodes :=
  match doc with
  | .node name signature docLines children => by
      rw [nodes, walk, walk, List.map_cons, List.map_cons,
        map_snd_walkAll (above ++ [name]) children, map_snd_walkAll ([] ++ [name]) children]

theorem map_snd_walkAll (above : List Label) (docs : List (DocNode Label)) :
    (walkAll above docs).map Prod.snd = docs.flatMap nodes :=
  match docs with
  | [] => rfl
  | doc :: rest => by
      rw [walkAll, List.map_append, map_snd_walk above doc, map_snd_walkAll above rest,
        List.flatMap_cons]

end

theorem nodes_node (name signature : Label) (docLines : List String)
    (children : List (DocNode Label)) :
    (node name signature docLines children).nodes
      = .node name signature docLines children :: children.flatMap nodes := by
  rw [nodes, walk, List.map_cons, map_snd_walkAll]

/-! ### Mapped labels -/

mutual

theorem map_map (f : Other → Third) (g : Label → Other) (doc : DocNode Label) :
    (doc.map g).map f = doc.map (f ∘ g) :=
  match doc with
  | .node name signature docLines children => by
      rw [map, map, map, mapAll_mapAll f g children]
      rfl

theorem mapAll_mapAll (f : Other → Third) (g : Label → Other) (docs : List (DocNode Label)) :
    mapAll f (mapAll g docs) = mapAll (f ∘ g) docs :=
  match docs with
  | [] => rfl
  | doc :: rest => by
      rw [mapAll, mapAll, mapAll, map_map f g doc, mapAll_mapAll f g rest]

end

mutual

theorem map_eq_self_iff (f : Label → Label) (doc : DocNode Label) :
    doc.map f = doc ↔
      ∀ node ∈ doc.nodes, f node.name = node.name ∧ f node.signature = node.signature :=
  match doc with
  | .node label signature docLines children => by
      rw [map, nodes_node, List.forall_mem_cons, ← mapAll_eq_self_iff f children]
      constructor
      · intro heq
        injection heq with hname hsignature _ hchildren
        exact ⟨⟨hname, hsignature⟩, hchildren⟩
      · rintro ⟨⟨hname, hsignature⟩, hchildren⟩
        simp only [name, DocNode.signature] at hname hsignature
        rw [hname, hsignature, hchildren]

theorem mapAll_eq_self_iff (f : Label → Label) (docs : List (DocNode Label)) :
    mapAll f docs = docs ↔
      ∀ node ∈ docs.flatMap nodes,
        f node.name = node.name ∧ f node.signature = node.signature :=
  match docs with
  | [] => by simp [mapAll]
  | doc :: rest => by
      rw [mapAll, List.cons.injEq, map_eq_self_iff f doc, mapAll_eq_self_iff f rest,
        List.flatMap_cons, List.forall_mem_append]

end

/-! ### Reading back -/

/-- A value is its own text only if it is a text: the wording of any other value is a text as well,
and so not that value. -/
theorem str_asText_eq_iff (value : Value) :
    Value.str value.asText = value ↔ ∃ text, value = .str text := by
  constructor
  · intro heq
    exact ⟨value.asText, heq.symm⟩
  · rintro ⟨text, rfl⟩
    rfl

theorem map_str_asText_eq_iff (doc : DocNode Value) :
    (doc.map Value.asText).map Value.str = doc ↔ doc.IsLabelledByTexts := by
  rw [map_map, map_eq_self_iff]
  simp only [Function.comp_apply, str_asText_eq_iff]
  rfl

mutual

/-- The comparison of a tree of values with a tree of texts is equality of their labels as values.
-/
theorem agrees_iff (doc : DocNode Value) (tree : DocNode String) :
    doc.agrees tree = true ↔ tree.map Value.str = doc :=
  match doc, tree with
  | .node name signature docLines children, .node otherName otherSignature otherLines others => by
      have hlabel : ∀ (text : String) (value : Value),
          Value.isText text value = true ↔ Value.str text = value := by
        intro text value
        cases value with
        | str own => simp [Value.isText, eq_comm (a := own)]
        | _ => simp [Value.isText]
      rw [agrees, map, Bool.and_eq_true, Bool.and_eq_true, Bool.and_eq_true, hlabel, hlabel,
        agreesAll_iff children others, beq_iff_eq, node.injEq, eq_comm (a := docLines), and_assoc,
        and_assoc]

theorem agreesAll_iff (docs : List (DocNode Value)) (trees : List (DocNode String)) :
    agreesAll docs trees = true ↔ mapAll Value.str trees = docs :=
  match docs, trees with
  | [], [] => by simp [agreesAll, mapAll]
  | [], _ :: _ => by simp [agreesAll, mapAll]
  | _ :: _, [] => by simp [agreesAll, mapAll]
  | doc :: rest, tree :: others => by
      rw [agreesAll, mapAll, Bool.and_eq_true, agrees_iff doc tree, agreesAll_iff rest others,
        List.cons.injEq]

end

instance (doc : DocNode Value) (tree : DocNode String) : Decidable (tree.map Value.str = doc) :=
  decidable_of_iff _ (agrees_iff doc tree)

/-- **Reading undoes writing exactly on texts.** A tree labelled by any values is read back as it
was if and only if every node has texts for its name and its signature. Whatever value a tree is
read from, the value that is written for the tree is read as the same tree, which is written as the
same value again. -/
theorem reads_back_iff_isLabelledByTexts :
    (∀ doc : DocNode Value,
      (∃ tree, ofValue (doc.toValue id) = .ok tree ∧ tree.map Value.str = doc) ↔
        doc.IsLabelledByTexts) ∧
    ∀ payload tree, ofValue payload = .ok tree →
      ofValue (tree.toValue .str) = .ok tree ∧
        ∀ again, ofValue (tree.toValue .str) = .ok again →
          again.toValue .str = tree.toValue .str := by
  constructor
  · intro doc
    have hread : ofValue (doc.toValue id) = .ok (doc.map Value.asText) := ofValue_toValue id doc
    rw [← map_str_asText_eq_iff, hread]
    constructor
    · rintro ⟨tree, htree, heq⟩
      cases htree
      exact heq
    · intro heq
      exact ⟨_, rfl, heq⟩
  · intro payload tree _
    have hread := ofValue_toValue_str tree
    refine ⟨hread, fun again hagain => ?_⟩
    rw [hread] at hagain
    cases hagain
    rfl

def numbered : DocNode Value :=
  .node (.int 5) (.str "u8") ["One", ""] [.node (.str "low") (.str "bit") [] []]

def byHand : Value :=
  .dict [(.text "name", .int 5), (.text "doc_lines", .str "ab"),
    (.text "children", .list [.dict [(.text "name", .str "low"), (.text "doc_lines", .null)]])]

/-- What is read in the place of the number is its text, so the numbered node does not come back.
The node that is written by hand is read, and stays what it has been read as. -/
theorem numbered_is_lost_byHand_stays :
    (¬ ∃ tree, ofValue (numbered.toValue id) = .ok tree ∧ tree.map Value.str = numbered) ∧
      ofValue byHand = .ok (.node "5" "" ["a", "b"] [.node "low" "" [] []]) ∧
      ofValue ((node "5" "" ["a", "b"] [.node "low" "" [] []]).toValue .str)
        = .ok (.node "5" "" ["a", "b"] [.node "low" "" [] []]) := by
  have hnumbered : ¬ numbered.IsLabelledByTexts := by
    intro htexts
    obtain ⟨⟨name, hname⟩, -⟩ := htexts numbered (by simp [numbered, nodes_node])
    cases hname
  have hread : ofValue byHand = .ok (.node "5" "" ["a", "b"] [.node "low" "" [] []]) := by
    simp [byHand, ofValue, ofChildren, ofValues, readLines, lookup?, Value.isVoid,
      Value.elementTexts, Value.asText, Value.wording, Except.map]
    decide +kernel
  refine ⟨?_, hread, (reads_back_iff_isLabelledByTexts.2 byHand _ hread).1⟩
  rw [reads_back_iff_isLabelledByTexts.1 numbered]
  exact hnumbered

end RecordDocs.DocNode
