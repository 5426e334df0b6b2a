import RecordDocs.Proofs.BuildRuns
import RecordDocs.Service

/-!
# The same tree wherever it is published

A type can be asked for in three ways: of the library, of the service, and on the command line. The
service writes the nodes of an answer on its own terms, but what it writes is the value of the trees
that the library builds, and so is the member of the type in a document. All three know the same
types.
-/

namespace RecordDocs

open Command

/-! ### Answers of the service -/

namespace Service.AnswerNode

mutual

theorem toValue_ofDoc (doc : DocNode String) : (ofDoc doc).toValue = doc.toValue .str := by
  obtain ⟨name, signature, docLines, children⟩ := doc
  rw [ofDoc, toValue, toValues_ofDocs children, DocNode.toValue]

theorem toValues_ofDocs (docs : List (DocNode String)) :
    toValues (ofDocs docs) = DocNode.toValues .str docs := by
  match docs with
  | [] => rfl
  | doc :: rest =>
      rw [ofDocs, toValues, toValue_ofDoc doc, toValues_ofDocs rest, DocNode.toValues]

end

end Service.AnswerNode

namespace RecordTable

variable {table : RecordTable} {typeName : String} {wrapped : Bool} {query : List Char}
  {expansion : Expansion}

/-! ### Requests to the library -/

def request (typeName : String) (wrapped : Bool) : BuildRequest :=
  ⟨.str typeName, wrapped, none⟩

theorem answer_request (table : RecordTable) (typeName : String) (wrapped : Bool) :
    (request typeName wrapped).answer table
      = if wrapped then table.buildRoot typeName else table.build typeName [] := by
  rw [request, BuildRequest.answer, find, build, buildRoot]
  cases table.get? typeName with
  | none => cases wrapped <;> rfl
  | some record => cases wrapped <;> rfl

theorem answer_request_of_not_mem (wrapped : Bool) (h : typeName ∉ table.keys) :
    (request typeName wrapped).answer table = .error (.unknownType (.str typeName)) := by
  rw [answer_request, build, buildRoot, get?_eq_none_iff.mpr h]
  cases wrapped <;> rfl

theorem exists_answer_request (h : typeName ∈ table.keys) :
    ∃ fields whole node, (request typeName false).answer table = .ok fields ∧
      (request typeName true).answer table = .ok whole ∧
      whole.docs = [node] ∧ node.children = fields.docs := by
  obtain ⟨record, hget⟩ := exists_get?_of_mem_keys h
  refine ⟨table.expandRecord typeName record [],
    wrap record (table.expandRecord typeName record []),
    .node record.typeName record.typeName record.docLines
      (table.expandRecord typeName record []).docs, ?_, ?_, rfl, rfl⟩
  · rw [answer_request, if_neg Bool.false_ne_true, build, hget]
  · rw [answer_request, if_pos rfl, buildRoot, hget]

/-! ### Requests to the service -/

theorem answer_docs_of_ok (hquery : Service.wrapRoot query = some wrapped)
    (h : (request typeName wrapped).answer table = .ok expansion) :
    ((Service.Route.docs typeName).answer table query).status = 200 ∧
      ((Service.Route.docs typeName).answer table query).body
        = some (.dict [(.text "type_name", .str typeName),
            (.text "fields", .list (DocNode.toValues .str expansion.docs))]) := by
  rw [answer_request] at h
  have hanswer : (Service.Route.docs typeName).answer table query
      = .documentation typeName (Service.AnswerNode.ofDocs expansion.docs) := by
    rw [Service.Route.answer, hquery]
    dsimp only
    rw [Service.nodesOf, h]
    rfl
  rw [hanswer, Service.Response.body, Service.AnswerNode.toValues_ofDocs]
  exact ⟨rfl, rfl⟩

theorem answer_docs_of_error {cause : RootError} (hquery : Service.wrapRoot query = some wrapped)
    (h : (request typeName wrapped).answer table = .error cause) :
    (Service.Route.docs typeName).answer table query = .unknownType cause := by
  rw [answer_request] at h
  rw [Service.Route.answer, hquery]
  dsimp only
  rw [Service.nodesOf, h]
  rfl

/-! ### Members of a document -/

theorem rootValue_true {node : DocNode String}
    (h : (request typeName true).answer table = .ok expansion) (hdocs : expansion.docs = [node]) :
    table.rootValue true typeName = node.toValue .str := by
  rw [answer_request, if_pos rfl] at h
  rw [rootValue, publishRoot, if_pos rfl, h]
  change (expansion.docs.head?.map (DocNode.toValue .str)).getD .null = _
  rw [hdocs]
  rfl

theorem rootValue_false (h : (request typeName false).answer table = .ok expansion) :
    table.rootValue false typeName = .list (DocNode.toValues .str expansion.docs) := by
  rw [answer_request, if_neg Bool.false_ne_true] at h
  rw [rootValue, publishRoot, if_neg Bool.false_ne_true, h]
  rfl

theorem lookup?_publish (wrapped : Bool) {roots : List String}
    (hknown : ∀ root ∈ roots, root ∈ table.keys) (hroot : typeName ∈ roots) :
    ∃ members, (table.publish wrapped roots).members = .ok members ∧
      lookup? typeName members = some (table.rootValue wrapped typeName) := by
  refine ⟨_, members_publish wrapped hknown, ?_⟩
  apply lookup?_of_mem (nodup_keys_rootMembers (nodup_eraseDups roots))
  exact List.mem_map.mpr ⟨typeName, List.mem_eraseDups.mpr hroot, rfl⟩

/-! ### All ways -/

/-- **One tree, published in three ways.** What the library builds for a type is what the service
answers with and what a document holds for it: the nodes of its fields, or its own node, with the
same nodes below it. A type that is not known is refused by the library and not found by the
service, and a build on the command line ends with exit code one exactly if a type is requested that
is not known. Without such a type it prints its document, unless standard output refuses it. -/
theorem published_alike (table : RecordTable) (typeName : String) (wrapped : Bool)
    (query : List Char) (hquery : Service.wrapRoot query = some wrapped) :
    (typeName ∈ table.keys → ∃ fields whole node,
      (request typeName false).answer table = .ok fields ∧
      (request typeName true).answer table = .ok whole ∧
      whole.docs = [node] ∧ node.children = fields.docs ∧
      ((Service.Route.docs typeName).answer table query).status = 200 ∧
      ((Service.Route.docs typeName).answer table query).body
        = some (.dict [(.text "type_name", .str typeName), (.text "fields", .list
            (if wrapped then [node.toValue .str] else DocNode.toValues .str fields.docs))]) ∧
      ∀ roots, typeName ∈ roots → (∀ root ∈ roots, root ∈ table.keys) →
        ∃ members, (table.publish wrapped roots).members = .ok members ∧
          lookup? typeName members = some
            (if wrapped then node.toValue .str else .list (DocNode.toValues .str fields.docs))) ∧
    (typeName ∉ table.keys →
      (∀ whole, (request typeName whole).answer table = .error (.unknownType (.str typeName))) ∧
      ((Service.Route.docs typeName).answer table query).status = 404) ∧
    ∀ installation tree words options roots source,
      Invocation.ofWords words = .ok (.build options roots) →
      Finds installation tree options.source source → source.registry.table = table →
      requestedRoots source.settings roots ≠ [] →
      ((∃ outcome, run installation tree words = .ok outcome ∧ outcome.exitCode = some 1) ↔
        ∃ root ∈ requestedRoots source.settings roots, root ∉ table.keys) ∧
      (options.target = none → (∀ root ∈ requestedRoots source.settings roots, root ∈ table.keys) →
        ∃ members, (table.publish (options.wraps source.settings)
            (requestedRoots source.settings roots)).members = .ok members ∧
          (installation.output.refusal? (options.write source.settings members) = none →
            ∃ outcome, run installation tree words = .ok outcome ∧ outcome.exitCode = none ∧
              outcome.stdout = options.write source.settings members) ∧
          ∀ refused,
            installation.output.refusal? (options.write source.settings members) = some refused →
            run installation tree words = .error (.output refused)) := by
  refine ⟨fun hknown => ?_, fun hunknown => ?_,
    fun installation tree words options roots source hwords hfinds htable hne => ?_⟩
  · obtain ⟨fields, whole, node, hfields, hwhole, hdocs, hchildren⟩ := exists_answer_request hknown
    refine ⟨fields, whole, node, hfields, hwhole, hdocs, hchildren, ?_⟩
    cases wrapped with
    | true =>
        obtain ⟨hstatus, hbody⟩ := answer_docs_of_ok hquery hwhole
        rw [hdocs] at hbody
        refine ⟨hstatus, hbody, fun roots hroot hall => ?_⟩
        rw [if_pos rfl, ← rootValue_true hwhole hdocs]
        exact lookup?_publish true hall hroot
    | false =>
        obtain ⟨hstatus, hbody⟩ := answer_docs_of_ok hquery hfields
        refine ⟨hstatus, hbody, fun roots hroot hall => ?_⟩
        rw [if_neg Bool.false_ne_true, ← rootValue_false hfields]
        exact lookup?_publish false hall hroot
  · refine ⟨fun whole => answer_request_of_not_mem whole hunknown, ?_⟩
    rw [answer_docs_of_error hquery (answer_request_of_not_mem wrapped hunknown)]
    rfl
  · subst htable
    rw [run, hwords]
    refine ⟨⟨fun hfailed => ?_, fun hunknown => run_build_of_unknown hfinds hunknown⟩,
      fun htarget hknown => run_build_of_known hfinds hne hknown htarget⟩
    obtain ⟨outcome, hrun, hcode⟩ := hfailed
    exact unknown_of_run_build hfinds hne hrun hcode

/-- The ticket on the desk is known to the service, and can be built; a book is not, and cannot. -/
theorem desk_published_alike :
    (∃ fields, (request "Ticket" false).answer deskSource.registry.table = .ok fields ∧
      ((Service.Route.docs "Ticket").answer deskSource.registry.table []).body
        = some (.dict [(.text "type_name", .str "Ticket"),
            (.text "fields", .list (DocNode.toValues .str fields.docs))]) ∧
      ∃ members, (deskSource.registry.table.publish false ["Ticket"]).members = .ok members ∧
        lookup? "Ticket" members = some (.list (DocNode.toValues .str fields.docs))) ∧
    ((Service.Route.docs "Book").answer deskSource.registry.table []).status = 404 ∧
    ∃ outcome, run ⟨[], none, .stream⟩ desk ["build", "Book", "--schema", "s.json"] = .ok outcome ∧
      outcome.exitCode = some 1 := by
  have hquery : Service.wrapRoot [] = some false := by decide
  have hknown : ∀ root ∈ ["Ticket"], root ∈ deskSource.registry.table.keys := by decide
  have hwords : Invocation.ofWords ["build", "Book", "--schema", "s.json"]
      = .ok (.build (deskOptions none) ["Book"]) := by decide +kernel
  obtain ⟨hticket, -, -⟩ := published_alike deskSource.registry.table "Ticket" false [] hquery
  obtain ⟨fields, whole, node, hfields, -, -, -, -, hbody, hmember⟩ := hticket (by decide)
  obtain ⟨-, hbook, hbuilds⟩ := published_alike deskSource.registry.table "Book" false [] hquery
  obtain ⟨hexit, -⟩ :=
    hbuilds ⟨[], none, .stream⟩ desk _ _ _ _ hwords (finds_desk none) rfl (by decide)
  exact ⟨⟨fields, hfields, hbody, hmember ["Ticket"] (by decide) hknown⟩, (hbook (by decide)).2,
    hexit.mpr ⟨"Book", by decide, by decide⟩⟩

end RecordTable

end RecordDocs
