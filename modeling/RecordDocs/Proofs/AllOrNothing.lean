import RecordDocs.Proofs.BuildRuns

/-!
# A run is all or nothing

Whatever ends a run before it delivers, nothing has been printed and no file has changed by then:
the settings, the schema and all roots come first, and they are read and documented by quiet steps.
What is delivered does not depend on where to, so a file gets the text that would have been printed.
-/

namespace RecordDocs.Command

open Command.Step Text

variable {installation : Installation} {tree : FileTree} {invocation : Invocation}

/-! ### Commands -/

theorem quiet_loadSource (installation : Installation) (options : SourceOptions) :
    Quiet (loadSource installation options) := by
  refine quiet_get.bind fun before => ?_
  refine (quiet_ofResult _).bind fun settings => ?_
  refine (quiet_ofResult _).bind fun loaded => ?_
  exact (quiet_report _).bind fun _ => quiet_pure _

theorem quiet_compose (source : Source) (options : BuildOptions) (roots : List String) :
    Quiet (compose source options roots) := by
  rw [compose]
  split
  · exact quiet_throw _
  · refine (quiet_report _).bind fun _ => ?_
    exact (quiet_ofResult _).bind fun members => quiet_pure _

theorem quiet_draft (installation : Installation) (options : BuildOptions) (roots : List String) :
    Quiet (draft installation options roots) := by
  refine (quiet_loadSource installation options.source).bind fun source => ?_
  exact (quiet_compose source options _).bind fun text => quiet_pure _

/-- How an invocation breaks off, and what it has done by then: before it delivers, at a name that
standard output refuses, at a file that cannot be written, or in one that has been emptied for a
text that has no encoding. -/
inductive BreaksOff (installation : Installation) (tree : FileTree) :
    Invocation → RunError → Progress → Prop where
  | early {invocation : Invocation} {cause : RunError} {progress : Progress}
      (stdout_eq : progress.stdout = "") (tree_eq : progress.tree = tree) :
      BreaksOff installation tree invocation cause progress
  | atName {options : SourceOptions} {source : Source} {listed rest : List String} {name : String}
      {run : SurrogateRun} {progress : Progress} (finds : Finds installation tree options source)
      (names_eq : source.registry.typeNames = listed ++ name :: rest)
      (takes : ∀ line ∈ listed, installation.output.refusal? (line ++ "\n") = none)
      (refuses : installation.output.refusal? (name ++ "\n") = some run)
      (stdout_eq : progress.stdout = lines listed) (tree_eq : progress.tree = tree) :
      BreaksOff installation tree (.types options) (.output run) progress
  | atFile {options : BuildOptions} {roots : List String} {path : Path} {failure : FileError}
      {progress : Progress} (target_eq : options.target = some path)
      (stdout_eq : progress.stdout = "") (keeps : tree.KeepsFiles progress.tree) :
      BreaksOff installation tree (.build options roots) (.file failure) progress
  | inFile {options : BuildOptions} {roots : List String} {path : Path} {text : Draft}
      {middle progress : Progress} {run : SurrogateRun} (target_eq : options.target = some path)
      (drafts : (draft installation options roots).run (.start tree) = (.ok text, middle))
      (bars : firstSurrogates? text.text.toList = some run) (stdout_eq : progress.stdout = "")
      (empties : tree.HasWritten progress.tree path "") :
      BreaksOff installation tree (.build options roots) (.file (.unencodable run)) progress

theorem Step.Quiet.breaksOff {α : Type} {step : Step α} {outcome : Except RunError α}
    {cause : RunError} {progress : Progress} (h : Quiet step)
    (hrun : step.run (.start tree) = (outcome, progress)) :
    BreaksOff installation tree invocation cause progress := by
  obtain ⟨hstdout, htree⟩ := h.of_run_eq hrun
  exact .early hstdout htree

theorem breaksOff_build {options : BuildOptions} {roots : List String} {cause : RunError}
    {progress : Progress}
    (h : (build installation options roots).run (.start tree) = (.error cause, progress)) :
    BreaksOff installation tree (.build options roots) cause progress := by
  rcases run_bind_eq_error h with hdraft | ⟨text, middle, hdraft, hdeliver⟩
  · exact (quiet_draft installation options roots).breaksOff hdraft
  · obtain ⟨hstdout, htree⟩ := (quiet_draft installation options roots).of_run_eq hdraft
    obtain ⟨hprinted, ⟨-, hkept⟩ | ⟨path, failure, htarget, rfl, hfile⟩⟩ := deliver_failed hdeliver
    · exact .early (hprinted.trans hstdout) (hkept.trans htree)
    · rw [htree] at hfile
      rcases hfile with hkeeps | ⟨run, hbars, rfl, hempties⟩
      · exact .atFile htarget (hprinted.trans hstdout) hkeeps
      · exact .inFile htarget hdraft hbars (hprinted.trans hstdout) hempties

theorem breaksOff_types {options : SourceOptions} {cause : RunError} {progress : Progress}
    (h : (listTypes installation options).run (.start tree) = (.error cause, progress)) :
    BreaksOff installation tree (.types options) cause progress := by
  rcases run_bind_eq_error h with hsource | ⟨source, middle, hsource, hlines⟩
  · exact (quiet_loadSource installation options).breaksOff hsource
  · obtain ⟨hstdout, htree⟩ := (quiet_loadSource installation options).of_run_eq hsource
    obtain ⟨listed, name, rest, run, hnames, htakes, hrefuses, rfl, hprinted, hkept⟩ :=
      printLines_failed hlines
    refine .atName (finds_of_run_loadSource hsource) hnames htakes hrefuses ?_ (hkept.trans htree)
    rw [hprinted, hstdout]
    exact String.empty_append

theorem breaksOff_serve {options : ServeOptions} {cause : RunError} {progress : Progress}
    (h : (serve installation options).run (.start tree) = (.error cause, progress)) :
    BreaksOff installation tree (.serve options) cause progress := by
  rcases run_bind_eq_error h with hsource | ⟨source, middle, hsource, hstart⟩
  · exact (quiet_loadSource installation options.source).breaksOff hsource
  · obtain ⟨hstdout, htree⟩ := (quiet_loadSource installation options.source).of_run_eq hsource
    split at hstart
    · cases hstart
      exact .early hstdout htree
    · cases hstart

theorem execute_failed {progress : Progress} {cause : RunError}
    (h : invocation.execute installation tree = (.error cause, progress)) :
    BreaksOff installation tree invocation cause progress := by
  cases invocation with
  | build options roots => exact breaksOff_build h
  | types options => exact breaksOff_types h
  | serve options => exact breaksOff_serve h

theorem BreaksOff.of_isReported {cause : RunError} {progress : Progress}
    (h : BreaksOff installation tree invocation cause progress) (hreported : cause.isReported) :
    progress.stdout = "" ∧ progress.tree = tree := by
  cases h with
  | early hstdout htree => exact ⟨hstdout, htree⟩
  | atName => cases hreported
  | atFile => cases hreported
  | inFile => cases hreported

/-! ### Builds -/

theorem execute_build_eq_ok {options : BuildOptions} {roots : List String} {progress : Progress}
    (h : (Invocation.build options roots).execute installation tree = (.ok (), progress)) :
    ∃ text middle, (draft installation options roots).run (.start tree) = (.ok text, middle) ∧
      middle.stdout = "" ∧ middle.tree = tree ∧
      (deliver installation.output options.target text).run middle = (.ok (), progress) := by
  obtain ⟨text, middle, hdraft, hdeliver⟩ := run_bind_eq_ok h
  obtain ⟨hstdout, htree⟩ := (quiet_draft installation options roots).of_run_eq hdraft
  exact ⟨text, middle, hdraft, hstdout, htree, hdeliver⟩

theorem tree_eq_of_run_build {options : BuildOptions} {roots : List String} {outcome : Outcome}
    (h : (Invocation.build options roots).run installation tree = .ok outcome)
    (hcode : outcome.exitCode = none) (htarget : options.target = none) : outcome.tree = tree := by
  obtain ⟨progress, hexecute, -, htree⟩ := run_eq_ok_none h hcode
  obtain ⟨text, middle, -, -, hmiddle, hdeliver⟩ := execute_build_eq_ok hexecute
  rw [htarget] at hdeliver
  rw [htree, tree_eq_of_run_print hdeliver, hmiddle]

/-- With a file to write to, a build prints nothing, and the file gets what is printed without. -/
theorem hasWritten_of_run_build {options : BuildOptions} {roots : List String} {outcome : Outcome}
    {path : Path} (h : (Invocation.build options roots).run installation tree = .ok outcome)
    (hcode : outcome.exitCode = none) (htarget : options.target = some path) :
    outcome.stdout = "" ∧ ∃ printed,
      (Invocation.build { options with output := none } roots).run installation tree
        = .ok printed ∧
      printed.exitCode = none ∧ tree.HasWritten outcome.tree path printed.stdout := by
  obtain ⟨progress, hexecute, hstdout, htree⟩ := run_eq_ok_none h hcode
  obtain ⟨text, middle, hdraft, hmiddleStdout, hmiddleTree, hdeliver⟩ :=
    execute_build_eq_ok hexecute
  rw [htarget] at hdeliver
  obtain ⟨hdelivered, hencodes, hwritten⟩ := hasWritten_of_deliver hdeliver
  rw [← draft_without_output] at hdraft
  have hplain := execute_build_of_draft hdraft (target_eq_none (.inl rfl))
    (installation.output.refusal?_of_encodes hencodes)
  obtain ⟨printed, hprinted, hnormal, hprintedStdout, -⟩ := run_of_execute_eq_ok hplain
  refine ⟨?_, printed, hprinted, hnormal, ?_⟩
  · rw [hstdout, hdelivered, hmiddleStdout]
  · rw [htree, hprintedStdout, hmiddleStdout, String.empty_append, ← hmiddleTree]
    exact hwritten

/-! ### Command lines -/

theorem run_failed {words : List String} {outcome : Outcome} {code : Nat}
    (h : run installation tree words = .ok outcome) (hcode : outcome.exitCode = some code)
    (hne : code ≠ 0) : outcome.stdout = "" ∧ outcome.tree = tree := by
  rw [run] at h
  cases hwords : Invocation.ofWords words with
  | error stop =>
      rw [hwords] at h
      cases stop with
      | help program =>
          cases h
          cases hcode
          exact absurd rfl hne
      | usage program fault =>
          cases h
          exact ⟨rfl, rfl⟩
  | ok invocation =>
      rw [hwords] at h
      obtain ⟨cause, progress, hexecute, hreported, hstdout, htree⟩ := run_eq_ok_some h hcode
      rw [hstdout, htree]
      exact (execute_failed hexecute).of_isReported hreported

/-- A run that ends with an exit code other than zero has printed nothing and changed nothing. One
that an unreported error ends has broken off early, or in what it delivers: then a build has printed
nothing and at most emptied its file, and the names in front of the first refused one are listed.
A build that comes to its end changes no file if it has none to write to; if it has one, it prints
nothing, and the file holds what the build prints without. -/
theorem run_all_or_nothing (installation : Installation) (tree : FileTree) (words : List String) :
    (∀ outcome code, run installation tree words = .ok outcome → outcome.exitCode = some code →
      code ≠ 0 → outcome.stdout = "" ∧ outcome.tree = tree) ∧
    (∀ invocation cause progress, Invocation.ofWords words = .ok invocation →
      invocation.execute installation tree = (.error cause, progress) →
      BreaksOff installation tree invocation cause progress) ∧
    ∀ options roots outcome, Invocation.ofWords words = .ok (.build options roots) →
      run installation tree words = .ok outcome → outcome.exitCode = none →
      (options.output = none ∨ options.output = some "" → outcome.tree = tree) ∧
      ∀ file, options.output = some file → file ≠ "" →
        outcome.stdout = "" ∧ ∃ printed,
          (Invocation.build { options with output := none } roots).run installation tree
            = .ok printed ∧
          (∀ plain, Invocation.ofWords plain = .ok (.build { options with output := none } roots) →
            run installation tree plain = .ok printed) ∧
          printed.exitCode = none ∧
          tree.HasWritten outcome.tree (.ofString file) printed.stdout := by
  refine ⟨fun outcome code => run_failed, fun invocation cause progress _ => execute_failed,
    fun options roots outcome hwords hrun hcode => ?_⟩
  rw [run, hwords] at hrun
  refine ⟨fun hnone => tree_eq_of_run_build hrun hcode (target_eq_none hnone),
    fun file hfile hne => ?_⟩
  obtain ⟨hstdout, printed, hprinted, hnormal, hwritten⟩ :=
    hasWritten_of_run_build hrun hcode (target_eq_some hfile hne)
  refine ⟨hstdout, printed, hprinted, fun plain hplain => ?_, hnormal, hwritten⟩
  rw [run, hplain]
  exact hprinted

theorem run_build_desk_file :
    ∃ outcome, (Invocation.build (deskOptions (some "out/ticket.json")) ["Ticket"]).run
        ⟨[], none, .stream⟩ desk = .ok outcome ∧ outcome.exitCode = none := by
  let made := desk.withNode ["desk", "out"] .directory
  have hmake : desk.makeDirectory ⟨"", ["out"]⟩ = .ok made := rfl
  have hmakeAll : desk.makeDirectories ⟨"", ["out"]⟩ = (made, .ok ()) := by
    rw [FileTree.makeDirectories, hmake]
  have hwrite : made.writeText ⟨"", ["out", "ticket.json"]⟩
      (deskSource.knownDraft (deskOptions (some "out/ticket.json")) ["Ticket"]).text
      = (made.withNode ["desk", "out", "ticket.json"]
          (.file (encodeUtf8 "\x7b\n  \"Ticket\": []\n\x7d\n")), .ok ()) := by
    rw [text_desk]
    decide +kernel
  have htarget : (deskOptions (some "out/ticket.json")).target
      = some ⟨"", ["out", "ticket.json"]⟩ := by with_unfolding_all rfl
  obtain ⟨outcome, hrun, hcode, -⟩ := run_build_of_writeText (finds_desk _)
    (by decide) (by decide) htarget hmakeAll hwrite
  exact ⟨outcome, hrun, hcode⟩

def halvedDesk : FileTree :=
  ⟨["desk"], [], [(["desk"], .directory), (["desk", "out.json"], .file (encodeUtf8 "kept")),
    (["desk", "s.json"], .file (encodeUtf8
      "\x7b\"records\": \x7b\"Memo\": \x7b\"doc\": \"\\ud800\"\x7d\x7d\x7d"))]⟩

def halvedSource : Source where
  settings := .standard ⟨"/", ["desk"]⟩
  registry := ⟨[⟨"Memo", [], [String.singleton (charOfCode 0xD800)], by decide⟩],
    List.nodup_cons.mpr ⟨List.not_mem_nil, List.nodup_nil⟩⟩

def halvedOptions : BuildOptions :=
  ⟨⟨⟨false, false⟩, some "s.json", "."⟩, none, true, some "out.json"⟩

theorem finds_halvedDesk :
    Finds ⟨[], none, .stream⟩ halvedDesk halvedOptions.source halvedSource where
  settings_eq := by
    change Settings.load halvedDesk (.ofString ".") = .ok halvedSource.settings
    decide +kernel
  registry_eq := by
    have hload : ((loadSchema ⟨[], none, .stream⟩ halvedDesk halvedOptions.source
        halvedSource.settings).map (·.registry)).toOption = some halvedSource.registry := by
      decide +kernel
    exact eq_ok_of_toOption hload

theorem rootValue_halvedDesk : halvedSource.registry.table.rootValue true "Memo"
    = .dict [(.text "name", .str "Memo"), (.text "type_signature", .str "Memo"),
        (.text "doc_lines", .list [.str (String.singleton (charOfCode 0xD800))]),
        (.text "children", .list [])] := by
  simp [RecordTable.rootValue, RecordTable.publishRoot, RecordTable.buildRoot, RecordTable.get?,
    RecordTable.expandRecord, RecordTable.expandFields, RecordTable.wrap, halvedSource,
    Registry.table, Except.map, Expansion.empty, DocNode.toValue, DocNode.toValues]

theorem firstSurrogates?_halvedDesk :
    firstSurrogates? (halvedSource.knownDraft halvedOptions ["Memo"]).text.toList
      = some ⟨90, 0xD800, 1⟩ := by
  have htext : (halvedSource.knownDraft halvedOptions ["Memo"]).text
      = Json.write 2 (.dict [(.text "Memo", halvedSource.registry.table.rootValue true "Memo")])
        ++ "\n" := rfl
  rw [htext, rootValue_halvedDesk, Json.write, String.toList_append, String.toList_ofList]
  decide

theorem execute_halvedDesk :
    ∃ messages, (Invocation.build halvedOptions ["Memo"]).execute ⟨[], none, .stream⟩ halvedDesk
      = (.error (.file (.unencodable ⟨90, 0xD800, 1⟩)), ⟨messages, "",
          halvedDesk.withNode ["desk", "out.json"] (.file []), none⟩) := by
  have hmake : halvedDesk.makeDirectories ⟨"", []⟩ = (halvedDesk, .ok ()) := by
    with_unfolding_all rfl
  have hwrite : halvedDesk.writeText ⟨"", ["out.json"]⟩
      (halvedSource.knownDraft halvedOptions ["Memo"]).text
      = (halvedDesk.withNode ["desk", "out.json"] (.file []),
          .error (.unencodable ⟨90, 0xD800, 1⟩)) := by
    rw [FileTree.writeText, firstSurrogates?_halvedDesk]
    rfl
  have htarget : halvedOptions.target = some ⟨"", ["out.json"]⟩ := by with_unfolding_all rfl
  obtain ⟨messages, hdraft⟩ := @Finds.run_draft_of_known ⟨[], none, .stream⟩ halvedDesk
    halvedSource halvedOptions ["Memo"] finds_halvedDesk (by decide) (by decide)
  have hexecute := run_build_of_draft hdraft
  rw [htarget, run_deliver_of_error .stream _ _ hmake hwrite] at hexecute
  exact ⟨messages, hexecute⟩

theorem ofWords_halvedOptions : Invocation.ofWords
      ["build", "Memo", "--schema", "s.json", "--wrap-root", "-o", "out.json"]
    = .ok (.build halvedOptions ["Memo"]) := by
  decide +kernel

/-- The last of two roots is unknown: nothing is made. A doc that has no encoding breaks the build
off. With the first root alone the file gets what would have been printed. -/
theorem desk_all_or_nothing :
    (∃ outcome,
      run ⟨[], none, .stream⟩ desk
          ["build", "Ticket", "Book", "--schema", "s.json", "-o", "out/ticket.json"]
        = .ok outcome ∧
      outcome.exitCode = some 1 ∧ outcome.stdout = "" ∧ outcome.tree = desk) ∧
    (∃ cause progress, (Invocation.build halvedOptions ["Memo"]).execute ⟨[], none, .stream⟩
        halvedDesk = (.error cause, progress) ∧
      BreaksOff ⟨[], none, .stream⟩ halvedDesk (.build halvedOptions ["Memo"]) cause progress) ∧
    ∃ outcome printed,
      run ⟨[], none, .stream⟩ desk
          ["build", "Ticket", "--schema", "s.json", "-o", "out/ticket.json"]
        = .ok outcome ∧
      outcome.exitCode = none ∧ outcome.stdout = "" ∧
      run ⟨[], none, .stream⟩ desk ["build", "Ticket", "--schema", "s.json"] = .ok printed ∧
      printed.exitCode = none ∧ printed.tree = desk ∧
      desk.HasWritten outcome.tree (.ofString "out/ticket.json") printed.stdout := by
  have htwo : Invocation.ofWords
      ["build", "Ticket", "Book", "--schema", "s.json", "-o", "out/ticket.json"]
      = .ok (.build (deskOptions (some "out/ticket.json")) ["Ticket", "Book"]) := by decide +kernel
  have hone : Invocation.ofWords ["build", "Ticket", "--schema", "s.json", "-o", "out/ticket.json"]
      = .ok (.build (deskOptions (some "out/ticket.json")) ["Ticket"]) := by decide +kernel
  have hplain : Invocation.ofWords ["build", "Ticket", "--schema", "s.json"]
      = .ok (.build (deskOptions none) ["Ticket"]) := by decide +kernel
  refine ⟨?_, ?_, ?_⟩
  · obtain ⟨outcome, houtcome, hcode⟩ := @run_build_of_unknown ⟨[], none, .stream⟩ desk deskSource
      (deskOptions (some "out/ticket.json")) ["Ticket", "Book"] (finds_desk _)
      ⟨"Book", by decide, by decide⟩
    have hrun : run ⟨[], none, .stream⟩ desk
        ["build", "Ticket", "Book", "--schema", "s.json", "-o", "out/ticket.json"]
        = .ok outcome := by
      rw [run, htwo]
      exact houtcome
    obtain ⟨hstdout, htree⟩ :=
      (run_all_or_nothing _ _ _).1 outcome 1 hrun hcode (by decide)
    exact ⟨outcome, hrun, hcode, hstdout, htree⟩
  · obtain ⟨messages, hexecute⟩ := execute_halvedDesk
    exact ⟨_, _, hexecute,
      (run_all_or_nothing _ _ _).2.1 _ _ _ ofWords_halvedOptions hexecute⟩
  · obtain ⟨outcome, houtcome, hcode⟩ := run_build_desk_file
    have hrun : run ⟨[], none, .stream⟩ desk
        ["build", "Ticket", "--schema", "s.json", "-o", "out/ticket.json"] = .ok outcome := by
      rw [run, hone]
      exact houtcome
    obtain ⟨-, hfile⟩ := (run_all_or_nothing _ _ _).2.2 _ _ outcome hone hrun hcode
    obtain ⟨hstdout, printed, -, hwords, hnormal, hwritten⟩ :=
      hfile "out/ticket.json" rfl (by decide)
    have hprinted := hwords _ hplain
    obtain ⟨hkept, -⟩ := (run_all_or_nothing _ _ _).2.2 _ _ printed hplain hprinted hnormal
    exact ⟨outcome, printed, hrun, hcode, hstdout, hprinted, hnormal, hkept (.inl rfl), hwritten⟩

/-- The run that was to write the doc is ended by an error without a report, and leaves its file
empty. -/
theorem unencodable_doc_empties_file :
    ∃ invocation cause progress,
      Invocation.ofWords ["build", "Memo", "--schema", "s.json", "--wrap-root", "-o", "out.json"]
        = .ok invocation ∧
      invocation.execute ⟨[], none, .stream⟩ halvedDesk = (.error cause, progress) ∧
      cause.isReported = false ∧
      halvedDesk.nodeAt? ["desk", "out.json"] = some (.file (encodeUtf8 "kept")) ∧
      progress.tree.nodeAt? ["desk", "out.json"] = some (.file []) := by
  obtain ⟨messages, hexecute⟩ := execute_halvedDesk
  exact ⟨_, _, _, ofWords_halvedOptions, hexecute, rfl, rfl,
    FileTree.nodeAt?_withNode_self (by decide)⟩

end RecordDocs.Command
