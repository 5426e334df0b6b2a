import RecordDocs.Proofs.PublicationText
import RecordDocs.Proofs.RunSteps

/-!
# What a build does once it has its registry

The settings and the schema give a registry. From then on the requested roots alone decide how the
build goes on: if all of them are known there is a text to deliver, the one of their publication,
and if one of them is not known the build is over, with the report that says so.
-/

namespace RecordDocs.Command

open Command.Step Text

variable {installation : Installation} {tree : FileTree} {source : Source}
  {options : BuildOptions} {roots : List String}

/-! ### Steps of a build -/

/-- A command has what it works on: settings that can be read, and records from the schema that
these or the command line name. -/
structure Finds (installation : Installation) (tree : FileTree) (options : SourceOptions)
    (source : Source) : Prop where
  settings_eq : Settings.load tree (.ofString options.config) = .ok source.settings
  registry_eq : (loadSchema installation tree options source.settings).map (·.registry)
    = .ok source.registry

/-- Once there are settings, the schema decides how the command goes on. -/
theorem run_loadSource_of_settings {options : SourceOptions} {settings : Settings}
    (h : Settings.load tree (.ofString options.config) = .ok settings) :
    (loadSource installation options).run (.start tree)
      = match loadSchema installation tree options settings with
        | .ok loaded =>
            (.ok ⟨settings, loaded.registry⟩,
              { Progress.start tree with messages := loaded.messages })
        | .error cause => (.error cause, .start tree) := by
  have hsettings : (ofResult ((Settings.load tree (.ofString options.config)).mapError
      .settings)).run (.start tree) = (.ok settings, .start tree) := by
    rw [run_ofResult, h]
    rfl
  rw [loadSource, run_bind_of_ok (run_get _)]
  dsimp only [Progress.start] at hsettings ⊢
  rw [run_bind_of_ok hsettings]
  cases hschema : loadSchema installation tree options settings with
  | error cause => exact run_bind_of_error (run_ofResult _ _)
  | ok loaded =>
      rw [run_bind_of_ok (run_ofResult _ _), run_bind_of_ok (run_report loaded.messages _)]
      rfl

theorem Finds.run_loadSource {options : SourceOptions}
    (h : Finds installation tree options source) :
    ∃ messages, (loadSource installation options).run (.start tree)
      = (.ok source, { Progress.start tree with messages }) := by
  obtain ⟨loaded, hloaded, hregistry⟩ := map_eq_ok h.registry_eq
  refine ⟨loaded.messages, ?_⟩
  rw [run_loadSource_of_settings h.settings_eq, hloaded]
  dsimp only
  rw [hregistry]

theorem run_loadSource_of_error {options : SourceOptions} {cause : SettingsError}
    (h : Settings.load tree (.ofString options.config) = .error cause) :
    (loadSource installation options).run (.start tree)
      = (.error (.settings cause), .start tree) := by
  have hsettings : (ofResult ((Settings.load tree (.ofString options.config)).mapError
      .settings)).run (.start tree) = (.error (.settings cause), .start tree) := by
    rw [run_ofResult, h]
    rfl
  rw [loadSource, run_bind_of_ok (run_get _)]
  exact run_bind_of_error hsettings

theorem finds_of_run_loadSource {options : SourceOptions} {middle : Progress}
    (h : (loadSource installation options).run (.start tree) = (.ok source, middle)) :
    Finds installation tree options source := by
  cases hsettings : Settings.load tree (.ofString options.config) with
  | error cause =>
      rw [run_loadSource_of_error hsettings] at h
      cases h
  | ok settings =>
      rw [run_loadSource_of_settings hsettings] at h
      cases hschema : loadSchema installation tree options settings with
      | error cause =>
          rw [hschema] at h
          cases h
      | ok loaded =>
          rw [hschema] at h
          cases h
          exact ⟨hsettings, congrArg (Except.map (·.registry)) hschema⟩

/-- The text of known roots is that of their publication. -/
theorem run_compose_of_known (options : BuildOptions) (before : Progress) (hne : roots ≠ [])
    (hknown : ∀ root ∈ roots, root ∈ source.registry.table.keys) :
    ∃ notes, (compose source options roots).run before
      = (.ok (options.write source.settings
          (source.registry.table.rootMembers (options.wraps source.settings) roots.eraseDups)),
        { before with messages := before.messages ++ notes }) := by
  have hroots : ¬ roots.isEmpty := by simpa using hne
  have hmembers := RecordTable.members_publish (options.wraps source.settings) hknown
  refine ⟨noteMessages
    (source.registry.table.publish (options.wraps source.settings) roots).notes, ?_⟩
  rw [compose, if_neg hroots, run_bind_of_ok (run_report _ before), hmembers]
  rfl

theorem run_compose_of_unknown (options : BuildOptions) (before : Progress)
    (hunknown : ∃ root ∈ roots, root ∉ source.registry.table.keys) :
    ∃ root ∈ roots, root ∉ source.registry.table.keys ∧ ∃ notes,
      (compose source options roots).run before
        = (.error (.root (.unknownType (.str root))),
          { before with messages := before.messages ++ notes }) := by
  obtain ⟨root, hroot, hnot, hmembers⟩ :=
    RecordTable.members_publish_of_unknown (options.wraps source.settings) hunknown
  have hroots : ¬ roots.isEmpty := by
    intro hempty
    rw [List.isEmpty_iff.mp hempty] at hroot
    cases hroot
  refine ⟨root, hroot, hnot, noteMessages
    (source.registry.table.publish (options.wraps source.settings) roots).notes, ?_⟩
  rw [compose, if_neg hroots, run_bind_of_ok (run_report _ before), hmembers]
  rfl

/-! ### Builds -/

def Source.knownDraft (source : Source) (options : BuildOptions) (roots : List String) : Draft :=
  let requested := requestedRoots source.settings roots
  ⟨requested.length, options.write source.settings
    (source.registry.table.rootMembers (options.wraps source.settings) requested.eraseDups)⟩

theorem Finds.run_draft_of_known (h : Finds installation tree options.source source)
    (hne : requestedRoots source.settings roots ≠ [])
    (hknown : ∀ root ∈ requestedRoots source.settings roots,
      root ∈ source.registry.table.keys) :
    ∃ messages, (draft installation options roots).run (.start tree)
      = (.ok (source.knownDraft options roots), { Progress.start tree with messages }) := by
  obtain ⟨messages, hsource⟩ := h.run_loadSource
  obtain ⟨notes, htext⟩ := run_compose_of_known options
    { Progress.start tree with messages } hne hknown
  refine ⟨messages ++ notes, ?_⟩
  rw [draft, run_bind_of_ok hsource]
  exact run_bind_of_ok htext

theorem Finds.run_draft_of_unknown (h : Finds installation tree options.source source)
    (hunknown : ∃ root ∈ requestedRoots source.settings roots,
      root ∉ source.registry.table.keys) :
    ∃ root ∈ requestedRoots source.settings roots, root ∉ source.registry.table.keys ∧
      ∃ messages, (draft installation options roots).run (.start tree)
        = (.error (.root (.unknownType (.str root))), { Progress.start tree with messages }) := by
  obtain ⟨messages, hsource⟩ := h.run_loadSource
  obtain ⟨root, hroot, hnot, notes, hstop⟩ := run_compose_of_unknown options
    { Progress.start tree with messages } hunknown
  refine ⟨root, hroot, hnot, messages ++ notes, ?_⟩
  rw [draft, run_bind_of_ok hsource]
  exact run_bind_of_error hstop

/-- Where to deliver is no part of what is delivered. -/
theorem draft_without_output (installation : Installation) (options : BuildOptions)
    (roots : List String) :
    draft installation { options with output := none } roots = draft installation options roots :=
  rfl

/-! ### Delivery -/

/-- A draft that cannot be delivered has not been printed, and no file has changed but the one that
it was to be written to: this has been emptied if the draft has no encoding. -/
theorem deliver_failed {output : Output} {target : Option Path} {text : Draft}
    {before after : Progress} {cause : RunError}
    (h : (deliver output target text).run before = (.error cause, after)) :
    after.stdout = before.stdout ∧
      ((∃ run, cause = .output run) ∧ after.tree = before.tree ∨
        ∃ path failure, target = some path ∧ cause = .file failure ∧
          (before.tree.KeepsFiles after.tree ∨
            ∃ run, firstSurrogates? text.text.toList = some run ∧ failure = .unencodable run ∧
              before.tree.HasWritten after.tree path "")) := by
  cases target with
  | none =>
      rw [deliver] at h
      cases hrefused : output.refusal? text.text with
      | some run =>
          rw [run_print_of_some hrefused] at h
          cases h
          exact ⟨rfl, .inl ⟨⟨run, rfl⟩, rfl⟩⟩
      | none =>
          rw [run_print_of_none hrefused] at h
          cases h
  | some path =>
      have hadds := FileTree.addsDirectories_makeDirectories before.tree path.parent
      rcases run_bind_eq_error h with hmake | ⟨⟨⟩, made, hmake, hrest⟩
      · obtain ⟨failure, hchange, rfl, hstdout⟩ := run_changeFiles_eq_error hmake
        rw [hchange] at hadds
        exact ⟨hstdout, .inr ⟨path, failure, rfl, rfl, .inl hadds.keepsFiles⟩⟩
      · obtain ⟨hchange, hmadeStdout⟩ := run_changeFiles_eq_ok hmake
        rw [hchange] at hadds
        rcases run_bind_eq_error hrest with hwrite | ⟨⟨⟩, written, -, hreport⟩
        · obtain ⟨failure, hfailed, rfl, hstdout⟩ := run_changeFiles_eq_error hwrite
          refine ⟨hstdout.trans hmadeStdout, .inr ⟨path, failure, rfl, rfl, ?_⟩⟩
          rcases FileTree.writeText_failed hfailed with hkept | ⟨run, hrun, rfl, hemptied⟩
          · rw [hkept]
            exact .inl hadds.keepsFiles
          · exact .inr ⟨run, hrun, rfl, hemptied.of_addsDirectories hadds⟩
        · rw [run_report] at hreport
          cases hreport

theorem run_build_of_draft {options : BuildOptions} {roots : List String} {text : Draft}
    {middle : Progress} (hdraft : (draft installation options roots).run (.start tree)
      = (.ok text, middle)) :
    (Invocation.build options roots).execute installation tree
      = (deliver installation.output options.target text).run middle :=
  run_bind_of_ok hdraft

/-- A draft that is delivered to no file is printed, unless it is refused. -/
theorem execute_build_of_draft {options : BuildOptions} {roots : List String} {text : Draft}
    {middle : Progress} (hdraft : (draft installation options roots).run (.start tree)
      = (.ok text, middle)) (htarget : options.target = none)
    (htakes : installation.output.refusal? text.text = none) :
    (Invocation.build options roots).execute installation tree
      = (.ok (), { middle with stdout := middle.stdout ++ text.text }) := by
  rw [run_build_of_draft hdraft, htarget]
  exact run_print_of_none htakes middle

theorem hasWritten_of_deliver {output : Output} {path : Path} {text : Draft}
    {before after : Progress} (h : (deliver output (some path) text).run before = (.ok (), after)) :
    after.stdout = before.stdout ∧ firstSurrogates? text.text.toList = none ∧
      before.tree.HasWritten after.tree path text.text := by
  obtain ⟨⟨⟩, made, hmake, h⟩ := run_bind_eq_ok h
  obtain ⟨⟨⟩, written, hwrite, h⟩ := run_bind_eq_ok h
  obtain ⟨hchange, hmadeStdout⟩ := run_changeFiles_eq_ok hmake
  obtain ⟨hwritten, hwrittenStdout⟩ := run_changeFiles_eq_ok hwrite
  cases h
  have hadds := FileTree.addsDirectories_makeDirectories before.tree path.parent
  rw [hchange] at hadds
  obtain ⟨hencodes, hwritten⟩ := FileTree.hasWritten_of_writeText hwritten
  exact ⟨hwrittenStdout.trans hmadeStdout, hencodes, hwritten.of_addsDirectories hadds⟩

theorem exists_run_deliver {path : Path} (output : Output) (text : Draft) (before : Progress)
    {made written : FileTree} (hmake : before.tree.makeDirectories path.parent = (made, .ok ()))
    (hwrite : made.writeText path text.text = (written, .ok ())) :
    ∃ after, (deliver output (some path) text).run before = (.ok (), after) ∧
      after.tree = written := by
  have hmade := run_changeFiles (fun tree => tree.makeDirectories path.parent) before
  rw [hmake] at hmade
  have hwritten := run_changeFiles (fun tree => tree.writeText path text.text)
    { before with tree := made }
  rw [hwrite] at hwritten
  refine ⟨_, (run_bind_of_ok hmade).trans ((run_bind_of_ok hwritten).trans (run_report _ _)), rfl⟩

theorem run_deliver_of_error {path : Path} {failure : FileError} (output : Output) (text : Draft)
    (before : Progress) {made left : FileTree}
    (hmake : before.tree.makeDirectories path.parent = (made, .ok ()))
    (hwrite : made.writeText path text.text = (left, .error failure)) :
    (deliver output (some path) text).run before
      = (.error (.file failure), { before with tree := left }) := by
  have hmade := run_changeFiles (fun tree => tree.makeDirectories path.parent) before
  rw [hmake] at hmade
  have hleft := run_changeFiles (fun tree => tree.writeText path text.text)
    { before with tree := made }
  rw [hwrite] at hleft
  exact (run_bind_of_ok hmade).trans (run_bind_of_error hleft)

theorem target_eq_none {options : BuildOptions}
    (h : options.output = none ∨ options.output = some "") : options.target = none := by
  rcases h with h | h
  · rw [BuildOptions.target, h]
    rfl
  · rw [BuildOptions.target, h]
    rfl

theorem target_eq_some {options : BuildOptions} {file : String} (h : options.output = some file)
    (hfile : file ≠ "") : options.target = some (.ofString file) := by
  rw [BuildOptions.target, h]
  simp [hfile]

/-! ### Outcomes of builds -/

/-- With an unknown root a build ends with exit code one. -/
theorem run_build_of_unknown (h : Finds installation tree options.source source)
    (hunknown : ∃ root ∈ requestedRoots source.settings roots,
      root ∉ source.registry.table.keys) :
    ∃ outcome, (Invocation.build options roots).run installation tree = .ok outcome ∧
      outcome.exitCode = some 1 := by
  obtain ⟨root, -, -, messages, hdraft⟩ := h.run_draft_of_unknown hunknown
  have hexecute : (Invocation.build options roots).execute installation tree
      = (.error (.root (.unknownType (.str root))), { Progress.start tree with messages }) :=
    Step.run_bind_of_error hdraft
  rw [Invocation.run, hexecute]
  exact ⟨_, rfl, rfl⟩

/-- Without one it never does: what it delivers can only fail to be written, and this is not
reported. -/
theorem unknown_of_run_build (h : Finds installation tree options.source source)
    (hne : requestedRoots source.settings roots ≠ []) {outcome : Outcome} {code : Nat}
    (hrun : (Invocation.build options roots).run installation tree = .ok outcome)
    (hcode : outcome.exitCode = some code) :
    ∃ root ∈ requestedRoots source.settings roots, root ∉ source.registry.table.keys := by
  by_contra hnone
  have hknown : ∀ root ∈ requestedRoots source.settings roots,
      root ∈ source.registry.table.keys := by
    intro root hroot
    by_contra hnot
    exact hnone ⟨root, hroot, hnot⟩
  obtain ⟨messages, hdraft⟩ := h.run_draft_of_known hne hknown
  obtain ⟨cause, progress, hexecute, hreported, -, -⟩ := run_eq_ok_some hrun hcode
  have hbuild := run_build_of_draft hdraft
  rw [hexecute] at hbuild
  obtain ⟨-, ⟨⟨run, rfl⟩, -⟩ | ⟨path, failure, -, rfl, -⟩⟩ := deliver_failed hbuild.symm
  · cases hreported
  · cases hreported

/-- A build of known roots prints their publication if it has no file to write to, and breaks off if
this is refused. -/
theorem run_build_of_known (h : Finds installation tree options.source source)
    (hne : requestedRoots source.settings roots ≠ [])
    (hknown : ∀ root ∈ requestedRoots source.settings roots, root ∈ source.registry.table.keys)
    (htarget : options.target = none) :
    ∃ members, (source.registry.table.publish (options.wraps source.settings)
        (requestedRoots source.settings roots)).members = .ok members ∧
      (installation.output.refusal? (options.write source.settings members) = none →
        ∃ outcome, (Invocation.build options roots).run installation tree = .ok outcome ∧
          outcome.exitCode = none ∧ outcome.stdout = options.write source.settings members) ∧
      ∀ refused, installation.output.refusal? (options.write source.settings members)
          = some refused →
        (Invocation.build options roots).run installation tree = .error (.output refused) := by
  obtain ⟨messages, hdraft⟩ := h.run_draft_of_known hne hknown
  refine ⟨_, RecordTable.members_publish _ hknown, fun htakes => ?_, fun refused hrefused => ?_⟩
  · obtain ⟨outcome, hrun, hcode, hstdout, -⟩ :=
      run_of_execute_eq_ok (execute_build_of_draft hdraft htarget htakes)
    refine ⟨outcome, hrun, hcode, ?_⟩
    rw [hstdout]
    exact String.empty_append
  · have hstop : (deliver installation.output options.target
        (source.knownDraft options roots)).run { Progress.start tree with messages }
          = (.error (.output refused), { Progress.start tree with messages }) := by
      rw [htarget]
      exact run_print_of_some hrefused _
    rw [Invocation.run, (run_build_of_draft hdraft).trans hstop]
    rfl

theorem run_build_of_writeText (h : Finds installation tree options.source source)
    (hne : requestedRoots source.settings roots ≠ [])
    (hknown : ∀ root ∈ requestedRoots source.settings roots, root ∈ source.registry.table.keys)
    {path : Path} {made written : FileTree} (htarget : options.target = some path)
    (hmake : tree.makeDirectories path.parent = (made, .ok ()))
    (hwrite : made.writeText path (source.knownDraft options roots).text = (written, .ok ())) :
    ∃ outcome, (Invocation.build options roots).run installation tree = .ok outcome ∧
      outcome.exitCode = none ∧ outcome.tree = written := by
  obtain ⟨messages, hdraft⟩ := h.run_draft_of_known hne hknown
  obtain ⟨progress, hdeliver, htree⟩ :=
    exists_run_deliver installation.output (source.knownDraft options roots)
      { Progress.start tree with messages } hmake hwrite
  have hbuild := run_build_of_draft hdraft
  rw [htarget] at hbuild
  obtain ⟨outcome, hrun, hcode, -, houtcome⟩ := run_of_execute_eq_ok (hbuild.trans hdeliver)
  exact ⟨outcome, hrun, hcode, houtcome.trans htree⟩

/-! ### A desk -/

def desk : FileTree :=
  ⟨["desk"], [], [(["desk"], .directory), (["desk", "s.json"],
    .file (encodeUtf8 "\x7b\"records\": \x7b\"Ticket\": \x7b\x7d\x7d\x7d"))]⟩

def deskSource : Source where
  settings := .standard ⟨"/", ["desk"]⟩
  registry := ⟨[⟨"Ticket", [], [], by decide⟩],
    List.nodup_cons.mpr ⟨List.not_mem_nil, List.nodup_nil⟩⟩

def deskOptions (output : Option String) : BuildOptions :=
  ⟨⟨⟨false, false⟩, some "s.json", "."⟩, none, false, output⟩

theorem finds_desk (output : Option String) :
    Finds ⟨[], none, .stream⟩ desk (deskOptions output).source deskSource where
  settings_eq := by
    change Settings.load desk (.ofString ".") = .ok deskSource.settings
    decide +kernel
  registry_eq := by
    have hload : ((loadSchema ⟨[], none, .stream⟩ desk (deskOptions none).source
        deskSource.settings).map (·.registry)).toOption = some deskSource.registry := by
      decide +kernel
    exact eq_ok_of_toOption hload

theorem rootValue_desk : deskSource.registry.table.rootValue false "Ticket" = .list [] := by
  simp [RecordTable.rootValue, RecordTable.publishRoot, RecordTable.build, RecordTable.get?,
    RecordTable.expandRecord, RecordTable.expandFields, deskSource, Registry.table, Except.map,
    Expansion.empty, DocNode.toValues]

theorem text_desk (output : Option String) :
    (deskSource.knownDraft (deskOptions output) ["Ticket"]).text
      = "\x7b\n  \"Ticket\": []\n\x7d\n" := by
  have htext : (deskSource.knownDraft (deskOptions output) ["Ticket"]).text
      = Json.write 2 (.dict [(.text "Ticket", deskSource.registry.table.rootValue false "Ticket")])
        ++ "\n" := rfl
  rw [htext, rootValue_desk, ← String.toList_inj, String.toList_append, Json.write,
    String.toList_ofList]
  decide

end RecordDocs.Command
