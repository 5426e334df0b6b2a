import RecordDocs.Proofs.BuildRuns
import RecordDocs.Proofs.LoadsApart

/-!
# Settings that a command line hides

What a build is told on its command line stands before what the settings file says: a schema, if one
is named, roots, if there are any, a format, and that roots are wrapped. Settings that are hidden so
can be anything without a build being different in what it prints, reports, writes or ends with.
-/

namespace RecordDocs.Command

open Command.Step FileTree Settings

/-! ### Steps that do not see a file -/

structure Progress.Apart (place : Place) (first second : Progress) : Prop where
  messages_eq : second.messages = first.messages
  stdout_eq : second.stdout = first.stdout
  served_eq : second.served = first.served
  tree : ApartAt place first.tree second.tree

/-- Two runs of a step end alike, and the same has been done by then. -/
structure EndApart {α : Type} (place : Place) (first second : Except RunError α × Progress) :
    Prop where
  result_eq : second.1 = first.1
  progress : Progress.Apart place first.2 second.2

namespace Step

variable {α β : Type} {place : Place} {step other : Step α} {next : α → Step β}
  {before before' : Progress}

/-- What is in the file at a place makes no difference to the step. -/
def Blind (place : Place) (step : Step α) : Prop :=
  ∀ before before', Progress.Apart place before before' →
    EndApart place (step.run before) (step.run before')

theorem blind_pure (value : α) : Blind place (pure value) :=
  fun _ _ h => ⟨rfl, h⟩

theorem blind_throw (cause : RunError) : Blind place (throw cause : Step α) :=
  fun _ _ h => ⟨rfl, h⟩

theorem blind_ofResult (result : Except RunError α) : Blind place (ofResult result) :=
  fun _ _ h => ⟨rfl, h⟩

theorem blind_report (messages : List Logging.Message) : Blind place (report messages) := by
  intro before before' h
  refine ⟨rfl, ?_, h.stdout_eq, h.served_eq, h.tree⟩
  exact congrArg (· ++ messages) h.messages_eq

theorem blind_print (output : Output) (text : String) : Blind place (print output text) := by
  rw [print]
  split
  · exact blind_throw _
  · intro before before' h
    refine ⟨rfl, h.messages_eq, ?_, h.served_eq, h.tree⟩
    exact congrArg (· ++ text) h.stdout_eq

theorem blind_changeFiles {change : FileTree → Change}
    (hchange : ∀ first second, ApartAt place first second →
      ChangedApart place (change first) (change second)) : Blind place (changeFiles change) := by
  intro before before' h
  obtain ⟨hresult, htree⟩ := hchange before.tree before'.tree h.tree
  rw [run_changeFiles, run_changeFiles]
  exact ⟨congrArg (Except.mapError RunError.file) hresult,
    h.messages_eq, h.stdout_eq, h.served_eq, htree⟩

theorem endApart_bind (h : EndApart place (step.run before) (other.run before'))
    (hnext : ∀ value, Blind place (next value)) :
    EndApart place ((step >>= next).run before) ((other >>= next).run before') := by
  rw [run_bind, run_bind]
  revert h
  cases step.run before with
  | mk result middle =>
      cases other.run before' with
      | mk result' middle' =>
          rintro ⟨hresult, hprogress⟩
          rw [show result' = result from hresult]
          cases result with
          | ok value => exact hnext value middle middle' hprogress
          | error cause => exact ⟨rfl, hprogress⟩

theorem Blind.bind (hstep : Blind place step) (hnext : ∀ value, Blind place (next value)) :
    Blind place (step >>= next) :=
  fun before before' h => endApart_bind (hstep before before' h) hnext

end Step

variable {installation : Installation} {place : Place} {first second : FileTree}
  {options : BuildOptions} {roots : List String} {settings settings' : Settings}
  {members others : List (Key × Value)}

theorem blind_compose (source : Source) (options : BuildOptions) (roots : List String) :
    Blind place (compose source options roots) := by
  rw [compose]
  split
  · exact blind_throw _
  · exact (blind_report _).bind fun _ => (blind_ofResult _).bind fun _ => blind_pure _

theorem blind_deliver (output : Output) (target : Option Path) (draft : Draft) :
    Blind place (deliver output target draft) := by
  cases target with
  | none => exact blind_print output _
  | some path =>
      refine (blind_changeFiles fun _ _ h => h.makeDirectories path.parent).bind fun _ => ?_
      exact (blind_changeFiles fun _ _ h => h.writeText path draft.text).bind fun _ =>
        blind_report _

/-! ### What a build is told -/

/-- The settings that a build does not look at, since its command line stands before them. -/
def BuildOptions.Hides (options : BuildOptions) (roots : List String) : Setting → Prop
  | .schema => ∃ text, options.source.schema = some text ∧ text ≠ ""
  | .roots => roots ≠ []
  | .format => ∃ format, options.format = some format
  | .wrapRoot => options.wrapRoot = true
  | .enabled | .indent => False

def BuildOptions.SeesNoDifference (options : BuildOptions) (roots : List String)
    (settings settings' : Settings) : Prop :=
  ∀ setting : Setting, ¬ options.Hides roots setting → setting.Agree settings settings'

namespace BuildOptions.SeesNoDifference

theorem schemaPath_eq (h : options.SeesNoDifference roots settings settings') :
    schemaPath options.source settings' = schemaPath options.source settings := by
  have hagree := h .schema
  simp only [Hides, Setting.Agree] at hagree
  rw [schemaPath, schemaPath]
  cases hschema : options.source.schema with
  | none =>
      rw [hschema] at hagree
      exact (hagree (by simp)).symm
  | some text =>
      dsimp only
      by_cases htext : text = ""
      · rw [hschema, htext] at hagree
        rw [htext]
        exact (hagree (by simp)).symm
      · rw [if_neg (by simpa using htext), if_neg (by simpa using htext)]

theorem enabledNames_eq (h : options.SeesNoDifference roots settings settings') :
    enabledNames settings' = enabledNames settings := by
  have hagree : settings.enabled = settings'.enabled := h .enabled not_false
  rw [enabledNames, enabledNames, hagree]

theorem requestedRoots_eq (h : options.SeesNoDifference roots settings settings') :
    requestedRoots settings' roots = requestedRoots settings roots := by
  rw [requestedRoots, requestedRoots]
  by_cases hroots : roots = []
  · have hagree : settings.roots = settings'.roots := h .roots (not_not_intro hroots)
    rw [hagree]
  · rw [if_neg (by simpa using hroots), if_neg (by simpa using hroots)]

theorem wraps_eq (h : options.SeesNoDifference roots settings settings') :
    options.wraps settings' = options.wraps settings := by
  rw [BuildOptions.wraps, BuildOptions.wraps]
  by_cases hwrap : options.wrapRoot = true
  · rw [hwrap]
    rfl
  · have hagree : settings.output.wrapRoot = settings'.output.wrapRoot := h .wrapRoot hwrap
    rw [hagree]

theorem write_eq (h : options.SeesNoDifference roots settings settings') :
    options.write settings' = options.write settings := by
  have hindent : settings.output.indent = settings'.output.indent := h .indent not_false
  funext members
  rw [BuildOptions.write, BuildOptions.write, hindent]
  cases hformat : options.format with
  | some format => rfl
  | none =>
      have hagree : settings.output.format = settings'.output.format := by
        refine h .format ?_
        rintro ⟨format, hsome⟩
        rw [hformat] at hsome
        cases hsome
      rw [hagree]

theorem compose_eq (h : options.SeesNoDifference roots settings settings') (registry : Registry)
    (requested : List String) :
    compose ⟨settings', registry⟩ options requested
      = compose ⟨settings, registry⟩ options requested := by
  simp only [compose, h.wraps_eq, h.write_eq]

end BuildOptions.SeesNoDifference

theorem agree_of_alike (h : ApartAt place first second) {path : Path}
    (hfirst : HoldsSettings first path place members)
    (hsecond : HoldsSettings second path place others)
    (hload : Settings.load first path = .ok settings)
    (hload' : Settings.load second path = .ok settings') {setting : Setting}
    (halike : setting.Alike (setting.valueIn members) (setting.valueIn others)) :
    setting.Agree settings settings' := by
  obtain ⟨file, content, hfile, -, hdecodes⟩ := hfirst
  obtain ⟨file', content', hfile', -, hdecodes'⟩ := hsecond
  obtain ⟨root, hroot⟩ := FileTree.exists_resolve_parent hfile.node_eq
  have hsame : file' = file := by
    have hlocate := hfile'.locate_eq
    rw [locate_eq h, hfile.locate_eq] at hlocate
    exact (Except.ok.inj hlocate).symm
  have hroot' : second.resolve file'.parent = .ok root := by
    rw [hsame, h.resolve_eq, hroot]
  rw [hfile.load_eq_interpret hroot hdecodes] at hload
  rw [hfile'.load_eq_interpret hroot' hdecodes'] at hload'
  exact agree_of_interpret halike hload hload'

/-! ### Two runs -/

def SettingsAreSchema (options : SourceOptions) (settings : Settings) (tree : FileTree)
    (place : Place) : Prop :=
  ∃ schema source, schemaPath options settings = some schema ∧
    tree.expandHome schema = .ok source ∧ tree.placeOf source = .ok place

theorem loadSchema_eq (h : ApartAt place first second)
    (hfirst : HoldsSettings first (.ofString options.source.config) place members)
    (hsecond : HoldsSettings second (.ofString options.source.config) place others)
    (hsame : options.SeesNoDifference roots settings settings')
    (hplugins : PluginsReadText installation.plugins)
    (hown : SettingsAreSchema options.source settings first place →
      lookup? "records" others = lookup? "records" members ∧
        PluginsDecline installation.plugins first place) :
    loadSchema installation second options.source settings'
      = loadSchema installation first options.source settings := by
  rw [loadSchema, loadSchema, hsame.schemaPath_eq, hsame.enabledNames_eq]
  cases hschema : schemaPath options.source settings with
  | none => rfl
  | some schema =>
      dsimp only
      cases hfrontends : discover installation.plugins (enabledNames settings) with
      | error cause => rfl
      | ok frontends =>
          rw [ok_bind, ok_bind, loadRegistryWith, loadRegistryWith, h.findSchema_eq]
          cases hsource : findSchema first schema with
          | error cause => rfl
          | ok source =>
              rw [ok_bind, ok_bind, loadWith_congr]
              intro frontend hmem hsupports
              have hexpand := expandHome_of_findSchema hsource
              exact h.load_eq hfirst hsecond hplugins
                (fun hplace => hown ⟨schema, source, hschema, hexpand, hplace⟩)
                hfrontends hmem hsupports

theorem endApart_draft (h : ApartAt place first second)
    (hload : Settings.load first (.ofString options.source.config) = .ok settings)
    (hload' : Settings.load second (.ofString options.source.config) = .ok settings')
    (hsame : options.SeesNoDifference roots settings settings')
    (hschema : loadSchema installation second options.source settings'
      = loadSchema installation first options.source settings) :
    EndApart place ((draft installation options roots).run (.start first))
      ((draft installation options roots).run (.start second)) := by
  have hfirst := @run_loadSource_of_settings installation first options.source settings hload
  have hsecond := @run_loadSource_of_settings installation second options.source settings' hload'
  rw [hschema] at hsecond
  rw [draft]
  cases hloaded : loadSchema installation first options.source settings with
  | error cause =>
      rw [hloaded] at hfirst hsecond
      rw [run_bind_of_error hfirst, run_bind_of_error hsecond]
      exact ⟨rfl, rfl, rfl, rfl, h⟩
  | ok loaded =>
      rw [hloaded] at hfirst hsecond
      rw [run_bind_of_ok hfirst, run_bind_of_ok hsecond]
      dsimp only
      -- The two sources differ in their settings, but the steps that follow are the same.
      rw [hsame.requestedRoots_eq, hsame.compose_eq]
      refine (blind_compose _ _ _).bind (fun _ => blind_pure _) _ _ ?_
      exact ⟨rfl, rfl, rfl, h⟩

/-! ### Outcomes -/

/-- Two runs leave the same behind, on trees that are apart in one file, or are broken off by the
same error. -/
inductive RunsApart (place : Place) :
    Except RunError Outcome → Except RunError Outcome → Prop
  | ended {exitCode : Option Nat} {stdout stderr : String} {served : Option Served}
      {tree tree' : FileTree} (h : ApartAt place tree tree') :
      RunsApart place (.ok ⟨exitCode, stdout, stderr, tree, served⟩)
        (.ok ⟨exitCode, stdout, stderr, tree', served⟩)
  | broken (cause : RunError) : RunsApart place (.error cause) (.error cause)

theorem Progress.Apart.runsApart {before before' : Progress}
    (h : Progress.Apart place before before') (verbosity : Logging.Verbosity)
    (result : Except RunError Unit) :
    RunsApart place (before.outcome verbosity result) (before'.outcome verbosity result) := by
  cases result with
  | ok value =>
      rw [Progress.outcome, Progress.outcome, h.messages_eq, h.stdout_eq, h.served_eq]
      exact .ended h.tree
  | error cause =>
      rw [Progress.outcome, Progress.outcome]
      split
      · rw [h.messages_eq, h.stdout_eq, h.served_eq]
        exact .ended h.tree
      · exact .broken cause

/-- **Hidden settings do not show.** Two settings files that stand in the same place give settings,
and these differ at most where the command line of a build stands before them. Then both builds end
alike: with the same exit code or the same error, the same on both output streams, and the same in
every file but the settings file, the file that is written included. Installed front-ends have to
read nothing but the schema; and if it is the settings file that is read as the schema, it has to
declare the same records, and no installed front-end may read it. Words that are no command line
have no settings to hide. -/
theorem hidden_settings_do_not_show {words : List String}
    (hwords : Invocation.ofWords words = .ok (.build options roots))
    (hapart : ApartAt place first second)
    (hfirst : HoldsSettings first (.ofString options.source.config) place members)
    (hsecond : HoldsSettings second (.ofString options.source.config) place others)
    (hload : Settings.load first (.ofString options.source.config) = .ok settings)
    (hload' : Settings.load second (.ofString options.source.config) = .ok settings')
    (hsame : options.SeesNoDifference roots settings settings')
    (hplugins : PluginsReadText installation.plugins)
    (hown : SettingsAreSchema options.source settings first place →
      lookup? "records" others = lookup? "records" members ∧
        PluginsDecline installation.plugins first place) :
    RunsApart place (run installation first words) (run installation second words) ∧
    EndApart place ((Invocation.build options roots).execute installation first)
      ((Invocation.build options roots).execute installation second) ∧
    (∀ written written' target, options.target = some target →
      written = ((Invocation.build options roots).execute installation first).2.tree →
      written' = ((Invocation.build options roots).execute installation second).2.tree →
      written.placeOf target ≠ .ok place → written'.nodeOf target = written.nodeOf target) ∧
    ∀ refused stop, Invocation.ofWords refused = .error stop →
      RunsApart place (run installation first refused) (run installation second refused) := by
  have hschema := loadSchema_eq hapart hfirst hsecond hsame hplugins hown
  have hends : EndApart place ((Invocation.build options roots).execute installation first)
      ((Invocation.build options roots).execute installation second) :=
    endApart_bind (endApart_draft hapart hload hload' hsame hschema) fun draft =>
      blind_deliver installation.output options.target draft
  refine ⟨?_, hends, ?_, fun refused stop hrefused => ?_⟩
  · rw [run, run, hwords]
    dsimp only
    rw [Invocation.run, Invocation.run]
    dsimp only
    rw [hends.result_eq]
    exact hends.progress.runsApart _ _
  · rintro _ _ target - rfl rfl htarget
    exact hends.progress.tree.nodeOf_eq htarget
  · rw [run, run, hrefused]
    cases stop with
    | help program => exact .ended hapart
    | usage program fault => exact .ended hapart

def deskWith (content : List UInt8) : FileTree :=
  desk.withNode ["desk", settingsName] (.file content)

def farSettings : List (Key × Value) :=
  [(.text "schema", .str "far.yml"), (.text "roots", .str "Card"),
    (.text "output", .dict [(.text "format", .str "yaml")])]

def nearSettings : List (Key × Value) :=
  [(.text "output", .dict [(.text "wrap_root", .bool false)])]

theorem apartAt_deskWith (content content' : List UInt8) :
    ApartAt ["desk", settingsName] (deskWith content) (deskWith content') where
  workingDirectory_eq := rfl
  homes_eq := rfl
  nodeAt?_eq other hother := by
    rw [deskWith, deskWith, nodeAt?_withNode_of_ne hother, nodeAt?_withNode_of_ne hother]
  first_file := ⟨content, nodeAt?_withNode_self (List.cons_ne_nil _ _)⟩
  second_file := ⟨content', nodeAt?_withNode_self (List.cons_ne_nil _ _)⟩

theorem holdsSettings_deskWith {content : List UInt8} (h : Decodes content members) :
    HoldsSettings (deskWith content) (.ofString ".") ["desk", settingsName] members := by
  refine ⟨⟨"/", ["desk", settingsName]⟩, content, ⟨?_, rfl⟩, rfl, h⟩
  with_unfolding_all rfl

def farContent : List UInt8 :=
  Text.encodeUtf8 "schema: far.yml\nroots: Card\noutput:\n  format: yaml\n"

def nearContent : List UInt8 :=
  Text.encodeUtf8 "output:\n  wrap_root: no\n"

theorem decodes_farContent : Decodes farContent farSettings :=
  decodes_encodeUtf8 (by decide) (by decide +kernel)

theorem decodes_nearContent : Decodes nearContent nearSettings :=
  decodes_encodeUtf8 (by decide) (by decide +kernel)

def toldOptions : BuildOptions :=
  ⟨⟨⟨false, false⟩, some "s.json", "."⟩, some .json, false, none⟩

/-- The two settings files name different schemas, roots and formats, but a build that is told all
three ends alike with both. -/
theorem far_and_near_settings_do_not_show :
    Settings.load (deskWith farContent) (.ofString ".")
        ≠ Settings.load (deskWith nearContent) (.ofString ".") ∧
      RunsApart ["desk", settingsName]
        (run ⟨[⟨"ini", .frontend (.lines "IniFrontend" "ini")⟩], none, .stream⟩
          (deskWith farContent) ["build", "Ticket", "--schema", "s.json", "--format", "json"])
        (run ⟨[⟨"ini", .frontend (.lines "IniFrontend" "ini")⟩], none, .stream⟩
          (deskWith nearContent)
          ["build", "Ticket", "--schema", "s.json", "--format", "json"]) := by
  have hwords : Invocation.ofWords ["build", "Ticket", "--schema", "s.json", "--format", "json"]
      = .ok (.build toldOptions ["Ticket"]) := by decide +kernel
  have hapart := apartAt_deskWith farContent nearContent
  have hfar := holdsSettings_deskWith decodes_farContent
  have hnear := holdsSettings_deskWith decodes_nearContent
  have hload : Settings.load (deskWith farContent) (.ofString ".")
      = .ok ⟨⟨"/", ["desk"]⟩, some ⟨"/", ["desk", "far.yml"]⟩, ["Card"], [], .yaml, 2, false⟩ := by
    decide +kernel
  have hload' : Settings.load (deskWith nearContent) (.ofString ".")
      = .ok ⟨⟨"/", ["desk"]⟩, none, [], [], .json, 2, false⟩ := by decide +kernel
  refine ⟨?_, ?_⟩
  · rw [hload, hload']
    decide
  · refine (hidden_settings_do_not_show hwords hapart hfar hnear hload hload' ?_ ?_ ?_).1
    · intro setting hsees
      cases setting with
      | schema => exact absurd ⟨"s.json", rfl, by decide⟩ hsees
      | roots => exact absurd (List.cons_ne_nil _ _) hsees
      | format => exact absurd ⟨.json, rfl⟩ hsees
      | enabled => exact agree_of_alike hapart hfar hnear hload hload' (.inl rfl)
      | indent => exact agree_of_alike hapart hfar hnear hload hload' (.inl rfl)
      | wrapRoot => rfl
    · intro plugin hplugin frontend hcontent
      cases List.mem_singleton.mp hplugin
      cases hcontent
      exact Frontend.readsText_lines _ _
    · rintro ⟨schema, source, hschema, hsource, hplace⟩
      have hfound : some (Path.ofString "s.json") = some schema := hschema
      rw [← Option.some.inj hfound] at hsource
      have hexpand : (deskWith farContent).expandHome (.ofString "s.json")
          = .ok (.ofString "s.json") := by with_unfolding_all rfl
      rw [hexpand] at hsource
      rw [← Except.ok.inj hsource] at hplace
      have hother : (deskWith farContent).placeOf (.ofString "s.json")
          ≠ .ok ["desk", settingsName] := by decide +kernel
      exact absurd hplace hother

end RecordDocs.Command
