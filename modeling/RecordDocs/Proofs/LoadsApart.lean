import RecordDocs.Proofs.FrontendDiscovery
import RecordDocs.Proofs.SchemaFiles
import RecordDocs.Proofs.SettingsByKey
import RecordDocs.Proofs.TreesApart

/-!
# Loading beside a settings file

Two file trees may be apart in the settings file. The settings file is found in the same place of
both, and a registry is loaded alike from both, as long as front-ends read nothing but the file they
are given. The settings file may itself be the schema that is loaded; it is read for its records
then and not for its settings, so only other records can make a difference.
-/

namespace RecordDocs

open Text

/-! ### What paths end in -/

namespace FileTree

variable {tree : FileTree} {place : Place} {path : Path}

theorem follow_concat {start : Place} {parts : List String} {last : String}
    (h : tree.follow start (parts ++ [last]) = .ok place) :
    ∃ middle : Place, place = if last == ".." then middle.dropLast else middle ++ [last] := by
  induction parts generalizing start with
  | nil =>
      rw [List.nil_append, follow] at h
      split at h
      · cases h
      · cases h
      · refine ⟨start, ?_⟩
        split at h
        · rename_i hup
          rw [if_pos hup]
          exact (Except.ok.inj h).symm
        · rename_i hup
          split at h
          · cases h
          · rw [if_neg hup]
            exact (Except.ok.inj h).symm
  | cons part rest ih =>
      rw [List.cons_append, follow] at h
      split at h
      · cases h
      · cases h
      · split at h
        · exact ih h
        · split at h
          · cases h
          · exact ih h

theorem exists_eq_of_placeOf {before : List String} {last : String}
    (h : tree.placeOf path = .ok place) (hparts : path.parts = before ++ [last]) :
    ∃ middle : Place, place = if last == ".." then middle.dropLast else middle ++ [last] := by
  rw [placeOf_eq_ok_iff, hparts] at h
  exact follow_concat h.2

theorem getLast?_of_placeOf {last : String} (hplace : tree.placeOf path = .ok place)
    (hlast : path.parts.getLast? = some last) (hup : last ≠ "..") :
    place.getLast? = some last := by
  obtain ⟨before, hparts⟩ := List.getLast?_eq_some_iff.mp hlast
  obtain ⟨middle, rfl⟩ := exists_eq_of_placeOf hplace hparts
  rw [if_neg (by simpa using hup), List.getLast?_concat]

theorem name_cases_of_placeOf {name : String} (hplace : tree.placeOf path = .ok place)
    (hname : place.getLast? = some name) :
    path.name = name ∨ path.name = ".." ∨ path.name = "" := by
  rw [Path.name]
  cases hlast : path.parts.getLast? with
  | none => exact .inr (.inr rfl)
  | some last =>
      by_cases hup : last = ".."
      · exact .inr (.inl hup)
      · rw [getLast?_of_placeOf hplace hlast hup] at hname
        exact .inl (Option.some.inj hname)

theorem getLast?_of_resolve {file : Path} {last : String} (h : tree.resolve path = .ok file)
    (hlast : path.parts.getLast? = some last) (hup : last ≠ "..") :
    file.parts.getLast? = some last := by
  have hcollapse : ∀ before : List String,
      (Path.collapse (before ++ [last])).getLast? = some last := by
    intro before
    rw [Path.collapse, List.foldl_concat, if_neg (by simpa using hup), List.getLast?_concat]
  obtain ⟨before, hparts⟩ := List.getLast?_eq_some_iff.mp hlast
  rw [resolve] at h
  split at h
  · cases h
  · cases h
    rw [hparts]
    dsimp only
    split
    · exact hcollapse before
    · rw [← List.append_assoc]
      exact hcollapse _

end FileTree

namespace Settings

variable {first second : FileTree} {place : Place} {path file : Path}

theorem locate_eq (h : FileTree.ApartAt place first second) (path : Path) :
    locate second path = locate first path := by
  simp only [locate, h.expandHome_eq, h.isDirectory_eq, h.resolve_eq]

theorem getLast?_of_locate {tree : FileTree} (h : locate tree path = .ok file) :
    file.parts.getLast? = some settingsName := by
  have hparts : (Path.ofString settingsName) = ⟨"", [settingsName]⟩ := by with_unfolding_all rfl
  have hjoin : ∀ directory : Path,
      (directory.join (.ofString settingsName)).parts.getLast? = some settingsName := by
    intro directory
    rw [hparts, Path.join, if_neg (by decide)]
    exact List.getLast?_concat
  have hup : settingsName ≠ ".." := by decide
  obtain ⟨expanded, -, h⟩ := bind_eq_ok h
  obtain ⟨isDirectory, -, h⟩ := bind_eq_ok h
  split at h
  · exact FileTree.getLast?_of_resolve h (hjoin expanded) hup
  · split at h
    · exact FileTree.getLast?_of_resolve h (hjoin expanded.parent) hup
    · rename_i hname
      refine FileTree.getLast?_of_resolve h ?_ hup
      have hlast : expanded.parts.getLast?.getD "" = settingsName := by
        simpa [Path.name] using hname
      cases hfound : expanded.parts.getLast? with
      | none =>
          rw [hfound] at hlast
          exact absurd hlast (by decide)
      | some last =>
          rw [hfound] at hlast
          exact congrArg some hlast

end Settings

/-! ### Front-ends -/

def Frontend.ReadsText (frontend : Frontend) : Prop :=
  ∀ path, frontend.supports path → ∀ tree other : FileTree,
    tree.readText path = other.readText path → frontend.load tree path = frontend.load other path

namespace Frontend

theorem readsText_schema (className name : String) (format : SchemaFormat) :
    (schema className name format).ReadsText := by
  intro path _ tree other htext
  change loadSchema format tree path = loadSchema format other path
  rw [loadSchema, loadSchema, readSchemaText, readSchemaText, htext]

theorem readsText_of_mem_builtin {frontend : Frontend} (h : frontend ∈ builtin) :
    frontend.ReadsText := by
  simp only [builtin, List.mem_cons, List.not_mem_nil, or_false] at h
  rcases h with rfl | rfl
  · exact readsText_schema _ _ .yaml
  · exact readsText_schema _ _ .json

theorem readsText_lines (className name : String) : (lines className name).ReadsText := by
  intro path _ tree other htext
  change loadLines tree path = loadLines other path
  rw [loadLines, loadLines, htext]

theorem not_json_supports {path : Path}
    (h : path.name = settingsName ∨ path.name = ".." ∨ path.name = "") :
    ¬ json.supports path := by
  have hsuffix : ∀ name, name = settingsName ∨ name = ".." ∨ name = "" →
      lowercase (String.ofList (Path.suffixOf name.toList)) ∉ SchemaFormat.json.suffixes := by
    rintro _ (rfl | rfl | rfl) <;> decide +kernel
  rw [json, supports_schema_iff, Path.suffix]
  exact hsuffix path.name h

theorem loadSchema_yaml_of_members {tree : FileTree} {path : Path} {chars : List Char}
    {members : List (Key × Value)} (htext : tree.readText path = .ok chars)
    (hmembers : Settings.readMembers chars = .ok members) :
    loadSchema .yaml tree path = (readRecords path.name (.dict members)).map fun records =>
      ⟨records.map .ok, [loadedMessage path.name records.length]⟩ := by
  rw [loadSchema, readSchemaText, htext]
  rw [Settings.readMembers] at hmembers
  change (if chars.all isBlank then _ else _) = _
  by_cases hblank : chars.all isBlank
  · rw [if_pos hblank] at hmembers ⊢
    cases hmembers
    rfl
  · rw [if_neg hblank] at hmembers ⊢
    rw [SchemaFormat.read]
    cases hread : Yaml.read chars with
    | error fault =>
        rw [hread] at hmembers
        cases fault <;> cases hmembers
    | ok value =>
        rw [hread] at hmembers
        cases value with
        | null =>
            cases hmembers
            rfl
        | dict found =>
            cases hmembers
            change (readRecords path.name (.dict members) >>= _) = _
            cases readRecords path.name (.dict members) with
            | error cause => rfl
            | ok records => rfl
        | _ => cases hmembers

theorem readRecords_congr {members others : List (Key × Value)}
    (h : lookup? "records" members = lookup? "records" others) (name : String) :
    readRecords name (.dict members) = readRecords name (.dict others) := by
  rw [readRecords, readRecords, Schema.readDocument, Schema.readDocument, Schema.member?,
    Schema.member?, h]

end Frontend

theorem mem_of_discover {plugins : List Plugin} {enabled : Option (List String)}
    {frontends : List Frontend} {frontend : Frontend}
    (h : discover plugins enabled = .ok frontends) (hmem : frontend ∈ frontends) :
    frontend ∈ Frontend.builtin ∨ ∃ plugin ∈ plugins, plugin.content = .frontend frontend := by
  rw [discover, survey_eq] at h
  split at h
  · have htakes := takes_takeAll (selected plugins enabled)
    generalize hchosen : selected plugins enabled = chosen at htakes h
    generalize takeAll chosen = discovery at htakes h
    cases htakes with
    | stopped hload hfails => cases h
    | all hload =>
        cases h
        obtain ⟨candidate, hcandidate, hcontent⟩ := exists_mem_of_forall₂ hload hmem
        rw [← hchosen, selected, List.mem_filter, mem_candidates_iff] at hcandidate
        cases hcandidate.1 with
        | builtin hbuiltin =>
            cases hcontent
            exact .inl hbuiltin
        | @installed plugin hfree hfirst =>
            exact .inr ⟨plugin, List.mem_of_find?_eq_some hfirst,
              Plugin.content_eq_of_load hcontent⟩
  · cases h

/-! ### Registries -/

/-- The settings file of a path stands at a place and holds a dictionary with certain members. -/
def HoldsSettings (tree : FileTree) (path : Path) (place : Place) (members : List (Key × Value)) :
    Prop :=
  ∃ file content, Settings.IsSettingsFile tree path file content ∧
    tree.placeOf file = .ok place ∧ Settings.Decodes content members

def PluginsReadText (plugins : List Plugin) : Prop :=
  ∀ plugin ∈ plugins, ∀ frontend, plugin.content = .frontend frontend → frontend.ReadsText

def PluginsDecline (plugins : List Plugin) (tree : FileTree) (place : Place) : Prop :=
  ∀ plugin ∈ plugins, ∀ frontend, plugin.content = .frontend frontend →
    ∀ path, tree.placeOf path = .ok place → ¬ frontend.supports path

namespace HoldsSettings

variable {tree : FileTree} {path source : Path} {place : Place} {members : List (Key × Value)}

theorem getLast?_eq (h : HoldsSettings tree path place members) :
    place.getLast? = some settingsName := by
  obtain ⟨file, content, hfile, hplace, -⟩ := h
  exact FileTree.getLast?_of_placeOf hplace (Settings.getLast?_of_locate hfile.locate_eq)
    (by decide)

theorem exists_readText (h : HoldsSettings tree path place members)
    (hsource : tree.placeOf source = .ok place) :
    ∃ chars, tree.readText source = .ok chars ∧ Settings.readMembers chars = .ok members := by
  obtain ⟨file, content, hfile, hplace, chars, hdecode, hread⟩ := h
  have hnode : tree.nodeOf source = .ok (.file content) :=
    FileTree.nodeOf_of_placeOf hsource (FileTree.nodeAt?_of_nodeOf hplace hfile.node_eq)
  refine ⟨_, ?_, hread⟩
  rw [FileTree.readText_of_nodeOf hnode, hdecode]
  rfl

end HoldsSettings

theorem expandHome_of_findSchema {tree : FileTree} {path source : Path}
    (h : findSchema tree path = .ok source) : tree.expandHome path = .ok source := by
  obtain ⟨expanded, hexpand, h⟩ := bind_eq_ok h
  obtain ⟨isFile, -, h⟩ := bind_eq_ok h
  cases isFile with
  | false => cases h
  | true =>
      cases h
      exact mapError_eq_ok hexpand

theorem loadWith_congr {first second : FileTree} {frontends : List Frontend} {source : Path}
    (hload : ∀ frontend ∈ frontends, frontend.supports source →
      frontend.load second source = frontend.load first source) :
    loadWith second frontends source = loadWith first frontends source := by
  rw [loadWith, loadWith]
  cases hfound : frontends.find? fun frontend => frontend.supports source with
  | none => rfl
  | some frontend =>
      have hsupports := List.find?_some hfound
      dsimp only
      rw [hload frontend (List.mem_of_find?_eq_some hfound) hsupports]

namespace FileTree.ApartAt

variable {first second : FileTree} {path source : Path} {place : Place}
  {members others : List (Key × Value)} {plugins : List Plugin} {enabled : Option (List String)}
  {frontends : List Frontend}

theorem load_eq (h : ApartAt place first second) (hfirst : HoldsSettings first path place members)
    (hsecond : HoldsSettings second path place others) (hplugins : PluginsReadText plugins)
    (hown : first.placeOf source = .ok place →
      lookup? "records" others = lookup? "records" members ∧ PluginsDecline plugins first place)
    (hfrontends : discover plugins enabled = .ok frontends) {frontend : Frontend}
    (hmem : frontend ∈ frontends) (hsupports : frontend.supports source) :
    frontend.load second source = frontend.load first source := by
  have hcases := mem_of_discover hfrontends hmem
  by_cases hsource : first.placeOf source = .ok place
  · obtain ⟨hrecords, hdecline⟩ := hown hsource
    rcases hcases with hbuiltin | ⟨plugin, hplugin, hcontent⟩
    · -- The settings file is read as a schema, which its name allows in one format only.
      simp only [Frontend.builtin, List.mem_cons, List.not_mem_nil, or_false] at hbuiltin
      rcases hbuiltin with rfl | rfl
      · obtain ⟨chars, htext, hread⟩ := hfirst.exists_readText hsource
        obtain ⟨chars', htext', hread'⟩ :=
          hsecond.exists_readText ((h.placeOf_eq source).trans hsource)
        change Frontend.loadSchema .yaml second source = Frontend.loadSchema .yaml first source
        rw [Frontend.loadSchema_yaml_of_members htext hread,
          Frontend.loadSchema_yaml_of_members htext' hread',
          Frontend.readRecords_congr hrecords]
      · have hname := name_cases_of_placeOf hsource hfirst.getLast?_eq
        exact absurd hsupports (Frontend.not_json_supports hname)
    · exact absurd hsupports (hdecline plugin hplugin frontend hcontent source hsource)
  · have hreads : frontend.ReadsText := by
      rcases hcases with hbuiltin | ⟨plugin, hplugin, hcontent⟩
      · exact Frontend.readsText_of_mem_builtin hbuiltin
      · exact hplugins plugin hplugin frontend hcontent
    exact hreads source hsupports second first (h.readText_eq hsource)

theorem findSchema_eq (h : ApartAt place first second) (path : Path) :
    findSchema second path = findSchema first path := by
  simp only [findSchema, h.expandHome_eq, h.isFile_eq]

end FileTree.ApartAt

end RecordDocs
