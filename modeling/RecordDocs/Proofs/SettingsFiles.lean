import RecordDocs.Proofs.BuildRuns

/-!
# What leaves the loading of a settings file

Loading a settings file is meant to give settings or to say what is wrong with the file. As with a
schema file, its octets can also break the loading off, one way for each layer that they pass: they
are no text; the reader of the text meets a scalar that it cannot convert; a text is asked for where
an integer stands that is too long to be written. A run reports what is wrong with the file, but it
ends without a report if the loading is broken off.
-/

namespace RecordDocs

open Text

/-! ### Directories of files -/

theorem intercalate_subset_concat {α : Type} (separator : List α) (before : List (List α))
    (last : List α) : separator.intercalate before ⊆ separator.intercalate (before ++ [last]) := by
  induction before with
  | nil => exact List.nil_subset _
  | cons first rest ih =>
      cases rest with
      | nil => simp
      | cons second others =>
          rw [List.intercalate_cons_cons, List.cons_append, List.cons_append,
            List.intercalate_cons_cons]
          intro item hitem
          rw [List.mem_append] at hitem ⊢
          exact hitem.imp_right fun hbehind => ih hbehind

theorem Path.mem_text_of_mem_parent {path : Path} {char : Char} (hdot : char ≠ '.')
    (h : char ∈ path.parent.text.toList) : char ∈ path.text.toList := by
  obtain ⟨root, parts⟩ := path
  rcases List.eq_nil_or_concat' parts with rfl | ⟨before, last, rfl⟩
  · exact h
  · have hwhole : ¬ (root == "" && (before ++ [last]).isEmpty) := by simp
    simp only [Path.text, Path.parent, List.dropLast_concat, if_neg hwhole] at h ⊢
    by_cases hhere : root == "" && before.isEmpty
    · rw [if_pos hhere] at h
      exact absurd (List.mem_singleton.mp h) hdot
    · rw [if_neg hhere, String.toList_append, List.mem_append] at h
      rw [String.toList_append, List.mem_append]
      refine h.imp_right fun hbefore => ?_
      rw [String.toList_intercalate] at hbefore ⊢
      rw [List.map_append]
      exact intercalate_subset_concat _ _ _ hbefore

theorem FileTree.placeOf_ok_not_null {tree : FileTree} {path : Path} {place : Place}
    (h : tree.placeOf path = .ok place) : '\x00' ∉ path.text.toList := by
  intro hnull
  obtain ⟨hfault, -⟩ := placeOf_eq_ok_iff.mp h
  rw [pathFault?] at hfault
  split at hfault
  · cases hfault
  · rw [if_pos (List.contains_iff_mem.mpr hnull)] at hfault
    cases hfault

theorem FileTree.exists_resolve_parent {tree : FileTree} {path : Path} {node : FileNode}
    (h : tree.nodeOf path = .ok node) : ∃ root, tree.resolve path.parent = .ok root := by
  obtain ⟨place, hplace, -⟩ := bind_eq_ok h
  have hnull : ¬ path.parent.text.toList.contains '\x00' := by
    rw [List.contains_iff_mem]
    intro hparent
    exact placeOf_ok_not_null hplace (Path.mem_text_of_mem_parent (by decide) hparent)
  rw [resolve, if_neg hnull]
  exact ⟨_, rfl⟩

namespace Settings

variable {tree : FileTree} {path file root : Path} {content : List UInt8}

structure IsSettingsFile (tree : FileTree) (path file : Path) (content : List UInt8) : Prop where
  locate_eq : locate tree path = .ok file
  node_eq : tree.nodeOf file = .ok (.file content)

/-! ### Integers that are too long -/

def IsLong (value : Value) : Prop :=
  ∃ number, value = .int number ∧ ¬ Number.isWritable number

def HoldsLong (value : Value) : Prop :=
  ∃ items, value = .list items ∧ ∃ item ∈ items, IsLong item

theorem textOf_cases (value : Value) :
    IsLong value ∧ textOf value = .error .unwritable ∨
      ¬ IsLong value ∧ ∃ text, textOf value = .ok text := by
  by_cases hlong : IsLong value
  · obtain ⟨number, rfl, hunwritable⟩ := hlong
    refine .inl ⟨⟨number, rfl, hunwritable⟩, ?_⟩
    rw [textOf, if_neg hunwritable]
  · refine .inr ⟨hlong, ?_⟩
    cases value with
    | int number =>
        have hwritable : Number.isWritable number := by
          by_contra hunwritable
          exact hlong ⟨number, rfl, hunwritable⟩
        exact ⟨_, by rw [textOf, if_pos hwritable]⟩
    | _ => exact ⟨_, rfl⟩

theorem mapM_textOf_cases (items : List Value) :
    (∃ item ∈ items, IsLong item) ∧ items.mapM textOf = .error .unwritable ∨
      (¬ ∃ item ∈ items, IsLong item) ∧ ∃ texts, items.mapM textOf = .ok texts := by
  induction items with
  | nil => exact .inr ⟨by simp, [], rfl⟩
  | cons first rest ih =>
      rw [List.mapM_cons, List.exists_mem_cons_iff]
      rcases textOf_cases first with ⟨hlong, herror⟩ | ⟨hshort, text, htext⟩
      · rw [herror]
        exact .inl ⟨.inl hlong, rfl⟩
      · rw [htext, ok_bind]
        rcases ih with ⟨hlong, herror⟩ | ⟨hrest, texts, htexts⟩
        · rw [herror]
          exact .inl ⟨.inr hlong, rfl⟩
        · rw [htexts]
          exact .inr ⟨not_or.mpr ⟨hshort, hrest⟩, _, rfl⟩

theorem textsOf_cases (value : Value) :
    HoldsLong value ∧ textsOf value = .error .unwritable ∨
      ¬ HoldsLong value ∧ ∃ texts, textsOf value = .ok texts := by
  cases value with
  | list items =>
      have hholds : HoldsLong (.list items) ↔ ∃ item ∈ items, IsLong item := by
        constructor
        · rintro ⟨_, heq, hlong⟩
          cases heq
          exact hlong
        · exact fun hlong => ⟨items, rfl, hlong⟩
      rw [hholds, textsOf]
      rcases mapM_textOf_cases items with ⟨hlong, herror⟩ | ⟨hshort, texts, htexts⟩
      · rw [herror]
        exact .inl ⟨hlong, rfl⟩
      · rw [htexts]
        exact .inr ⟨hshort, _, rfl⟩
  | _ => exact .inr ⟨nofun, _, rfl⟩

/-! ### Settings that are wrong -/

def IsNoFormat (value : Value) : Prop :=
  ∃ text, textOf value = .ok (some text) ∧ OutputFormat.ofName? (lowercase text) = none

def IsNegative (value : Value) : Prop :=
  ∃ number, integerOf value = some number ∧ number < 0

theorem readFormat_cases (value : Value) :
    IsLong value ∧ readFormat value = .error (.number .unwritable) ∨
      ¬ IsLong value ∧ (IsNoFormat value ∧ (∃ fault, readFormat value = .error (.fault fault)) ∨
        ¬ IsNoFormat value ∧ ∃ format, readFormat value = .ok format) := by
  rcases textOf_cases value with ⟨hlong, herror⟩ | ⟨hshort, text, htext⟩
  · refine .inl ⟨hlong, ?_⟩
    rw [readFormat, herror]
    rfl
  · refine .inr ⟨hshort, ?_⟩
    cases text with
    | none =>
        refine .inr ⟨?_, OutputSettings.standard.format, ?_⟩
        · rintro ⟨_, hsome, -⟩
          rw [htext] at hsome
          cases hsome
        · rw [readFormat, htext]
          rfl
    | some text =>
        have hnone : IsNoFormat value ↔ OutputFormat.ofName? (lowercase text) = none := by
          rw [IsNoFormat, htext]
          simp
        have hread : (Except.ok (some text) : Except Number.IntegerFault (Option String)).mapError
            SettingsError.number = .ok (some text) := rfl
        simp only [hnone, readFormat, htext, hread, ok_bind]
        cases OutputFormat.ofName? (lowercase text) with
        | none => exact .inl ⟨rfl, _, rfl⟩
        | some format => exact .inr ⟨nofun, format, rfl⟩

theorem readIndent_cases (value : Value) :
    IsNegative value ∧ (∃ fault, readIndent value = .error (.fault fault)) ∨
      ¬ IsNegative value ∧ ∃ indent, readIndent value = .ok indent := by
  rw [readIndent]
  cases hinteger : integerOf value with
  | none =>
      refine .inr ⟨?_, _, rfl⟩
      rintro ⟨_, hsome, -⟩
      rw [hinteger] at hsome
      cases hsome
  | some number =>
      have hnegative : IsNegative value ↔ number < 0 := by
        rw [IsNegative, hinteger]
        simp
      rw [hnegative]
      by_cases hnumber : number < 0
      · exact .inl ⟨hnumber, _, if_pos hnumber⟩
      · exact .inr ⟨hnumber, _, if_neg hnumber⟩

/-! ### A settings document as a whole -/

/-- A text is asked for where an integer stands that is too long to be written, and nothing that is
wrong has been met before. -/
inductive MeetsLong (members : List (Key × Value)) : Prop
  | schema (hlong : IsLong (member "schema" members))
  | enabled (hlong : HoldsLong (member "enabled" (section? "frontends" members)))
  | format (hlong : IsLong (member "format" (section? "output" members)))
  | roots (hformat : ¬ IsNoFormat (member "format" (section? "output" members)))
      (hindent : ¬ IsNegative (member "indent" (section? "output" members)))
      (hlong : HoldsLong (member "roots" members))

/-- Once the first three are short enough, the roots decide, if they are read at all. -/
theorem meetsLong_iff {members : List (Key × Value)} (hschema : ¬ IsLong (member "schema" members))
    (henabled : ¬ HoldsLong (member "enabled" (section? "frontends" members)))
    (hformat : ¬ IsLong (member "format" (section? "output" members))) :
    MeetsLong members ↔ ¬ IsNoFormat (member "format" (section? "output" members)) ∧
      ¬ IsNegative (member "indent" (section? "output" members)) ∧
      HoldsLong (member "roots" members) := by
  constructor
  · rintro (hlong | hlong | hlong | ⟨hname, hindent, hlong⟩)
    · exact absurd hlong hschema
    · exact absurd hlong henabled
    · exact absurd hlong hformat
    · exact ⟨hname, hindent, hlong⟩
  · rintro ⟨hname, hindent, hlong⟩
    exact .roots hname hindent hlong

def Settled {α : Type} (outcome : Except SettingsError α) : Prop :=
  (∃ value, outcome = .ok value) ∨ ∃ fault, outcome = .error (.fault fault)

theorem readSchemaPath_cases (root : Path) (value : Value) :
    IsLong value ∧ readSchemaPath root value = .error (.number .unwritable) ∨
      ¬ IsLong value ∧ ∃ schema, readSchemaPath root value = .ok schema := by
  rcases textOf_cases value with ⟨hlong, herror⟩ | ⟨hshort, text, htext⟩
  · refine .inl ⟨hlong, ?_⟩
    rw [readSchemaPath, herror]
    rfl
  · refine .inr ⟨hshort, ?_⟩
    rw [readSchemaPath, htext]
    cases text with
    | none => exact ⟨none, rfl⟩
    | some text => exact ⟨_, rfl⟩

theorem interpret_cases (root : Path) (members : List (Key × Value)) :
    MeetsLong members ∧ interpret root members = .error (.number .unwritable) ∨
      ¬ MeetsLong members ∧ Settled (interpret root members) := by
  rw [interpret]
  rcases readSchemaPath_cases root (member "schema" members) with
    ⟨hschema, herror⟩ | ⟨hschema, schema, hok⟩
  · rw [herror]
    exact .inl ⟨.schema hschema, rfl⟩
  rw [hok, ok_bind]
  rcases textsOf_cases (member "enabled" (section? "frontends" members)) with
    ⟨henabled, herror⟩ | ⟨henabled, enabled, hok⟩
  · rw [herror]
    exact .inl ⟨.enabled henabled, rfl⟩
  rw [hok]
  change _ ∧ (readFormat _ >>= _) = _ ∨ _ ∧ Settled (readFormat _ >>= _)
  rcases readFormat_cases (member "format" (section? "output" members)) with
    ⟨hformat, herror⟩ | ⟨hformat, hread⟩
  · rw [herror]
    exact .inl ⟨.format hformat, rfl⟩
  rw [meetsLong_iff hschema henabled hformat]
  rcases hread with ⟨hname, fault, herror⟩ | ⟨hname, format, hok⟩
  · rw [herror]
    exact .inr ⟨fun h => h.1 hname, .inr ⟨fault, rfl⟩⟩
  rw [hok, ok_bind]
  rcases readIndent_cases (member "indent" (section? "output" members)) with
    ⟨hindent, fault, herror⟩ | ⟨hindent, indent, hok⟩
  · rw [herror]
    exact .inr ⟨fun h => h.2.1 hindent, .inr ⟨fault, rfl⟩⟩
  rw [hok, ok_bind]
  rcases textsOf_cases (member "roots" members) with ⟨hroots, herror⟩ | ⟨hroots, roots, hok⟩
  · rw [herror]
    exact .inl ⟨⟨hname, hindent, hroots⟩, rfl⟩
  · rw [hok]
    exact .inr ⟨fun h => hroots h.2.2, .inl ⟨_, rfl⟩⟩

theorem settled_interpret {members : List (Key × Value)} (h : ¬ MeetsLong members) (root : Path) :
    Settled (interpret root members) := by
  rcases interpret_cases root members with ⟨hlong, -⟩ | ⟨-, hsettled⟩
  · exact absurd hlong h
  · exact hsettled

theorem not_meetsLong_nil : ¬ MeetsLong [] := by
  have hnull : ¬ IsLong .null := by
    rintro ⟨number, heq, -⟩
    cases heq
  have hnone : ¬ HoldsLong .null := by
    rintro ⟨items, heq, -⟩
    cases heq
  rintro (hlong | hlong | hlong | ⟨-, -, hlong⟩)
  · exact hnull hlong
  · exact hnone hlong
  · exact hnull hlong
  · exact hnone hlong

/-! ### A settings file as a whole -/

/-- The errors with which octets break the loading off. -/
inductive Escapes (content : List UInt8) : SettingsError → Prop
  | undecodable {fault : Utf8Fault} (hdecode : decodeUtf8 content = .error fault) :
      Escapes content (.file (.undecodable fault))
  | scalar {chars : List Char} {fault : Yaml.Fault} (hdecode : decodeUtf8 content = .ok chars)
      (hblank : (normaliseNewlines chars).all isBlank = false)
      (hread : Yaml.read (normaliseNewlines chars) = .error fault) (hne : fault ≠ .malformed) :
      Escapes content (.scalar fault)
  | number {chars : List Char} {members : List (Key × Value)}
      (hdecode : decodeUtf8 content = .ok chars)
      (hblank : (normaliseNewlines chars).all isBlank = false)
      (hread : Yaml.read (normaliseNewlines chars) = .ok (.dict members))
      (hlong : MeetsLong members) : Escapes content (.number .unwritable)

namespace IsSettingsFile

theorem exists_eq (h : IsSettingsFile tree path file content) : tree.exists? file = .ok true := by
  rw [FileTree.exists?, FileTree.find?, h.node_eq]
  rfl

theorem load_eq (h : IsSettingsFile tree path file content)
    (hroot : tree.resolve file.parent = .ok root) :
    load tree path
      = ((decodeUtf8 content).mapError fun fault => .file (.undecodable fault)) >>= fun chars =>
          readMembers (normaliseNewlines chars) >>= interpret root := by
  rw [load, h.locate_eq]
  change ((tree.resolve file.parent).mapError SettingsError.file >>= _) = _
  rw [hroot]
  change ((tree.exists? file).mapError SettingsError.file >>= _) = _
  rw [h.exists_eq]
  change ((tree.readText file).mapError SettingsError.file >>= _) = _
  rw [FileTree.readText_of_nodeOf h.node_eq]
  cases decodeUtf8 content with
  | ok chars => rfl
  | error fault => rfl

theorem exists_load_eq (h : IsSettingsFile tree path file content) :
    ∃ root, load tree path
      = ((decodeUtf8 content).mapError fun fault => .file (.undecodable fault)) >>= fun chars =>
          readMembers (normaliseNewlines chars) >>= interpret root := by
  obtain ⟨root, hroot⟩ := FileTree.exists_resolve_parent h.node_eq
  exact ⟨root, h.load_eq hroot⟩

theorem load_of_escapes (h : IsSettingsFile tree path file content) {cause : SettingsError}
    (hescapes : Escapes content cause) : load tree path = .error cause := by
  obtain ⟨root, hload⟩ := h.exists_load_eq
  cases hescapes with
  | undecodable hdecode =>
      rw [hload, hdecode]
      rfl
  | @scalar chars fault hdecode hblank hread hne =>
      have hmembers : readMembers (normaliseNewlines chars) = .error (.scalar fault) := by
        rw [readMembers, if_neg (by simp [hblank]), hread]
        cases fault <;> first | rfl | exact absurd rfl hne
      rw [hload, hdecode]
      change (readMembers (normaliseNewlines chars) >>= _) = _
      rw [hmembers]
      rfl
  | @number chars members hdecode hblank hread hlong =>
      have hmembers : readMembers (normaliseNewlines chars) = .ok members := by
        rw [readMembers, if_neg (by simp [hblank]), hread]
      rw [hload, hdecode]
      change (readMembers (normaliseNewlines chars) >>= _) = _
      rw [hmembers, ok_bind]
      rcases interpret_cases root members with ⟨-, herror⟩ | ⟨hshort, -⟩
      · exact herror
      · exact absurd hlong hshort

theorem settled_load (h : IsSettingsFile tree path file content)
    (hkept : ∀ cause, ¬ Escapes content cause) : Settled (load tree path) := by
  obtain ⟨root, hload⟩ := h.exists_load_eq
  rw [hload]
  cases hdecode : decodeUtf8 content with
  | error fault => exact absurd (.undecodable hdecode) (hkept _)
  | ok chars =>
      change Settled (readMembers (normaliseNewlines chars) >>= interpret root)
      rw [readMembers]
      cases hblank : (normaliseNewlines chars).all isBlank with
      | true => exact settled_interpret not_meetsLong_nil root
      | false =>
          rw [if_neg Bool.false_ne_true]
          cases hread : Yaml.read (normaliseNewlines chars) with
          | error fault =>
              have hmalformed : fault = .malformed := by
                by_contra hne
                exact hkept _ (.scalar hdecode hblank hread hne)
              rw [hmalformed]
              exact .inr ⟨.syntaxFault, rfl⟩
          | ok value =>
              cases value with
              | null => exact settled_interpret not_meetsLong_nil root
              | dict members =>
                  exact settled_interpret (fun hlong =>
                    hkept _ (.number hdecode hblank hread hlong)) root
              | _ => exact .inr ⟨.notMapping, rfl⟩

theorem escapes_of_load (h : IsSettingsFile tree path file content) {cause : SettingsError}
    (hload : load tree path = .error cause) (hbreak : ∀ fault, cause ≠ .fault fault) :
    Escapes content cause := by
  by_contra hnot
  have hkept : ∀ other, ¬ Escapes content other := by
    intro other hescapes
    have hother := h.load_of_escapes hescapes
    rw [hload] at hother
    exact hnot (Except.error.inj hother ▸ hescapes)
  rcases h.settled_load hkept with ⟨settings, hok⟩ | ⟨fault, herror⟩
  · rw [hload] at hok
    cases hok
  · rw [hload] at herror
    exact hbreak fault (Except.error.inj herror)

end IsSettingsFile

end Settings

/-! ### Runs -/

namespace Command

variable {installation : Installation} {tree : FileTree} {invocation : Invocation}
  {cause : SettingsError}

theorem execute_of_settings_error
    (h : Settings.load tree (.ofString invocation.source.config) = .error cause) :
    invocation.execute installation tree = (.error (.settings cause), .start tree) := by
  cases invocation with
  | build options roots =>
      have hdraft : (draft installation options roots).run (.start tree)
          = (.error (.settings cause), .start tree) :=
        Step.run_bind_of_error (run_loadSource_of_error h)
      exact Step.run_bind_of_error hdraft
  | types options => exact Step.run_bind_of_error (run_loadSource_of_error h)
  | serve options => exact Step.run_bind_of_error (run_loadSource_of_error h)

theorem run_of_settings_fault {fault : SettingsFault}
    (h : Settings.load tree (.ofString invocation.source.config) = .error (.fault fault)) :
    invocation.run installation tree
      = .ok ⟨some 1, "", fault.message ++ "\n", tree, none⟩ := by
  rw [Invocation.run, execute_of_settings_error h]
  change Except.ok (⟨some 1, "", "" ++ fault.message ++ "\n", tree, none⟩ : Outcome) = _
  rw [String.empty_append]

theorem run_of_settings_break (hbreak : ∀ fault, cause ≠ .fault fault)
    (h : Settings.load tree (.ofString invocation.source.config) = .error cause) :
    invocation.run installation tree = .error (.settings cause) := by
  rw [Invocation.run, execute_of_settings_error h]
  cases cause with
  | fault fault => exact absurd rfl (hbreak fault)
  | _ => rfl

end Command

namespace Settings

variable {tree : FileTree} {path file : Path} {content : List UInt8}

theorem Escapes.ne_fault {cause : SettingsError} (h : Escapes content cause)
    (fault : SettingsFault) : cause ≠ .fault fault := by
  cases h <;> nofun

/-- **What leaves the loading of a settings file.** Whatever its octets, the loading gives settings
or says what is wrong with the file unless the octets break it off, and if they do, it ends in the
very error with which they do. A run with these settings reports what is wrong and ends with exit
code one; it ends without an exit code if the loading is broken off. -/
theorem load_keeps_contract_iff (h : IsSettingsFile tree path file content) :
    (Settled (load tree path) ↔ ∀ cause, ¬ Escapes content cause) ∧
    (∀ cause, (load tree path = .error cause ∧ ∀ fault, cause ≠ .fault fault) ↔
      Escapes content cause) ∧
    ∀ installation words invocation, Command.Invocation.ofWords words = .ok invocation →
      Path.ofString invocation.source.config = path →
      (∀ fault, load tree path = .error (.fault fault) →
        Command.run installation tree words
          = .ok ⟨some 1, "", fault.message ++ "\n", tree, none⟩) ∧
      ∀ cause, Escapes content cause →
        Command.run installation tree words = .error (.settings cause) := by
  have hbroken : ∀ cause, Escapes content cause → ¬ Settled (load tree path) := by
    intro cause hescapes hsettled
    rw [h.load_of_escapes hescapes] at hsettled
    rcases hsettled with ⟨_, hok⟩ | ⟨fault, herror⟩
    · cases hok
    · exact hescapes.ne_fault fault (Except.error.inj herror)
  refine ⟨⟨fun hsettled cause hescapes => hbroken cause hescapes hsettled, h.settled_load⟩,
    fun cause => ⟨fun hload => h.escapes_of_load hload.1 hload.2,
      fun hescapes => ⟨h.load_of_escapes hescapes, hescapes.ne_fault⟩⟩,
    fun installation words invocation hwords hpath => ⟨fun fault hload => ?_,
      fun cause hescapes => ?_⟩⟩
  · rw [Command.run, hwords]
    rw [← hpath] at hload
    exact Command.run_of_settings_fault hload
  · have hload := h.load_of_escapes hescapes
    rw [← hpath] at hload
    rw [Command.run, hwords]
    exact Command.run_of_settings_break hescapes.ne_fault hload

def drawer (content : List UInt8) : FileTree :=
  ⟨["desk"], [], [(["desk"], .directory), (["desk", settingsName], .file content)]⟩

def drawerPath : Path :=
  ⟨"/", ["desk", settingsName]⟩

theorem isSettingsFile_drawer (content : List UInt8) :
    IsSettingsFile (drawer content) (.ofString ".") drawerPath content where
  locate_eq := by with_unfolding_all rfl
  node_eq := rfl

theorem escapes_octet : Escapes [0xFF] (.file (.undecodable ⟨.start, 0, 0xFF, 1⟩)) := by
  refine .undecodable ?_
  rw [decodeUtf8, decodeUtf8From]
  rfl

/-- With an octet that belongs to no text a run ends without an exit code; with a list instead of
settings it ends with exit code one and says what is wrong. -/
theorem octet_breaks_list_is_reported :
    Command.run ⟨[], none, .stream⟩ (drawer [0xFF]) ["types"]
        = .error (.settings (.file (.undecodable ⟨.start, 0, 0xFF, 1⟩))) ∧
      Command.run ⟨[], none, .stream⟩ (drawer [0x5B, 0x5D]) ["types"]
        = .ok ⟨some 1, "", ".getdocs.yml must contain a mapping at the root\n",
            drawer [0x5B, 0x5D], none⟩ := by
  have hwords : Command.Invocation.ofWords ["types"]
      = .ok (.types ⟨⟨false, false⟩, none, "."⟩) := by decide +kernel
  obtain ⟨-, -, hoctet⟩ := load_keeps_contract_iff (isSettingsFile_drawer [0xFF])
  obtain ⟨-, -, hlist⟩ := load_keeps_contract_iff (isSettingsFile_drawer [0x5B, 0x5D])
  constructor
  · exact (hoctet ⟨[], none, .stream⟩ ["types"] _ hwords rfl).2 _ escapes_octet
  · have hload : load (drawer [0x5B, 0x5D]) (.ofString ".") = .error (.fault .notMapping) := by
      decide +kernel
    exact (hlist ⟨[], none, .stream⟩ ["types"] _ hwords rfl).1 .notMapping hload

/-- A settings file whose loading neither gives settings nor says what is wrong with the file. -/
theorem load_octet_breaks_contract :
    IsSettingsFile (drawer [0xFF]) (.ofString ".") drawerPath [0xFF] ∧
      ¬ Settled (load (drawer [0xFF]) (.ofString ".")) := by
  refine ⟨isSettingsFile_drawer _, ?_⟩
  rw [(isSettingsFile_drawer _).load_of_escapes escapes_octet]
  rintro (⟨settings, hok⟩ | ⟨fault, herror⟩)
  · cases hok
  · cases herror

end Settings

end RecordDocs
