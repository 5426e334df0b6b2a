import RecordDocs.Proofs.EncodedText
import RecordDocs.Proofs.Members
import RecordDocs.Proofs.SettingsFiles

/-!
# Settings by their keys

A document of settings holds each setting under a key of its own, some of them in a section. A
setting is what its own value reads as, or the standard one if the value reads as nothing; no other
value has a say in it. Only an output format that is none and an indentation below zero are wrong.
-/

namespace RecordDocs

open Number Text

/-! ### Values inside values -/

inductive Value.Occurs (value : Value) : Value → Prop
  | here : Occurs value value
  | item {items : List Value} {item : Value} (hmem : item ∈ items) (h : Occurs value item) :
      Occurs value (.list items)
  | member {members : List (Key × Value)} {key : Key} {inner : Value}
      (hmem : (key, inner) ∈ members) (h : Occurs value inner) : Occurs value (.dict members)

namespace Settings

/-! ### The settings of a document -/

inductive Setting where
  | schema
  | roots
  | enabled
  | format
  | indent
  | wrapRoot
  deriving DecidableEq, Repr

namespace Setting

def key : Setting → String
  | .schema => "schema"
  | .roots => "roots"
  | .enabled => "enabled"
  | .format => "format"
  | .indent => "indent"
  | .wrapRoot => "wrap_root"

/-- The section that the key stands in; a key without one stands at the top of the document. -/
def home : Setting → Option String
  | .schema | .roots => none
  | .enabled => some "frontends"
  | .format | .indent | .wrapRoot => some "output"

/-- What a document has under the key of a setting, null if it has nothing there. -/
def valueIn (setting : Setting) (members : List (Key × Value)) : Value :=
  match setting.home with
  | none => member setting.key members
  | some name => member setting.key (section? name members)

def dropFrom (setting : Setting) (members : List (Key × Value)) : List (Key × Value) :=
  match setting.home with
  | none => dropMember setting.key members
  | some name => changeMember name (dropInside setting.key) members

end Setting

/-! ### What values read as -/

def scalarText? : Value → Option String
  | .str text => some text
  | .int number => some (toString number)
  | .float number => some number.text
  | .bool flag => some (if flag then "True" else "False")
  | _ => none

def scalarTexts? : Value → Option (List String)
  | .str text => some [text]
  | .list items => some (items.filterMap scalarText?)
  | .binary octets => some (octets.map fun octet => toString octet.toNat)
  | _ => none

/-- An integer itself, or a text that reads as one; a truth value is no integer. -/
def IsNumber (value : Value) (number : Int) : Prop :=
  value = .int number ∨ ∃ text, value = .str text ∧ readInteger 10 text = .ok number

def IsFlag (value : Value) (flag : Bool) : Prop :=
  value = .bool flag ∨ ∃ text, value = .str text ∧
    lowercase (strip text) ∈ if flag then ["true", "yes", "1"] else ["false", "no", "0"]

def Setting.Usable : Setting → Value → Prop
  | .schema, value | .format, value => (scalarText? value).isSome
  | .roots, value | .enabled, value => (scalarTexts? value).isSome
  | .indent, value => ∃ number, IsNumber value number
  | .wrapRoot, value => ∃ flag, IsFlag value flag

/-- Two values that a setting cannot tell apart: they are equal, or neither can be used. -/
def Setting.Alike (setting : Setting) (first second : Value) : Prop :=
  first = second ∨ ¬ setting.Usable first ∧ ¬ setting.Usable second

def Setting.Agree (setting : Setting) (first second : Settings) : Prop :=
  match setting with
  | .schema => first.schema = second.schema
  | .roots => first.roots = second.roots
  | .enabled => first.enabled = second.enabled
  | .format => first.output.format = second.output.format
  | .indent => first.output.indent = second.output.indent
  | .wrapRoot => first.output.wrapRoot = second.output.wrapRoot

theorem textOf_eq_ok {value : Value} {text : Option String} (h : textOf value = .ok text) :
    text = scalarText? value := by
  cases value with
  | int number =>
      rw [textOf] at h
      split at h
      · exact (Except.ok.inj h).symm
      · cases h
  | _ => exact (Except.ok.inj h).symm

theorem textsOf_eq_ok {value : Value} {texts : List String} (h : textsOf value = .ok texts) :
    texts = (scalarTexts? value).getD [] := by
  cases value with
  | list items =>
      obtain ⟨found, hfound, rfl⟩ := map_eq_ok h
      have hitems : found = items.map scalarText? := by
        refine List.forall₂_eq_eq_eq ▸ ?_
        rw [List.forall₂_map_right_iff]
        exact (forall₂_of_mapM_eq_ok hfound).flip.imp fun _ _ htext => textOf_eq_ok htext
      rw [hitems, List.filterMap_map]
      rfl
  | _ => exact (Except.ok.inj h).symm

theorem integerOf_eq_some_iff (value : Value) (number : Int) :
    integerOf value = some number ↔ IsNumber value number := by
  cases value with
  | int found => simp [integerOf, IsNumber]
  | str text =>
      rw [integerOf, IsNumber]
      constructor
      · exact fun h => .inr ⟨text, rfl, eq_ok_of_toOption h⟩
      · rintro (h | ⟨_, heq, hread⟩)
        · cases h
        · rw [Value.str.inj heq, hread]
          rfl
  | _ => simp [integerOf, IsNumber]

theorem flagOf_eq_some_iff (value : Value) (flag : Bool) :
    flagOf value = some flag ↔ IsFlag value flag := by
  cases value with
  | bool found => simp [flagOf, IsFlag]
  | str text =>
      have hapart : ∀ word, word ∈ ["true", "yes", "1"] → word ∉ ["false", "no", "0"] := by
        decide
      simp only [flagOf, IsFlag, List.contains_iff_mem, reduceCtorEq, false_or, Value.str.injEq,
        exists_eq_left']
      by_cases hyes : lowercase (strip text) ∈ ["true", "yes", "1"]
      · have hno := hapart _ hyes
        cases flag <;> simp [hyes, hno, -List.mem_cons]
      · cases flag <;> simp [hyes, -List.mem_cons]
  | _ => simp [flagOf, IsFlag]

structure AreRead (root : Path) (members : List (Key × Value)) (settings : Settings) : Prop where
  root_eq : settings.root = root
  schema_eq : settings.schema = ((scalarText? (Setting.schema.valueIn members)).filter
    fun text => !text.isEmpty).map fun text => root.join (.ofString text)
  roots_eq : settings.roots = (scalarTexts? (Setting.roots.valueIn members)).getD []
  enabled_eq : settings.enabled = (scalarTexts? (Setting.enabled.valueIn members)).getD []
  format_name : ∀ text, scalarText? (Setting.format.valueIn members) = some text →
    settings.output.format.name = lowercase text
  format_standard : ¬ Setting.format.Usable (Setting.format.valueIn members) →
    settings.output.format = .json
  indent_number : ∀ number, IsNumber (Setting.indent.valueIn members) number →
    (settings.output.indent : Int) = number
  indent_standard : ¬ Setting.indent.Usable (Setting.indent.valueIn members) →
    settings.output.indent = 2
  wrapRoot_flag : ∀ flag, IsFlag (Setting.wrapRoot.valueIn members) flag →
    settings.output.wrapRoot = flag
  wrapRoot_standard : ¬ Setting.wrapRoot.Usable (Setting.wrapRoot.valueIn members) →
    settings.output.wrapRoot = false

def IsWrongOutput (output : List (Key × Value)) : Prop :=
  (∃ text, scalarText? (member "format" output) = some text ∧
    lowercase text ≠ "json" ∧ lowercase text ≠ "yaml") ∨
  ∃ number, IsNumber (member "indent" output) number ∧ number < 0

def IsWrong (members : List (Key × Value)) : Prop :=
  ∃ output, lookup? "output" members = some (.dict output) ∧ IsWrongOutput output

theorem interpret_eq_ok_iff {root : Path} {members : List (Key × Value)} {settings : Settings} :
    interpret root members = .ok settings ↔
      settings.root = root ∧
      readSchemaPath root (Setting.schema.valueIn members) = .ok settings.schema ∧
      textsOf (Setting.enabled.valueIn members) = .ok settings.enabled ∧
      readFormat (Setting.format.valueIn members) = .ok settings.output.format ∧
      readIndent (Setting.indent.valueIn members) = .ok settings.output.indent ∧
      textsOf (Setting.roots.valueIn members) = .ok settings.roots ∧
      readWrapRoot (Setting.wrapRoot.valueIn members) = settings.output.wrapRoot := by
  constructor
  · intro h
    obtain ⟨schema, hschema, h⟩ := bind_eq_ok h
    obtain ⟨enabled, henabled, h⟩ := bind_eq_ok h
    obtain ⟨format, hformat, h⟩ := bind_eq_ok h
    obtain ⟨indent, hindent, h⟩ := bind_eq_ok h
    obtain ⟨roots, hroots, h⟩ := bind_eq_ok h
    cases h
    exact ⟨rfl, hschema, mapError_eq_ok henabled, hformat, hindent, mapError_eq_ok hroots, rfl⟩
  · rintro ⟨rfl, hschema, henabled, hformat, hindent, hroots, hwrapRoot⟩
    change (readSchemaPath _ (Setting.schema.valueIn members) >>= _) = _
    rw [hschema]
    change ((textsOf (Setting.enabled.valueIn members)).mapError SettingsError.number >>= _) = _
    rw [henabled]
    change (readFormat (Setting.format.valueIn members) >>= _) = _
    rw [hformat]
    change (readIndent (Setting.indent.valueIn members) >>= _) = _
    rw [hindent]
    change ((textsOf (Setting.roots.valueIn members)).mapError SettingsError.number >>= _) = _
    rw [hroots]
    change Except.ok (Settings.mk _ _ _ _ ⟨_, _, readWrapRoot (Setting.wrapRoot.valueIn members)⟩)
      = _
    rw [hwrapRoot]

theorem name_of_ofName? {name : String} {format : OutputFormat}
    (h : OutputFormat.ofName? name = some format) : format.name = name := by
  have hfound := List.find?_some h
  exact beq_iff_eq.mp hfound

theorem ofName?_eq_none_iff (name : String) :
    OutputFormat.ofName? name = none ↔ name ≠ "json" ∧ name ≠ "yaml" := by
  rw [OutputFormat.ofName?, List.find?_eq_none]
  simp [OutputFormat.all, OutputFormat.name, @eq_comm _ name]

theorem readSchemaPath_eq_ok {root : Path} {value : Value} {schema : Option Path}
    (h : readSchemaPath root value = .ok schema) :
    schema = ((scalarText? value).filter fun text => !text.isEmpty).map
      fun text => root.join (.ofString text) := by
  obtain ⟨text, htext, h⟩ := bind_eq_ok h
  rw [← textOf_eq_ok (mapError_eq_ok htext)]
  cases text with
  | none => exact (Except.ok.inj h).symm
  | some text =>
      have hschema := Except.ok.inj h
      rw [← hschema, Option.filter_some]
      cases text.isEmpty <;> rfl

theorem readFormat_eq_ok {value : Value} {format : OutputFormat}
    (h : readFormat value = .ok format) :
    (∀ text, scalarText? value = some text → format.name = lowercase text) ∧
      (scalarText? value = none → format = .json) := by
  obtain ⟨text, htext, h⟩ := bind_eq_ok h
  rw [← textOf_eq_ok (mapError_eq_ok htext)]
  cases text with
  | none => exact ⟨by simp, fun _ => (Except.ok.inj h).symm⟩
  | some text =>
      refine ⟨?_, by simp⟩
      rintro _ ⟨⟩
      dsimp only at h
      cases hname : OutputFormat.ofName? (lowercase text) with
      | none =>
          rw [hname] at h
          cases h
      | some found =>
          rw [hname] at h
          cases h
          exact name_of_ofName? hname

theorem readIndent_eq_ok {value : Value} {indent : Nat} (h : readIndent value = .ok indent) :
    (∀ number, IsNumber value number → (indent : Int) = number) ∧
      ((¬ ∃ number, IsNumber value number) → indent = 2) := by
  simp only [← integerOf_eq_some_iff]
  rw [readIndent] at h
  cases hnumber : integerOf value with
  | none =>
      rw [hnumber] at h
      exact ⟨by simp, fun _ => (Except.ok.inj h).symm⟩
  | some number =>
      rw [hnumber] at h
      dsimp only at h
      refine ⟨?_, fun hnone => absurd ⟨number, rfl⟩ hnone⟩
      rintro _ ⟨⟩
      by_cases hnegative : number < 0
      · rw [if_pos hnegative] at h
        cases h
      · rw [if_neg hnegative] at h
        cases h
        omega

theorem readWrapRoot_eq (value : Value) :
    (∀ flag, IsFlag value flag → readWrapRoot value = flag) ∧
      ((¬ ∃ flag, IsFlag value flag) → readWrapRoot value = false) := by
  simp only [← flagOf_eq_some_iff, readWrapRoot]
  cases hflag : flagOf value with
  | none => exact ⟨by simp, fun _ => rfl⟩
  | some flag =>
      refine ⟨?_, fun hnone => absurd ⟨flag, rfl⟩ hnone⟩
      rintro _ ⟨⟩
      rfl

theorem areRead_of_interpret {root : Path} {members : List (Key × Value)} {settings : Settings}
    (h : interpret root members = .ok settings) : AreRead root members settings := by
  obtain ⟨hroot, hschema, henabled, hformat, hindent, hroots, hwrapRoot⟩ :=
    interpret_eq_ok_iff.mp h
  have hwrap := readWrapRoot_eq (Setting.wrapRoot.valueIn members)
  rw [hwrapRoot] at hwrap
  exact {
    root_eq := hroot
    schema_eq := readSchemaPath_eq_ok hschema
    roots_eq := textsOf_eq_ok hroots
    enabled_eq := textsOf_eq_ok henabled
    format_name := (readFormat_eq_ok hformat).1
    format_standard := fun hnone =>
      (readFormat_eq_ok hformat).2 (Option.not_isSome_iff_eq_none.mp hnone)
    indent_number := (readIndent_eq_ok hindent).1
    indent_standard := (readIndent_eq_ok hindent).2
    wrapRoot_flag := hwrap.1
    wrapRoot_standard := hwrap.2 }

/-! ### Values that count -/

theorem textOf_of_not_isSome {value : Value} (h : ¬ (scalarText? value).isSome) :
    textOf value = .ok none := by
  cases value with
  | null | binary | other | list | dict => rfl
  | _ => exact absurd rfl h

theorem textsOf_of_not_isSome {value : Value} (h : ¬ (scalarTexts? value).isSome) :
    textsOf value = .ok [] := by
  cases value with
  | str | list | binary => exact absurd rfl h
  | _ => rfl

namespace Setting.Alike

variable {setting : Setting} {first second : Value}

theorem read_eq (h : setting.Alike first second) {α : Type} {read : Value → α} (standard : α)
    (hstandard : ∀ value, ¬ setting.Usable value → read value = standard) :
    read first = read second := by
  rcases h with rfl | ⟨hfirst, hsecond⟩
  · rfl
  · rw [hstandard first hfirst, hstandard second hsecond]

theorem readSchemaPath_eq (h : schema.Alike first second) (root : Path) :
    readSchemaPath root first = readSchemaPath root second := by
  refine h.read_eq (.ok none) fun value hvalue => ?_
  rw [readSchemaPath, textOf_of_not_isSome hvalue]
  rfl

theorem textsOf_roots_eq (h : roots.Alike first second) : textsOf first = textsOf second :=
  h.read_eq (.ok []) fun _ hvalue => textsOf_of_not_isSome hvalue

theorem textsOf_enabled_eq (h : enabled.Alike first second) : textsOf first = textsOf second :=
  h.read_eq (.ok []) fun _ hvalue => textsOf_of_not_isSome hvalue

theorem readFormat_eq (h : format.Alike first second) : readFormat first = readFormat second := by
  refine h.read_eq (.ok .json) fun value hvalue => ?_
  rw [readFormat, textOf_of_not_isSome hvalue]
  rfl

theorem readIndent_eq (h : indent.Alike first second) : readIndent first = readIndent second := by
  refine h.read_eq (.ok 2) fun value hvalue => ?_
  have hnone : integerOf value = none := by
    rw [Option.eq_none_iff_forall_ne_some]
    exact fun number hnumber => hvalue ⟨number, (integerOf_eq_some_iff value number).mp hnumber⟩
  rw [readIndent, hnone]
  rfl

theorem readWrapRoot_eq (h : wrapRoot.Alike first second) :
    readWrapRoot first = readWrapRoot second :=
  h.read_eq false fun value hvalue => (Settings.readWrapRoot_eq value).2 hvalue

end Setting.Alike

/-- Documents that no setting can tell apart are interpreted alike, errors included. -/
theorem interpret_congr {first second : List (Key × Value)}
    (h : ∀ setting : Setting, setting.Alike (setting.valueIn first) (setting.valueIn second))
    (root : Path) : interpret root first = interpret root second := by
  have hschema : readSchemaPath root (member "schema" first)
      = readSchemaPath root (member "schema" second) := (h .schema).readSchemaPath_eq root
  have henabled : textsOf (member "enabled" (section? "frontends" first))
      = textsOf (member "enabled" (section? "frontends" second)) := (h .enabled).textsOf_enabled_eq
  have hformat : readFormat (member "format" (section? "output" first))
      = readFormat (member "format" (section? "output" second)) := (h .format).readFormat_eq
  have hindent : readIndent (member "indent" (section? "output" first))
      = readIndent (member "indent" (section? "output" second)) := (h .indent).readIndent_eq
  have hroots : textsOf (member "roots" first) = textsOf (member "roots" second) :=
    (h .roots).textsOf_roots_eq
  have hwrapRoot : readWrapRoot (member "wrap_root" (section? "output" first))
      = readWrapRoot (member "wrap_root" (section? "output" second)) :=
    (h .wrapRoot).readWrapRoot_eq
  simp only [interpret, hschema, henabled, hformat, hindent, hroots, hwrapRoot]

theorem agree_of_interpret {first second : List (Key × Value)} {root : Path}
    {settings settings' : Settings} {setting : Setting}
    (h : setting.Alike (setting.valueIn first) (setting.valueIn second))
    (hfirst : interpret root first = .ok settings)
    (hsecond : interpret root second = .ok settings') : setting.Agree settings settings' := by
  obtain ⟨-, hschema, henabled, hformat, hindent, hroots, hwrapRoot⟩ :=
    interpret_eq_ok_iff.mp hfirst
  obtain ⟨-, hschema', henabled', hformat', hindent', hroots', hwrapRoot'⟩ :=
    interpret_eq_ok_iff.mp hsecond
  cases setting with
  | schema => exact Except.ok.inj (hschema.symm.trans ((h.readSchemaPath_eq root).trans hschema'))
  | roots => exact Except.ok.inj (hroots.symm.trans (h.textsOf_roots_eq.trans hroots'))
  | enabled => exact Except.ok.inj (henabled.symm.trans (h.textsOf_enabled_eq.trans henabled'))
  | format => exact Except.ok.inj (hformat.symm.trans (h.readFormat_eq.trans hformat'))
  | indent => exact Except.ok.inj (hindent.symm.trans (h.readIndent_eq.trans hindent'))
  | wrapRoot => exact hwrapRoot.symm.trans (h.readWrapRoot_eq.trans hwrapRoot')

/-! ### Documents without a key -/

theorem member_dropMember (name other : String) (members : List (Key × Value)) :
    member other (dropMember name members)
      = if other = name then .null else member other members := by
  rw [member, lookup?_dropMember]
  by_cases heq : other = name
  · rw [if_pos heq, if_pos heq]
    rfl
  · rw [if_neg heq, if_neg heq]
    rfl

theorem section?_dropMember (name other : String) (members : List (Key × Value)) :
    Settings.section? other (dropMember name members)
      = if other = name then [] else section? other members := by
  rw [section?, member_dropMember]
  by_cases heq : other = name
  · rw [if_pos heq, if_pos heq]
  · rw [if_neg heq, if_neg heq]
    rfl

theorem member_changeMember_of_ne {name other : String} (h : other ≠ name)
    (change : Value → Value) (members : List (Key × Value)) :
    member other (changeMember name change members) = member other members := by
  rw [member, lookup?_changeMember, if_neg h]
  rfl

theorem section?_changeMember_of_ne {name other : String} (h : other ≠ name)
    (change : Value → Value) (members : List (Key × Value)) :
    Settings.section? other (changeMember name change members) = section? other members := by
  rw [section?, member_changeMember_of_ne h]
  rfl

theorem section?_changeMember_dropInside (name inner : String) (members : List (Key × Value)) :
    Settings.section? name (changeMember name (dropInside inner) members)
      = dropMember inner (section? name members) := by
  rw [section?, member, lookup?_changeMember, if_pos rfl, section?, member]
  cases lookup? name members with
  | none => rfl
  | some value => cases value <;> rfl

theorem Setting.valueIn_dropFrom (setting other : Setting) (members : List (Key × Value)) :
    other.valueIn (setting.dropFrom members)
      = if other = setting then .null else other.valueIn members := by
  cases setting <;> cases other <;>
    simp [valueIn, dropFrom, home, key, member_dropMember, section?_dropMember,
      member_changeMember_of_ne, section?_changeMember_of_ne, section?_changeMember_dropInside]

theorem Setting.not_usable_null (setting : Setting) : ¬ setting.Usable .null := by
  cases setting <;> simp [Usable, scalarText?, scalarTexts?, IsNumber, IsFlag]

/-! ### Wrong documents -/

theorem section?_of_lookup? {name : String} {members inner : List (Key × Value)}
    (h : lookup? name members = some (.dict inner)) : section? name members = inner := by
  rw [section?, member, h]
  rfl

theorem section?_eq_nil {name : String} {members : List (Key × Value)}
    (h : ∀ inner, lookup? name members ≠ some (.dict inner)) : section? name members = [] := by
  rw [section?, member]
  cases hfound : lookup? name members with
  | none => rfl
  | some value =>
      cases value with
      | dict inner => exact absurd hfound (h inner)
      | _ => rfl

theorem isWrong_iff (members : List (Key × Value)) :
    IsWrong members ↔ IsWrongOutput (section? "output" members) := by
  constructor
  · rintro ⟨output, houtput, hwrong⟩
    rw [section?_of_lookup? houtput]
    exact hwrong
  · intro hwrong
    by_cases h : ∃ output, lookup? "output" members = some (.dict output)
    · obtain ⟨output, houtput⟩ := h
      rw [section?_of_lookup? houtput] at hwrong
      exact ⟨output, houtput, hwrong⟩
    · rw [section?_eq_nil (not_exists.mp h)] at hwrong
      rcases hwrong with ⟨_, htext, -⟩ | ⟨_, hnumber | ⟨_, htext, -⟩, -⟩
      · cases htext
      · cases hnumber
      · cases htext

theorem AreRead.not_isWrong {root : Path} {members : List (Key × Value)} {settings : Settings}
    (h : AreRead root members settings) : ¬ IsWrong members := by
  rw [isWrong_iff]
  rintro (⟨text, htext, hjson, hyaml⟩ | ⟨number, hnumber, hnegative⟩)
  · have hname := h.format_name text htext
    cases hformat : settings.output.format with
    | json =>
        rw [hformat] at hname
        exact hjson hname.symm
    | yaml =>
        rw [hformat] at hname
        exact hyaml hname.symm
  · have hindent := h.indent_number number hnumber
    omega

def HasShortIntegers (members : List (Key × Value)) : Prop :=
  ∀ number, (Value.int number).Occurs (.dict members) → isWritable number

theorem occurs_of_member {number : Int} {name : String} {members : List (Key × Value)}
    (h : (Value.int number).Occurs (member name members)) :
    (Value.int number).Occurs (.dict members) := by
  rw [member] at h
  cases hfound : lookup? name members with
  | none =>
      rw [hfound] at h
      cases h
  | some value =>
      rw [hfound] at h
      exact .member (mem_of_lookup? hfound) h

theorem occurs_of_section? {number : Int} {name : String} {members : List (Key × Value)}
    (h : (Value.int number).Occurs (.dict (section? name members))) :
    (Value.int number).Occurs (.dict members) := by
  by_cases hsection : ∃ inner, lookup? name members = some (.dict inner)
  · obtain ⟨inner, hinner⟩ := hsection
    rw [section?_of_lookup? hinner] at h
    exact .member (mem_of_lookup? hinner) h
  · rw [section?_eq_nil (not_exists.mp hsection)] at h
    obtain - | - | ⟨hmem, -⟩ := h
    cases hmem

namespace HasShortIntegers

variable {members : List (Key × Value)}

theorem occurs_valueIn (setting : Setting) {number : Int}
    (h : (Value.int number).Occurs (setting.valueIn members)) :
    (Value.int number).Occurs (.dict members) := by
  cases setting with
  | schema | roots => exact occurs_of_member h
  | enabled | format | indent | wrapRoot => exact occurs_of_section? (occurs_of_member h)

theorem not_isLong (h : HasShortIntegers members) (setting : Setting) :
    ¬ IsLong (setting.valueIn members) := by
  rintro ⟨number, heq, hlong⟩
  exact hlong (h number (occurs_valueIn setting (heq ▸ .here)))

theorem not_holdsLong (h : HasShortIntegers members) (setting : Setting) :
    ¬ HoldsLong (setting.valueIn members) := by
  rintro ⟨items, heq, item, hitem, number, rfl, hlong⟩
  exact hlong (h number (occurs_valueIn setting (heq ▸ .item hitem .here)))

theorem not_meetsLong (h : HasShortIntegers members) : ¬ MeetsLong members := by
  rintro (hlong | hlong | hlong | ⟨-, -, hlong⟩)
  · exact h.not_isLong .schema hlong
  · exact h.not_holdsLong .enabled hlong
  · exact h.not_isLong .format hlong
  · exact h.not_holdsLong .roots hlong

theorem exists_interpret (h : HasShortIntegers members) (hright : ¬ IsWrong members)
    (root : Path) : ∃ settings, interpret root members = .ok settings := by
  rw [isWrong_iff] at hright
  obtain ⟨schema, hschema⟩ := ((readSchemaPath_cases root _).resolve_left
    fun hlong => h.not_isLong .schema hlong.1).2
  obtain ⟨enabled, henabled⟩ := ((textsOf_cases _).resolve_left
    fun hlong => h.not_holdsLong .enabled hlong.1).2
  obtain ⟨roots, hroots⟩ := ((textsOf_cases _).resolve_left
    fun hlong => h.not_holdsLong .roots hlong.1).2
  have hformat : ∃ format, readFormat (Setting.format.valueIn members) = .ok format := by
    rcases ((readFormat_cases _).resolve_left fun hlong => h.not_isLong .format hlong.1).2 with
      ⟨⟨text, htext, hname⟩, -⟩ | ⟨-, hok⟩
    · exact absurd (.inl ⟨text, (textOf_eq_ok htext).symm, (ofName?_eq_none_iff _).mp hname⟩) hright
    · exact hok
  have hindent : ∃ indent, readIndent (Setting.indent.valueIn members) = .ok indent := by
    rcases readIndent_cases (Setting.indent.valueIn members) with
      ⟨⟨number, hnumber, hnegative⟩, -⟩ | ⟨-, hok⟩
    · have hreads := (integerOf_eq_some_iff _ number).mp hnumber
      exact absurd (.inr ⟨number, hreads, hnegative⟩) hright
    · exact hok
  obtain ⟨format, hformat⟩ := hformat
  obtain ⟨indent, hindent⟩ := hindent
  exact ⟨⟨root, schema, roots, enabled, format, indent, _⟩, interpret_eq_ok_iff.mpr
    ⟨rfl, hschema, henabled, hformat, hindent, hroots, rfl⟩⟩

theorem interpret_fault_iff (h : HasShortIntegers members) (root : Path) :
    (∃ fault, interpret root members = .error (.fault fault)) ↔ IsWrong members := by
  constructor
  · rintro ⟨fault, hfault⟩
    by_contra hright
    obtain ⟨settings, hok⟩ := h.exists_interpret hright root
    rw [hfault] at hok
    cases hok
  · intro hwrong
    -- With short integers there are only settings or a fault, and settings would not be wrong.
    rcases settled_interpret h.not_meetsLong root with ⟨settings, hok⟩ | hfault
    · exact absurd hwrong (areRead_of_interpret hok).not_isWrong
    · exact hfault

end HasShortIntegers

/-! ### Settings files -/

def Decodes (content : List UInt8) (members : List (Key × Value)) : Prop :=
  ∃ chars, decodeUtf8 content = .ok chars ∧ readMembers (normaliseNewlines chars) = .ok members

theorem decodes_encodeUtf8 {text : String} {members : List (Key × Value)}
    (hplain : text.toList.all (fun char => char.toNat < 0x8FFFE) = true)
    (hread : readMembers (normaliseNewlines text.toList) = .ok members) :
    Decodes (encodeUtf8 text) members :=
  ⟨text.toList, decodeUtf8_of_plain hplain, hread⟩

theorem IsSettingsFile.load_eq_interpret {tree : FileTree} {path file root : Path}
    {content : List UInt8} {members : List (Key × Value)}
    (h : IsSettingsFile tree path file content) (hroot : tree.resolve file.parent = .ok root)
    (hdecodes : Decodes content members) : load tree path = interpret root members := by
  obtain ⟨chars, hdecode, hread⟩ := hdecodes
  rw [h.load_eq hroot, hdecode]
  change (readMembers (normaliseNewlines chars) >>= _) = _
  rw [hread, ok_bind]

/-- A document loses the key of a setting whose value cannot be used, or a section that is no
dictionary. -/
inductive LosesUnusable (members : List (Key × Value)) : List (Key × Value) → Prop
  | setting (setting : Setting) (h : ¬ setting.Usable (setting.valueIn members)) :
      LosesUnusable members (setting.dropFrom members)
  | home (setting : Setting) {name : String} (hname : setting.home = some name)
      (h : ∀ inner, lookup? name members ≠ some (.dict inner)) :
      LosesUnusable members (dropMember name members)

theorem LosesUnusable.alike {members others : List (Key × Value)}
    (h : LosesUnusable members others) (setting : Setting) :
    setting.Alike (setting.valueIn members) (setting.valueIn others) := by
  cases h with
  | setting lost hunusable =>
      rw [Setting.valueIn_dropFrom]
      by_cases hlost : setting = lost
      · rw [if_pos hlost]
        exact .inr ⟨hlost ▸ hunusable, setting.not_usable_null⟩
      · rw [if_neg hlost]
        exact .inl rfl
  | @home lost name hname hnone =>
      have hsection : ∀ other, section? other (dropMember name members)
          = section? other members := by
        intro other
        rw [section?_dropMember]
        by_cases hother : other = name
        · rw [if_pos hother, hother, section?_eq_nil hnone]
        · rw [if_neg hother]
      -- A lost section had no members to show, and no key at the top is named like a section.
      refine .inl ?_
      cases lost <;> cases hname <;> cases setting <;>
        simp [Setting.valueIn, Setting.home, Setting.key, hsection, member_dropMember]

/-- **Settings by their keys.** A settings file that holds a dictionary whose integers are not too
long is wrong only if its output section has a format that is none or an indentation below zero; if
not, each setting is what the value under its key reads as. Between two files in one directory that
both give settings, a setting changes only if the value under its own key does, and a value of no
use, under the key of a setting or of a section, has the same effect as none. -/
theorem settings_read_by_key {tree : FileTree} {path file : Path} {content : List UInt8}
    {members : List (Key × Value)} (hfile : IsSettingsFile tree path file content)
    (hdecodes : Decodes content members) :
    ∃ root, tree.resolve file.parent = .ok root ∧
      (HasShortIntegers members →
        ((∃ fault, load tree path = .error (.fault fault)) ↔ IsWrong members) ∧
        (¬ IsWrong members →
          ∃ settings, load tree path = .ok settings ∧ AreRead root members settings)) ∧
      ∀ tree' path' file' content' members', IsSettingsFile tree' path' file' content' →
        tree'.resolve file'.parent = .ok root → Decodes content' members' →
        (∀ setting : Setting, setting.Alike (setting.valueIn members) (setting.valueIn members') →
          ∀ settings settings', load tree path = .ok settings →
            load tree' path' = .ok settings' → setting.Agree settings settings') ∧
        (LosesUnusable members members' → load tree' path' = load tree path) := by
  obtain ⟨root, hroot⟩ := FileTree.exists_resolve_parent hfile.node_eq
  have hload := hfile.load_eq_interpret hroot hdecodes
  refine ⟨root, hroot, fun hshort => ?_, ?_⟩
  · rw [hload]
    refine ⟨hshort.interpret_fault_iff root, fun hright => ?_⟩
    obtain ⟨settings, hok⟩ := hshort.exists_interpret hright root
    exact ⟨settings, hok, areRead_of_interpret hok⟩
  · intro tree' path' file' content' members' hfile' hroot' hdecodes'
    rw [hload, hfile'.load_eq_interpret hroot' hdecodes']
    refine ⟨fun setting halike settings settings' hok hok' => ?_, fun hloses => ?_⟩
    · exact agree_of_interpret halike hok hok'
    · exact (interpret_congr hloses.alike root).symm

def countedRoots : List (Key × Value) :=
  [(.text "roots", .int 7),
    (.text "output", .dict [(.text "format", .str "YAML"), (.text "indent", .str "3")])]

def countedRootsContent : List UInt8 :=
  encodeUtf8 "roots: 7\noutput:\n  format: YAML\n  indent: '3'\n"

def noRootsContent : List UInt8 :=
  encodeUtf8 "output:\n  format: YAML\n  indent: '3'\n"

theorem decodes_countedRoots : Decodes countedRootsContent countedRoots :=
  decodes_encodeUtf8 (by decide) (by decide +kernel)

theorem decodes_noRoots : Decodes noRootsContent (Setting.roots.dropFrom countedRoots) :=
  decodes_encodeUtf8 (by decide) (by decide +kernel)

theorem hasShortIntegers_countedRoots : HasShortIntegers countedRoots := by
  rintro number (_ | _ | ⟨hmem, h⟩)
  simp only [countedRoots, List.mem_cons, Prod.mk.injEq, List.not_mem_nil, or_false] at hmem
  rcases hmem with ⟨-, rfl⟩ | ⟨-, rfl⟩
  · cases h
    decide +kernel
  · obtain - | - | ⟨hmem, h⟩ := h
    simp only [List.mem_cons, Prod.mk.injEq, List.not_mem_nil, or_false] at hmem
    rcases hmem with ⟨-, rfl⟩ | ⟨-, rfl⟩ <;> cases h

/-- An integer is of no use as a list of roots, so these settings are the same without it; their
format is what the text reads as in lower case, and their indentation is the integer that its text
reads as. -/
theorem countedRoots_read_by_key :
    ∃ settings, load (drawer countedRootsContent) (.ofString ".") = .ok settings ∧
      load (drawer noRootsContent) (.ofString ".") = .ok settings ∧
      settings.output.format.name = lowercase "YAML" ∧ (settings.output.indent : Int) = 3 ∧
      settings.roots = [] := by
  obtain ⟨root, hroot, hright, hothers⟩ :=
    settings_read_by_key (isSettingsFile_drawer countedRootsContent) decodes_countedRoots
  have hnot : ¬ IsWrong countedRoots := by
    rw [isWrong_iff]
    rintro (⟨text, htext, -, hyaml⟩ | ⟨number, hnumber, hnegative⟩)
    · cases htext
      exact hyaml (by decide +kernel)
    · have hthree : integerOf (.str "3") = some number := (integerOf_eq_some_iff _ _).mpr hnumber
      have hread : integerOf (.str "3") = some 3 := by decide +kernel
      rw [hread] at hthree
      cases hthree
      exact absurd hnegative (by decide)
  obtain ⟨settings, hok, hread⟩ := (hright hasShortIntegers_countedRoots).2 hnot
  have hunusable : ¬ (scalarTexts? (.int 7)).isSome := by decide
  have hloses : LosesUnusable countedRoots (Setting.roots.dropFrom countedRoots) :=
    .setting .roots hunusable
  have hsame := (hothers _ _ _ _ _ (isSettingsFile_drawer noRootsContent) hroot
    decodes_noRoots).2 hloses
  refine ⟨settings, hok, hsame.trans hok, hread.format_name "YAML" rfl, ?_, hread.roots_eq⟩
  exact hread.indent_number 3 (.inr ⟨"3", rfl, by decide +kernel⟩)

end Settings

end RecordDocs
