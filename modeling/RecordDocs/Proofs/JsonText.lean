import RecordDocs.Json.Reader
import RecordDocs.Json.Writer

/-!
# JSON text reads back

What is written of a value of texts, lists and dictionaries is read as that value, at every
indentation and with anything behind it. A string reads back character by character, since every
character is either plain or has an escape of its own, and spaces stand only where the reader passes
over them. The reader spends one step of fuel for each value, item and member; each of them has a
character of its own in the text, so the length of the text is fuel enough.
-/

namespace RecordDocs.Json

open Text

variable {char : Char} {chars rest left : List Char} {code : Nat}

/-! ### Strings -/

theorem hexValue?_hexDigit : ∀ value < 16, hexValue? (hexDigit value) = some value := by
  decide

theorem hexDigits_four (code : Nat) :
    hexDigits 4 code = [hexDigit (code / 16 / 16 / 16 % 16), hexDigit (code / 16 / 16 % 16),
      hexDigit (code / 16 % 16), hexDigit (code % 16)] := rfl

theorem hexCode?_hexDigit (h : code < 65536) :
    hexCode? (hexDigit (code / 16 / 16 / 16 % 16)) (hexDigit (code / 16 / 16 % 16))
      (hexDigit (code / 16 % 16)) (hexDigit (code % 16)) = some code := by
  have hdigit : ∀ value, hexValue? (hexDigit (value % 16)) = some (value % 16) :=
    fun value => hexValue?_hexDigit _ (Nat.mod_lt value (by decide))
  simp only [hexCode?, List.foldlM_cons, List.foldlM_nil, hdigit, Option.map_some,
    Option.bind_eq_bind, Option.bind_some]
  refine congrArg some ?_
  omega

theorem readCodes_cons_of_plain (hplain : 32 ≤ char.toNat) (hquote : char ≠ '"')
    (hslash : char ≠ '\\') (rest : List Char) :
    readCodes (char :: rest)
      = (readCodes rest).map fun (codes, left) => (char.toNat :: codes, left) := by
  have hkept : ¬ (char.toNat < 32 || char == '\\') = true := by
    simp [hslash]
    omega
  rw [readCodes]
  · exact if_neg hkept
  · exact hquote
  · intro a b c d tail heq
    exact absurd heq hslash
  · intro letter tail heq
    exact absurd heq hslash

/-- However a character is written, its code is read. -/
theorem readCodes_escapeChar_append (char : Char) (rest : List Char) :
    readCodes (escapeChar char ++ rest)
      = (readCodes rest).map fun (codes, left) => (char.toNat :: codes, left) := by
  unfold escapeChar
  split
  case h_8 hquote hslash _ _ _ _ _ =>
    split
    · rename_i hcontrol
      rw [hexDigits_four]
      simp only [List.cons_append, List.nil_append, readCodes]
      rw [hexCode?_hexDigit (by omega)]
    · rename_i hplain
      exact readCodes_cons_of_plain (Nat.le_of_not_lt hplain) hquote hslash rest
  all_goals simp [readCodes, escapeCode?]

theorem readCodes_writeString (chars rest : List Char) :
    readCodes (chars.flatMap escapeChar ++ '"' :: rest) = some (chars.map Char.toNat, rest) := by
  induction chars with
  | nil => simp [readCodes]
  | cons char chars ih =>
      rw [List.flatMap_cons, List.append_assoc, readCodes_escapeChar_append, ih]
      rfl

theorem pairSurrogates_map_toNat (chars : List Char) :
    pairSurrogates (chars.map Char.toNat) = chars := by
  induction chars with
  | nil => rfl
  | cons char chars ih =>
      cases chars with
      | nil => simp [pairSurrogates, charOfCode_toNat]
      | cons next chars =>
          rw [List.map_cons] at ih
          rw [List.map_cons, List.map_cons, pairSurrogates, isHighSurrogate_toNat,
            Bool.false_and, if_neg Bool.false_ne_true, charOfCode_toNat, ih]

theorem readString_writeString (text : String) (rest : List Char) :
    readString (text.toList.flatMap escapeChar ++ '"' :: rest) = some (text, rest) := by
  rw [readString, readCodes_writeString, Option.map_some]
  dsimp only
  rw [pairSurrogates_map_toNat, String.ofList_toList]

/-! ### Spaces -/

theorem skipSpace_append {spaces : List Char} (h : ∀ char ∈ spaces, isSpace char = true)
    (rest : List Char) : skipSpace (spaces ++ rest) = skipSpace rest :=
  List.dropWhile_append_of_pos h

theorem skipSpace_cons (h : isSpace char = false) : skipSpace (char :: rest) = char :: rest :=
  List.dropWhile_cons_of_neg (by simp [h])

theorem isSpace_of_mem_lineStart (indent : Option Nat) (level : Nat) :
    ∀ char ∈ lineStart indent level, isSpace char = true := by
  intro char hchar
  cases indent with
  | none => cases hchar
  | some width =>
      rw [lineStart, List.mem_cons] at hchar
      rcases hchar with rfl | hchar
      · decide
      · rw [List.eq_of_mem_replicate hchar]
        decide

theorem exists_separator_eq (indent : Option Nat) (level : Nat) :
    ∃ spaces, separator indent level = ',' :: spaces ∧ ∀ char ∈ spaces, isSpace char = true := by
  cases indent with
  | none => exact ⟨[' '], rfl, by simp [isSpace]⟩
  | some width => exact ⟨lineStart (some width) level, rfl, isSpace_of_mem_lineStart _ level⟩

/-! ### Values -/

/-- Values that are made of texts, of lists, and of dictionaries with distinct names. -/
inductive Textual : Value → Prop
  | str (text : String) : Textual (.str text)
  | list {items : List Value} (hitems : ∀ item ∈ items, Textual item) : Textual (.list items)
  | dict {members : List (Key × Value)} (hkeys : ∀ member ∈ members, ∃ name, member.1 = .text name)
      (hvalues : ∀ member ∈ members, Textual member.2)
      (hnodup : (members.map Prod.fst).Nodup) : Textual (.dict members)

/-- A written value starts with a mark that no bracket closes and no space precedes. -/
theorem Textual.exists_writeValue_eq_cons {value : Value} (h : Textual value)
    (indent : Option Nat) (level : Nat) :
    ∃ first rest, writeValue indent level value = first :: rest ∧
      first ∈ ['"', '[', '\x7b'] := by
  cases h with
  | str text => exact ⟨_, _, rfl, by decide⟩
  | list hitems =>
      rename_i items
      cases items <;> exact ⟨_, _, rfl, by decide⟩
  | dict hkeys hvalues hnodup =>
      rename_i members
      cases members <;> exact ⟨_, _, rfl, by decide⟩

/-- With a step of fuel for every character, the text of a value is read as that value, whatever
comes behind it. -/
def ReadsBack (indent : Option Nat) (value : Value) : Prop :=
  ∀ level fuel rest, (writeValue indent level value).length ≤ fuel →
    readValue fuel (writeValue indent level value ++ rest) = .ok (value, rest)

theorem Textual.writeValue_length_pos {value : Value} (h : Textual value) (indent : Option Nat)
    (level : Nat) : 0 < (writeValue indent level value).length := by
  obtain ⟨first, rest, hwritten, _⟩ := h.exists_writeValue_eq_cons indent level
  rw [hwritten, List.length_cons]
  exact Nat.zero_lt_succ _

theorem Textual.readsBack_of_succ {value : Value} (h : Textual value) {indent : Option Nat}
    (hread : ∀ level fuel rest, (writeValue indent level value).length ≤ fuel + 1 →
      readValue (fuel + 1) (writeValue indent level value ++ rest) = .ok (value, rest)) :
    ReadsBack indent value := by
  intro level fuel rest hfuel
  have hpos := Nat.lt_of_lt_of_le (h.writeValue_length_pos indent level) hfuel
  obtain ⟨fuel, rfl⟩ := Nat.exists_eq_add_one.mpr hpos
  exact hread level fuel rest hfuel

theorem Textual.skipSpace_append_writeValue {value : Value} (h : Textual value)
    (indent : Option Nat) (level : Nat) {spaces : List Char}
    (hspaces : ∀ char ∈ spaces, isSpace char = true) (rest : List Char) :
    skipSpace (spaces ++ (writeValue indent level value ++ rest))
      = writeValue indent level value ++ rest := by
  obtain ⟨first, tail, hwritten, hfirst⟩ := h.exists_writeValue_eq_cons indent level
  have hmark : ∀ mark ∈ ['"', '[', '\x7b'], isSpace mark = false := by simp [isSpace]
  rw [skipSpace_append hspaces, hwritten, List.cons_append, skipSpace_cons (hmark first hfirst)]

theorem Textual.skipSpace_cons_append {value : Value} (h : Textual value)
    (indent : Option Nat) (level : Nat) (rest : List Char) :
    skipSpace (' ' :: (writeValue indent level value ++ rest))
      = writeValue indent level value ++ rest := by
  have hblank : ∀ char ∈ [' '], isSpace char = true := by simp [isSpace]
  exact h.skipSpace_append_writeValue indent level hblank rest

theorem skipSpace_lineStart_append (indent : Option Nat) (level : Nat)
    (h : isSpace char = false) (rest : List Char) :
    skipSpace (lineStart indent level ++ char :: rest) = char :: rest := by
  rw [skipSpace_append (isSpace_of_mem_lineStart indent level), skipSpace_cons h]

/-! ### Lists -/

section Items

variable {fuel : Nat} {item : Value} {more : List Char}

theorem readItems_of_last (hitem : readValue fuel chars = .ok (item, rest))
    (hrest : skipSpace rest = ']' :: left) : readItems (fuel + 1) chars = .ok ([item], left) := by
  rw [readItems, hitem]
  dsimp only
  rw [hrest]
  rfl

theorem readItems_of_more (hitem : readValue fuel chars = .ok (item, rest))
    (hrest : skipSpace rest = ',' :: more) :
    readItems (fuel + 1) chars
      = (readItems fuel (skipSpace more)).map fun (items, left) => (item :: items, left) := by
  rw [readItems, hitem]
  dsimp only
  rw [hrest]
  rfl

theorem readItems_writeItems {indent : Option Nat} {items : List Value}
    (htextual : ∀ value ∈ items, Textual value) (hitem : ReadsBack indent item)
    (hitems : ∀ value ∈ items, ReadsBack indent value) (level outer : Nat)
    (hfuel : (writeValue indent level item ++ writeItems indent level items).length < fuel)
    (left : List Char) :
    readItems fuel (writeValue indent level item ++ (writeItems indent level items
        ++ (lineStart indent outer ++ ']' :: left))) = .ok (item :: items, left) := by
  induction items generalizing item fuel with
  | nil =>
      obtain ⟨fuel, rfl⟩ := Nat.exists_eq_add_one.mpr (Nat.zero_lt_of_lt hfuel)
      rw [writeItems, List.append_nil] at hfuel
      rw [writeItems, List.nil_append]
      apply readItems_of_last
      · exact hitem level fuel _ (by omega)
      · exact skipSpace_lineStart_append indent outer (by decide) left
  | cons next items ih =>
      obtain ⟨fuel, rfl⟩ := Nat.exists_eq_add_one.mpr (Nat.zero_lt_of_lt hfuel)
      obtain ⟨spaces, hseparator, hspaces⟩ := exists_separator_eq indent level
      rw [List.forall_mem_cons] at htextual hitems
      simp only [writeItems, hseparator, List.length_append, List.length_cons] at hfuel
      have hless :
          (writeValue indent level next ++ writeItems indent level items).length < fuel := by
        rw [List.length_append]
        omega
      have hmore := ih htextual.2 hitems.1 hitems.2 hless
      simp only [writeItems, hseparator, List.append_assoc, List.cons_append]
      rw [readItems_of_more (hitem level fuel _ (by omega)) (skipSpace_cons (by decide)),
        htextual.1.skipSpace_append_writeValue indent level hspaces, hmore]
      rfl

end Items

/-! ### Dictionaries -/

def writeMember (indent : Option Nat) (level : Nat) (name : String) (value : Value) : List Char :=
  writeString name.toList ++ ':' :: ' ' :: writeValue indent level value

section Members

variable {indent : Option Nat} {level fuel : Nat} {name : String} {value : Value}
  {before : List (Key × Value)} {more : List Char}

theorem writeMember_append (indent : Option Nat) (level : Nat) (name : String) (value : Value)
    (rest : List Char) :
    writeMember indent level name value ++ rest
      = '"' :: (name.toList.flatMap escapeChar
        ++ '"' :: ':' :: ' ' :: (writeValue indent level value ++ rest)) := by
  simp [writeMember, writeString]

theorem readMembers_of_last (htextual : Textual value)
    (hvalue : readValue fuel (writeValue indent level value ++ rest) = .ok (value, rest))
    (hrest : skipSpace rest = '\x7d' :: left) :
    readMembers (fuel + 1) (writeMember indent level name value ++ rest) before
      = .ok (put (.text name) value before, left) := by
  rw [writeMember_append, readMembers, readString_writeString]
  dsimp only
  rw [skipSpace_cons (by decide)]
  simp only [htextual.skipSpace_cons_append, hvalue, hrest]

theorem readMembers_of_more (htextual : Textual value)
    (hvalue : readValue fuel (writeValue indent level value ++ rest) = .ok (value, rest))
    (hrest : skipSpace rest = ',' :: more) :
    readMembers (fuel + 1) (writeMember indent level name value ++ rest) before
      = readMembers fuel (skipSpace more) (put (.text name) value before) := by
  rw [writeMember_append, readMembers, readString_writeString]
  dsimp only
  rw [skipSpace_cons (by decide)]
  simp only [htextual.skipSpace_cons_append, hvalue, hrest]

theorem skipSpace_append_writeMember {spaces : List Char}
    (hspaces : ∀ char ∈ spaces, isSpace char = true) :
    skipSpace (spaces ++ (writeMember indent level name value ++ rest))
      = writeMember indent level name value ++ rest := by
  rw [skipSpace_append hspaces]
  exact skipSpace_cons (by decide)

theorem length_writeValue_lt (indent : Option Nat) (level : Nat) (name : String) (value : Value) :
    (writeValue indent level value).length < (writeMember indent level name value).length := by
  simp only [writeMember, List.length_append, List.length_cons]
  omega

theorem readMembers_writeMembers {members : List (Key × Value)} (htextual : Textual value)
    (hvalue : ReadsBack indent value)
    (hnames : ∀ member ∈ members, ∃ name, member.1 = .text name)
    (hvalues : ∀ member ∈ members, Textual member.2)
    (hmembers : ∀ member ∈ members, ReadsBack indent member.2)
    (hnodup : ((before ++ (.text name, value) :: members).map Prod.fst).Nodup) (level outer : Nat)
    (hfuel : (writeMember indent level name value
      ++ writeMembers indent level members).length < fuel) (left : List Char) :
    readMembers fuel (writeMember indent level name value ++ (writeMembers indent level members
        ++ (lineStart indent outer ++ '\x7d' :: left))) before
      = .ok (before ++ (.text name, value) :: members, left) := by
  induction members generalizing name value before fuel with
  | nil =>
      obtain ⟨fuel, rfl⟩ := Nat.exists_eq_add_one.mpr (Nat.zero_lt_of_lt hfuel)
      have hlength := length_writeValue_lt indent level name value
      rw [List.length_append] at hfuel
      rw [writeMembers, List.nil_append,
        readMembers_of_last htextual (hvalue level fuel _ (by omega))
          (skipSpace_lineStart_append indent outer (by decide) left), put_eq_append hnodup]
  | cons next members ih =>
      obtain ⟨fuel, rfl⟩ := Nat.exists_eq_add_one.mpr (Nat.zero_lt_of_lt hfuel)
      obtain ⟨nextKey, nextValue⟩ := next
      rw [List.forall_mem_cons] at hnames hvalues hmembers
      obtain ⟨⟨nextName, rfl⟩, hnames⟩ := hnames
      obtain ⟨spaces, hseparator, hspaces⟩ := exists_separator_eq indent level
      have hwritten : writeMembers indent level ((.text nextName, nextValue) :: members)
          = ',' :: (spaces ++ (writeMember indent level nextName nextValue
            ++ writeMembers indent level members)) := by
        simp [writeMembers, hseparator, writeMember, Key.asText]
      have hlength := length_writeValue_lt indent level name value
      rw [hwritten] at hfuel ⊢
      simp only [List.length_append, List.length_cons] at hfuel
      have hless : (writeMember indent level nextName nextValue
          ++ writeMembers indent level members).length < fuel := by
        rw [List.length_append]
        omega
      have hput := put_eq_append hnodup
      -- The member at hand goes behind the ones read before it, where the rest is read.
      have hrest : before ++ (.text name, value) :: (.text nextName, nextValue) :: members
          = before ++ [(.text name, value)] ++ (.text nextName, nextValue) :: members := by
        simp
      rw [hrest] at hnodup ⊢
      have hmore := ih hvalues.1 hmembers.1 hnames hvalues.2 hmembers.2 hnodup hless
      rw [List.cons_append, readMembers_of_more htextual (hvalue level fuel _ (by omega))
        (skipSpace_cons (by decide)), hput, List.append_assoc, List.append_assoc,
        skipSpace_append_writeMember hspaces]
      exact hmore

end Members

/-! ### Whole texts -/

theorem readValue_of_items {fuel : Nat} {first : Char} (hchars : skipSpace chars = first :: rest)
    (hfirst : first ≠ ']') :
    readValue (fuel + 1) ('[' :: chars)
      = (readItems fuel (first :: rest)).map fun (items, left) => (.list items, left) := by
  rw [readValue, hchars]
  split
  · rename_i heq
    exact absurd (List.cons.inj heq).1 hfirst
  · rfl

theorem readValue_of_members {fuel : Nat} {first : Char} (hchars : skipSpace chars = first :: rest)
    (hfirst : first ≠ '\x7d') :
    readValue (fuel + 1) ('\x7b' :: chars)
      = (readMembers fuel (first :: rest) []).map fun (members, left) => (.dict members, left) := by
  rw [readValue, hchars]
  split
  · rename_i heq
    exact absurd (List.cons.inj heq).1 hfirst
  · rfl

theorem readsBack_list {indent : Option Nat} {items : List Value}
    (htextual : ∀ item ∈ items, Textual item) (hitems : ∀ item ∈ items, ReadsBack indent item) :
    ReadsBack indent (.list items) := by
  refine (Textual.list htextual).readsBack_of_succ fun level fuel rest hfuel => ?_
  cases items with
  | nil =>
      rw [writeValue, List.cons_append, readValue]
      rfl
  | cons item items =>
      rw [List.forall_mem_cons] at htextual hitems
      have hless : (writeValue indent (level + 1) item
          ++ writeItems indent (level + 1) items).length < fuel := by
        simp only [writeValue, List.length_append, List.length_cons, List.length_nil] at hfuel ⊢
        omega
      have hread := readItems_writeItems htextual.2 hitems.1 hitems.2 (level + 1) level hless rest
      have hskip := htextual.1.skipSpace_append_writeValue indent (level + 1)
        (isSpace_of_mem_lineStart indent (level + 1))
        (writeItems indent (level + 1) items ++ (lineStart indent level ++ ']' :: rest))
      obtain ⟨first, tail, hwritten, hfirst⟩ :=
        htextual.1.exists_writeValue_eq_cons indent (level + 1)
      have hmark : ∀ mark ∈ ['"', '[', '\x7b'], mark ≠ ']' := by simp
      rw [hwritten, List.cons_append] at hread hskip
      rw [writeValue]
      simp only [List.cons_append, List.append_assoc, List.nil_append]
      rw [hwritten, List.cons_append, readValue_of_items hskip (hmark first hfirst), hread]
      rfl

theorem readsBack_dict {indent : Option Nat} {members : List (Key × Value)}
    (hkeys : ∀ member ∈ members, ∃ name, member.1 = .text name)
    (hvalues : ∀ member ∈ members, Textual member.2)
    (hnodup : (members.map Prod.fst).Nodup)
    (hmembers : ∀ member ∈ members, ReadsBack indent member.2) :
    ReadsBack indent (.dict members) := by
  have hdict : Textual (.dict members) := .dict hkeys hvalues hnodup
  refine hdict.readsBack_of_succ fun level fuel rest hfuel => ?_
  cases members with
  | nil =>
      rw [writeValue, List.cons_append, readValue]
      rfl
  | cons member members =>
      obtain ⟨key, value⟩ := member
      rw [List.forall_mem_cons] at hkeys hvalues hmembers
      obtain ⟨⟨name, rfl⟩, hkeys⟩ := hkeys
      have hwritten : writeValue indent level (.dict ((.text name, value) :: members))
          = '\x7b' :: (lineStart indent (level + 1) ++ (writeMember indent (level + 1) name value
            ++ (writeMembers indent (level + 1) members
              ++ (lineStart indent level ++ ['\x7d'])))) := by
        simp [writeValue, writeMember, Key.asText]
      have hless : (writeMember indent (level + 1) name value
          ++ writeMembers indent (level + 1) members).length < fuel := by
        rw [hwritten] at hfuel
        simp only [List.length_append, List.length_cons, List.length_nil] at hfuel ⊢
        omega
      have hread := readMembers_writeMembers hvalues.1 hmembers.1 hkeys hvalues.2 hmembers.2
        (show (([] ++ (Key.text name, value) :: members).map Prod.fst).Nodup from hnodup)
        (level + 1) level hless rest
      have hskip : ∀ chars, skipSpace (lineStart indent (level + 1)
          ++ (writeMember indent (level + 1) name value ++ chars))
          = '"' :: (name.toList.flatMap escapeChar ++ ['"'] ++ ':' :: ' ' ::
            writeValue indent (level + 1) value ++ chars) :=
        fun chars => skipSpace_append_writeMember (isSpace_of_mem_lineStart indent (level + 1))
      rw [hwritten]
      simp only [List.cons_append, List.append_assoc, List.nil_append]
      rw [readValue_of_members (hskip _) (by decide)]
      exact congrArg (Except.map _) hread

/-- The text of a textual value is read as that value, whatever comes behind it. -/
theorem Textual.readsBack {value : Value} (h : Textual value) (indent : Option Nat) :
    ReadsBack indent value := by
  induction h with
  | str text =>
      refine (Textual.str text).readsBack_of_succ fun level fuel rest _ => ?_
      rw [writeValue, writeString]
      simp only [List.cons_append, List.append_assoc, List.nil_append]
      rw [readValue, readString_writeString]
  | list hitems ih => exact readsBack_list hitems ih
  | dict hkeys hvalues hnodup ih => exact readsBack_dict hkeys hvalues hnodup ih

theorem Textual.read_write {value : Value} (h : Textual value) (indent : Nat) :
    read (write indent value ++ "\n") = .ok value := by
  have hnone : ∀ char ∈ ([] : List Char), isSpace char = true := by simp
  have hskip : ∀ lines, skipSpace (writeValue lines 0 value ++ ['\n'])
      = writeValue lines 0 value ++ ['\n'] :=
    fun lines => h.skipSpace_append_writeValue lines 0 hnone ['\n']
  have hend : "\n".toList = ['\n'] := rfl
  have hfuel : ∀ lines, (writeValue lines 0 value).length
      ≤ 2 * (writeValue lines 0 value ++ ['\n']).length + 2 := by
    intro lines
    rw [List.length_append]
    omega
  rw [read, write, String.toList_append, String.toList_ofList, hend, hskip,
    h.readsBack _ 0 _ ['\n'] (hfuel _)]
  rfl

end RecordDocs.Json
