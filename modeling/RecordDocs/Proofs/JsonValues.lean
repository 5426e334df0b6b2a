import Mathlib
import RecordDocs.Json.Reader
import RecordDocs.Proofs.Outcomes

/-!
# What a JSON text can hold

A value that is read from a JSON text has texts as names, none of them twice in one dictionary, and
no integer of more digits than are converted, so that each of its integers can be written again. The
reader keeps this at every step: a number is checked when its digits are counted, and a member that
occurs again replaces the first. A blank text holds no value at all.
-/

namespace RecordDocs.Json

open Number Text

inductive IsJson : Value → Prop
  | null : IsJson .null
  | bool (flag : Bool) : IsJson (.bool flag)
  | int {number : Int} (hwritable : isWritable number = true) : IsJson (.int number)
  | float (number : Binary64) : IsJson (.float number)
  | str (text : String) : IsJson (.str text)
  | list {items : List Value} (hitems : ∀ item ∈ items, IsJson item) : IsJson (.list items)
  | dict {members : List (Key × Value)} (hkeys : ∀ member ∈ members, ∃ name, member.1 = .text name)
      (hvalues : ∀ member ∈ members, IsJson member.2)
      (hnodup : (members.map Prod.fst).Nodup) : IsJson (.dict members)

/-! ### Numbers -/

theorem foldl_digits_lt {base : Nat} {digits : List Nat} (h : ∀ digit ∈ digits, digit < base)
    (start : Nat) :
    digits.foldl (fun value digit => value * base + digit) start
      < (start + 1) * base ^ digits.length := by
  induction digits generalizing start with
  | nil => simp
  | cons digit rest ih =>
      rw [List.forall_mem_cons] at h
      have hstep : start * base + digit + 1 ≤ (start + 1) * base := by
        rw [Nat.add_mul, Nat.one_mul]
        omega
      calc rest.foldl (fun value digit => value * base + digit) (start * base + digit)
          < (start * base + digit + 1) * base ^ rest.length := ih h.2 _
        _ ≤ (start + 1) * base * base ^ rest.length := Nat.mul_le_mul_right _ hstep
        _ = (start + 1) * base ^ (digit :: rest).length := by
            rw [List.length_cons, Nat.pow_succ, Nat.mul_assoc, Nat.mul_comm base]

theorem ofDigits_lt_pow_length {base : Nat} {digits : List Nat}
    (h : ∀ digit ∈ digits, digit < base) : ofDigits base digits < base ^ digits.length := by
  simpa [ofDigits] using foldl_digits_lt h 0

theorem toNat_sub_lt_of_isDigit {char : Char} (h : isDigit char = true) : char.toNat - 48 < 10 := by
  simp only [isDigit, Bool.and_eq_true, decide_eq_true_eq, Char.le_def, UInt32.le_iff_toNat_le] at h
  have hupper : char.toNat ≤ 57 := h.2
  omega

theorem ofDigits_digitsOf_lt {whole : List Char} (h : ∀ char ∈ whole, isDigit char = true) :
    ofDigits 10 (digitsOf whole) < 10 ^ whole.length := by
  have hdigits : ∀ digit ∈ digitsOf whole, digit < 10 := by
    intro digit hdigit
    obtain ⟨char, hchar, rfl⟩ := List.mem_map.mp hdigit
    exact toNat_sub_lt_of_isDigit (h char hchar)
  simpa [digitsOf] using ofDigits_lt_pow_length hdigits

theorem isDigit_of_readWhole {chars whole rest : List Char}
    (h : readWhole chars = some (whole, rest)) : ∀ char ∈ whole, isDigit char = true := by
  unfold readWhole at h
  split at h
  · cases h
    simp [isDigit]
  · split at h
    · cases h
    · cases h
      exact List.all_eq_true.mp List.all_takeWhile

theorem isWritable_of_natAbs_lt {number : Int} {count : Nat} (hless : number.natAbs < 10 ^ count)
    (hcount : count ≤ maxDigits) : isWritable number = true := by
  -- the bound stays a variable here, since nobody wants to see the power worked out
  have hbound : ∀ bound, count ≤ bound → number.natAbs < Nat.pow 10 bound := by
    intro bound hle
    exact Nat.lt_of_lt_of_le hless (Nat.pow_le_pow_right (by omega) hle)
  exact decide_eq_true (hbound maxDigits hcount)

theorem IsJson.of_readMagnitude {negative : Bool} {chars rest : List Char} {value : Value}
    (h : readMagnitude negative chars = .ok (value, rest)) : IsJson value := by
  unfold readMagnitude at h
  split at h
  · cases h
  · rename_i whole after hwhole
    dsimp only at h
    split at h
    · cases h
      exact .float _
    · split at h
      · cases h
      · rename_i hcount
        cases h
        refine .int (isWritable_of_natAbs_lt ?_ (Nat.le_of_not_lt hcount))
        have hless := ofDigits_digitsOf_lt (isDigit_of_readWhole hwhole)
        split
        · rwa [Int.natAbs_neg]
        · exact hless

theorem IsJson.of_readWord {chars rest : List Char} {value : Value}
    (h : readWord chars = some (value, rest)) : IsJson value := by
  obtain ⟨⟨word, found⟩, hmem, hfound⟩ := List.exists_of_findSome?_eq_some h
  dsimp only at hfound
  split at hfound
  · cases hfound
    have hwords : ∀ entry ∈ words, IsJson entry.2 := by
      simp only [words, List.forall_mem_cons]
      exact ⟨.null, .bool _, .bool _, .float _, .float _, .float _, nofun⟩
    exact hwords _ hmem
  · cases hfound

theorem IsJson.of_readScalar {chars rest : List Char} {value : Value}
    (h : readScalar chars = .ok (value, rest)) : IsJson value := by
  unfold readScalar at h
  split at h
  · rename_i hword
    cases h
    exact .of_readWord hword
  · split at h
    · exact .of_readMagnitude h
    · exact .of_readMagnitude h

/-! ### Values -/

theorem IsJson.put {value : Value} {before : List (Key × Value)}
    (hbefore : IsJson (.dict before)) (hvalue : IsJson value) (name : String) :
    IsJson (.dict (put (.text name) value before)) := by
  cases hbefore with
  | dict hkeys hvalues hnodup =>
      refine .dict ?_ ?_ (nodup_keys_put hnodup)
      · intro member hmember
        rcases eq_or_mem_of_mem_put hmember with rfl | hold
        · exact ⟨name, rfl⟩
        · exact hkeys member hold
      · intro member hmember
        rcases eq_or_mem_of_mem_put hmember with rfl | hold
        · exact hvalue
        · exact hvalues member hold

theorem IsJson.of_mem_items {items : List Value} (h : IsJson (.list items)) :
    ∀ item ∈ items, IsJson item := by
  cases h with
  | list hitems => exact hitems

theorem IsJson.of_mem_members {members : List (Key × Value)} (h : IsJson (.dict members)) :
    ∀ member ∈ members, IsJson member.2 := by
  cases h with
  | dict _ hvalues _ => exact hvalues

theorem IsJson.of_lookup? {members : List (Key × Value)} (h : IsJson (.dict members))
    (name : String) : ∀ value ∈ lookup? name members, IsJson value := by
  intro value hvalue
  exact h.of_mem_members _ (mem_of_lookup? hvalue)

theorem isJson_dict_nil : IsJson (.dict []) :=
  .dict (by simp) (by simp) List.nodup_nil

/-- Whatever a reader with so much fuel reads is what a JSON text can hold. -/
structure ReadsJson (fuel : Nat) : Prop where
  value : ∀ chars value rest, readValue fuel chars = .ok (value, rest) → IsJson value
  items : ∀ chars items rest, readItems fuel chars = .ok (items, rest) → IsJson (.list items)
  members : ∀ chars before members rest, IsJson (.dict before) →
    readMembers fuel chars before = .ok (members, rest) → IsJson (.dict members)

theorem ReadsJson.readValue_succ {fuel : Nat} (h : ReadsJson fuel) {chars rest : List Char}
    {value : Value} (hread : readValue (fuel + 1) chars = .ok (value, rest)) : IsJson value := by
  unfold readValue at hread
  split at hread
  · split at hread
    · cases hread
    · cases hread
      exact .str _
  · split at hread
    · cases hread
      exact .list (by simp)
    · obtain ⟨⟨items, left⟩, hitems, heq⟩ := map_eq_ok hread
      cases heq
      exact h.items _ _ _ hitems
  · split at hread
    · cases hread
      exact isJson_dict_nil
    · obtain ⟨⟨members, left⟩, hmembers, heq⟩ := map_eq_ok hread
      cases heq
      exact h.members _ _ _ _ isJson_dict_nil hmembers
  · exact .of_readScalar hread

theorem ReadsJson.readItems_succ {fuel : Nat} (h : ReadsJson fuel) {chars rest : List Char}
    {items : List Value} (hread : readItems (fuel + 1) chars = .ok (items, rest)) :
    IsJson (.list items) := by
  unfold readItems at hread
  split at hread
  · cases hread
  · rename_i item after hitem
    have hfirst : IsJson item := h.value _ _ _ hitem
    split at hread
    · cases hread
      exact .list (by simpa using hfirst)
    · obtain ⟨⟨others, left⟩, hothers, heq⟩ := map_eq_ok hread
      cases heq
      cases h.items _ _ _ hothers with
      | list hrest => exact .list (List.forall_mem_cons.mpr ⟨hfirst, hrest⟩)
    · cases hread

theorem ReadsJson.readMembers_succ {fuel : Nat} (h : ReadsJson fuel) {chars rest : List Char}
    {before members : List (Key × Value)} (hbefore : IsJson (.dict before))
    (hread : readMembers (fuel + 1) chars before = .ok (members, rest)) :
    IsJson (.dict members) := by
  unfold readMembers at hread
  split at hread
  · cases hread
  · rename_i heq
    cases heq
    split at hread
    · cases hread
    · split at hread
      · split at hread
        · cases hread
        · rename_i value after hvalue
          have hmore := hbefore.put (h.value _ _ _ hvalue)
          dsimp only at hread
          split at hread
          · cases hread
            exact hmore _
          · exact h.members _ _ _ _ (hmore _) hread
          · cases hread
      · cases hread
  · cases hread

theorem readsJson (fuel : Nat) : ReadsJson fuel := by
  induction fuel with
  | zero => exact ⟨nofun, nofun, nofun⟩
  | succ fuel ih =>
      exact ⟨fun _ _ _ => ih.readValue_succ, fun _ _ _ => ih.readItems_succ,
        fun _ _ _ _ => ih.readMembers_succ⟩

theorem IsJson.of_read {text : String} {value : Value} (h : read text = .ok value) :
    IsJson value := by
  unfold read at h
  dsimp only at h
  split at h
  · cases h
  · rename_i found rest hfound
    split at h
    · cases h
      exact (readsJson _).value _ _ _ hfound
    · cases h

/-! ### Blank texts -/

theorem isDigit_of_isBlank {char : Char} (h : isBlank char = true) : isDigit char = false := by
  by_contra hdigit
  rw [Bool.not_eq_false] at hdigit
  simp only [isDigit, Bool.and_eq_true, decide_eq_true_eq, Char.le_def, UInt32.le_iff_toNat_le]
    at hdigit
  have hlower : 48 ≤ char.toNat := hdigit.1
  have hupper : char.toNat ≤ 57 := hdigit.2
  simp only [isBlank, Bool.or_eq_true, Bool.and_eq_true, decide_eq_true_eq, beq_iff_eq] at h
  omega

theorem readWord_of_isBlank {char : Char} (h : isBlank char = true) (rest : List Char) :
    readWord (char :: rest) = none := by
  have hwords : ∀ entry ∈ words, ∃ first after,
      entry.1 = first :: after ∧ isBlank first = false := by
    simp only [words, List.forall_mem_cons]
    exact ⟨⟨_, _, rfl, rfl⟩, ⟨_, _, rfl, rfl⟩, ⟨_, _, rfl, rfl⟩, ⟨_, _, rfl, rfl⟩, ⟨_, _, rfl, rfl⟩,
      ⟨_, _, rfl, rfl⟩, nofun⟩
  refine List.findSome?_eq_none_iff.mpr fun entry hentry => if_neg fun hstarts => ?_
  obtain ⟨first, after, hword, hnotBlank⟩ := hwords entry hentry
  rw [hword, List.isPrefixOf_cons_cons, Bool.and_eq_true, beq_iff_eq] at hstarts
  rw [hstarts.1, h] at hnotBlank
  cases hnotBlank

theorem readScalar_of_isBlank {char : Char} (h : isBlank char = true) (rest : List Char) :
    readScalar (char :: rest) = .error .malformed := by
  have hwhole : readWhole (char :: rest) = none := by
    unfold readWhole
    split
    · rename_i heq
      cases heq
      cases h
    · rw [List.takeWhile_cons, isDigit_of_isBlank h]
      rfl
  unfold readScalar
  rw [readWord_of_isBlank h]
  dsimp only
  split
  · rename_i heq
    cases heq
    cases h
  · rw [readMagnitude, hwhole]

theorem not_all_isBlank_of_read {text : String} {value : Value} (h : read text = .ok value) :
    text.toList.all isBlank = false := by
  by_contra hblank
  rw [Bool.not_eq_false] at hblank
  have hfault : ∀ fuel, readValue fuel (skipSpace text.toList) = .error .malformed := by
    intro fuel
    cases fuel with
    | zero => rfl
    | succ fuel =>
        have hall : ∀ char ∈ skipSpace text.toList, isBlank char = true := fun char hchar =>
          List.all_eq_true.mp hblank char ((List.dropWhile_suffix isSpace).mem hchar)
        unfold readValue
        generalize skipSpace text.toList = chars at hall ⊢
        split
        · cases hall _ List.mem_cons_self
        · cases hall _ List.mem_cons_self
        · cases hall _ List.mem_cons_self
        · cases chars with
          | nil => rfl
          | cons char rest => exact readScalar_of_isBlank (hall char List.mem_cons_self) rest
  rw [read, hfault] at h
  cases h

end RecordDocs.Json
