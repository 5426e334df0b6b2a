import RecordDocs.Proofs.JsonValues
import RecordDocs.Proofs.Members

/-!
# Members that occur again

A JSON text may give one object several members of the same name. Read verbatim, an object has all
members that stand in the text, in order. The reader gives the same value with its members merged:
of the members of one name the last value is left, in the place of the first. So what it drops is
exactly what was said under a name before the last time.
-/

namespace RecordDocs

/-! ### Merging -/

namespace Value

mutual

/-- The value with the members of each dictionary in it set one after the other. -/
def merged : Value → Value
  | .list items => .list (mergedItems items)
  | .dict members => .dict (putAll [] (mergedMembers members))
  | value => value

def mergedItems : List Value → List Value
  | [] => []
  | item :: rest => item.merged :: mergedItems rest

def mergedMembers : List (Key × Value) → List (Key × Value)
  | [] => []
  | (key, value) :: rest => (key, value.merged) :: mergedMembers rest

end

variable {members : List (Key × Value)}

theorem mergedItems_eq_map (items : List Value) : mergedItems items = items.map merged := by
  induction items with
  | nil => rfl
  | cons item rest ih => rw [mergedItems, ih, List.map_cons]

theorem mergedMembers_eq_map (members : List (Key × Value)) :
    mergedMembers members = members.map (Prod.map id merged) := by
  induction members with
  | nil => rfl
  | cons member rest ih => rw [mergedMembers, ih, List.map_cons, Prod.map_apply, id_eq]

theorem map_fst_mergedMembers (members : List (Key × Value)) :
    (mergedMembers members).map Prod.fst = members.map Prod.fst := by
  rw [mergedMembers_eq_map, List.map_map]
  rfl

theorem lookup?_mergedMembers (name : String) (members : List (Key × Value)) :
    lookup? name (mergedMembers members) = (lookup? name members).map merged := by
  induction members with
  | nil => rfl
  | cons member rest ih =>
      rw [mergedMembers, lookup?, lookup?, ih]
      split <;> rfl

theorem lookup?_putAll_mergedMembers (name : String) (members : List (Key × Value)) :
    lookup? name (putAll [] (mergedMembers members))
      = (lookup? name members.reverse).map merged := by
  rw [lookup?_eq_lookup, lookup_putAll, List.append_nil, ← lookup?_eq_lookup, mergedMembers_eq_map,
    ← List.map_reverse, ← mergedMembers_eq_map, lookup?_mergedMembers]

theorem map_fst_putAll_mergedMembers (members : List (Key × Value)) :
    (putAll [] (mergedMembers members)).map Prod.fst = (members.map Prod.fst).eraseDups := by
  have hnone : ([] : List (Key × Value)).map Prod.fst = ([] : List Key).eraseDups := rfl
  rw [map_fst_putAll hnone, List.nil_append, map_fst_mergedMembers]

theorem exists_last_of_mem_putAll {name : String} {value : Value}
    (h : (.text name, value) ∈ putAll [] (mergedMembers members)) :
    ∃ before body after, members = before ++ (.text name, body) :: after ∧
      .text name ∉ after.map Prod.fst ∧ body.merged = value := by
  have hnodup : ((putAll [] (mergedMembers members)).map Prod.fst).Nodup := by
    rw [map_fst_putAll_mergedMembers]
    exact nodup_eraseDups _
  have hlookup := lookup?_of_mem hnodup h
  rw [lookup?_putAll_mergedMembers, Option.map_eq_some_iff] at hlookup
  obtain ⟨body, hbody, hmerged⟩ := hlookup
  rw [lookup?_eq_lookup, List.lookup_eq_some_iff] at hbody
  obtain ⟨after, before, hsplit, hnew⟩ := hbody
  refine ⟨before.reverse, body, after.reverse, ?_, ?_, hmerged⟩
  · simpa using congrArg List.reverse hsplit
  · intro hagain
    obtain ⟨other, hother, hname⟩ := List.mem_map.mp hagain
    have hne := hnew other (List.mem_reverse.mp hother)
    rw [hname, bne_self_eq_false] at hne
    cases hne

end Value

/-! ### Reading verbatim -/

namespace Json

mutual

def verbatimValue : Nat → List Char → Except Fault (Value × List Char)
  | 0, _ => .error .malformed
  | fuel + 1, chars =>
      match chars with
      | '"' :: rest =>
          match readString rest with
          | none => .error .malformed
          | some (text, left) => .ok (.str text, left)
      | '[' :: rest =>
          match skipSpace rest with
          | ']' :: left => .ok (.list [], left)
          | items => (verbatimItems fuel items).map fun (items, left) => (.list items, left)
      | '\x7b' :: rest =>
          match skipSpace rest with
          | '\x7d' :: left => .ok (.dict [], left)
          | members =>
              (verbatimMembers fuel members).map fun (members, left) => (.dict members, left)
      | _ => readScalar chars

def verbatimItems : Nat → List Char → Except Fault (List Value × List Char)
  | 0, _ => .error .malformed
  | fuel + 1, chars =>
      match verbatimValue fuel chars with
      | .error fault => .error fault
      | .ok (item, rest) =>
          match skipSpace rest with
          | ']' :: left => .ok ([item], left)
          | ',' :: more =>
              (verbatimItems fuel (skipSpace more)).map fun (items, left) => (item :: items, left)
          | _ => .error .malformed

def verbatimMembers : Nat → List Char → Except Fault (List (Key × Value) × List Char)
  | 0, _ => .error .malformed
  | fuel + 1, '"' :: chars =>
      match readString chars with
      | none => .error .malformed
      | some (name, rest) =>
          match skipSpace rest with
          | ':' :: rest =>
              match verbatimValue fuel (skipSpace rest) with
              | .error fault => .error fault
              | .ok (value, rest) =>
                  match skipSpace rest with
                  | '\x7d' :: left => .ok ([(.text name, value)], left)
                  | ',' :: more =>
                      (verbatimMembers fuel (skipSpace more)).map fun (members, left) =>
                        ((.text name, value) :: members, left)
                  | _ => .error .malformed
          | _ => .error .malformed
  | _ + 1, _ => .error .malformed

end

/-- Reads a text that holds one value, with all members that stand in it. -/
def verbatim (text : String) : Except Fault Value :=
  let chars := text.toList
  match verbatimValue (2 * chars.length + 2) (skipSpace chars) with
  | .error fault => .error fault
  | .ok (value, rest) => if (skipSpace rest).isEmpty then .ok value else .error .malformed

theorem IsJson.merged_eq {value : Value} (h : IsJson value) : value.merged = value := by
  induction h with
  | list _ ih => rw [Value.merged, Value.mergedItems_eq_map, List.map_congr_left ih, List.map_id']
  | dict _ _ hnodup ih =>
      rename_i members _ _
      have hmembers : Value.mergedMembers members = members := by
        rw [Value.mergedMembers_eq_map]
        conv_rhs => rw [← List.map_id members]
        exact List.map_congr_left fun member hmember =>
          Prod.ext rfl (ih member hmember)
      rw [Value.merged, hmembers, putAll_of_nodup hnodup, List.nil_append]
  | _ => rfl

/-- With so much fuel the reader gives what is read verbatim, merged. -/
structure Merges (fuel : Nat) : Prop where
  value : ∀ chars, readValue fuel chars = (verbatimValue fuel chars).map (Prod.map Value.merged id)
  items : ∀ chars,
    readItems fuel chars = (verbatimItems fuel chars).map (Prod.map Value.mergedItems id)
  members : ∀ chars before, readMembers fuel chars before
    = (verbatimMembers fuel chars).map
        (Prod.map (fun members => putAll before (Value.mergedMembers members)) id)

namespace Merges

variable {fuel : Nat}

theorem readScalar_eq (chars : List Char) :
    readScalar chars = (readScalar chars).map (Prod.map Value.merged id) := by
  cases hread : readScalar chars with
  | error fault => rfl
  | ok found =>
      have hmerged : found.1.merged = found.1 := (IsJson.of_readScalar hread).merged_eq
      exact congrArg Except.ok (Prod.ext hmerged.symm rfl)

theorem readValue_succ (h : Merges fuel) (chars : List Char) :
    readValue (fuel + 1) chars
      = (verbatimValue (fuel + 1) chars).map (Prod.map Value.merged id) := by
  unfold readValue
  split
  · rename_i rest
    simp only [verbatimValue]
    cases readString rest <;> rfl
  · rename_i rest
    split
    · rename_i hempty
      simp only [verbatimValue, hempty]
      rfl
    · simp only [verbatimValue]
      rw [h.items]
      cases verbatimItems fuel (skipSpace rest) <;> rfl
  · rename_i rest
    split
    · rename_i hempty
      simp only [verbatimValue, hempty]
      rfl
    · simp only [verbatimValue]
      rw [h.members]
      cases verbatimMembers fuel (skipSpace rest) <;> rfl
  · simp only [verbatimValue]
    exact readScalar_eq chars

theorem readItems_succ (h : Merges fuel) (chars : List Char) :
    readItems (fuel + 1) chars
      = (verbatimItems (fuel + 1) chars).map (Prod.map Value.mergedItems id) := by
  rw [readItems, h.value]
  cases hfound : verbatimValue fuel chars with
  | error fault =>
      simp only [verbatimItems, hfound]
      rfl
  | ok found =>
      dsimp only [Except.map, Prod.map, id_eq]
      split
      · rename_i hlast
        simp only [verbatimItems, hfound, hlast]
        rfl
      · rename_i more hmore
        simp only [verbatimItems, hfound, hmore]
        rw [h.items]
        cases verbatimItems fuel (skipSpace more) <;> rfl
      · simp only [verbatimItems, hfound]

theorem readMembers_succ (h : Merges fuel) (chars : List Char) (before : List (Key × Value)) :
    readMembers (fuel + 1) chars before
      = (verbatimMembers (fuel + 1) chars).map
          (Prod.map (fun members => putAll before (Value.mergedMembers members)) id) := by
  unfold readMembers
  split
  · contradiction
  · rename_i heq
    cases heq
    split
    · rename_i hstring
      simp only [verbatimMembers, hstring]
      rfl
    · rename_i name rest hstring
      split
      · rename_i rest hcolon
        rw [h.value]
        cases hfound : verbatimValue fuel (skipSpace rest) with
        | error fault =>
            simp only [verbatimMembers, hstring, hcolon, hfound]
            rfl
        | ok found =>
            dsimp only [Except.map, Prod.map, id_eq]
            split
            · rename_i hlast
              simp only [verbatimMembers, hstring, hcolon, hfound, hlast]
              rfl
            · rename_i more hmore
              simp only [verbatimMembers, hstring, hcolon, hfound, hmore]
              rw [h.members]
              cases verbatimMembers fuel (skipSpace more) <;> rfl
            · simp only [verbatimMembers, hstring, hcolon, hfound]
      · simp only [verbatimMembers, hstring]
        rfl
  · simp only [verbatimMembers]
    rfl

end Merges

theorem merges (fuel : Nat) : Merges fuel := by
  induction fuel with
  | zero => exact ⟨fun _ => rfl, fun _ => rfl, fun _ _ => rfl⟩
  | succ fuel ih => exact ⟨ih.readValue_succ, ih.readItems_succ, ih.readMembers_succ⟩

/-- **Reading merges.** A text is read exactly if it is read verbatim, with the same faults, and the
value is the verbatim one with its members merged. -/
theorem read_eq_map_merged (text : String) : read text = (verbatim text).map Value.merged := by
  rw [read, verbatim, (merges _).value]
  cases verbatimValue (2 * text.toList.length + 2) (skipSpace text.toList) with
  | error fault => rfl
  | ok found =>
      dsimp only [Except.map, Prod.map, id_eq]
      split <;> rfl

end Json

end RecordDocs
