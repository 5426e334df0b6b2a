import RecordDocs.Keyed
import RecordDocs.Value

/-!
# Members of dictionaries

A dictionary can be given another value for a name, or lose the name: what is looked up under every
other name stays as it is.
-/

namespace RecordDocs

theorem lookup?_eq_lookup (name : String) (members : List (Key × Value)) :
    lookup? name members = members.lookup (.text name) := by
  induction members with
  | nil => rfl
  | cons member rest ih =>
      rw [lookup?, List.lookup_cons, ih]
      by_cases heq : member.1 = .text name
      · rw [if_pos heq, heq, beq_self_eq_true]
      · rw [if_neg heq, beq_false_of_ne (Ne.symm heq)]

theorem lookup?_put (name other : String) (value : Value) (members : List (Key × Value)) :
    lookup? other (put (.text name) value members)
      = if other = name then some value else lookup? other members := by
  rw [lookup?_eq_lookup, lookup?_eq_lookup, lookup_put]
  simp only [Key.text.injEq]

def dropMember (name : String) (members : List (Key × Value)) : List (Key × Value) :=
  members.filter fun entry => entry.1 ≠ .text name

def dropInside (name : String) : Value → Value
  | .dict inner => .dict (dropMember name inner)
  | value => value

def changeMember (name : String) (change : Value → Value) (members : List (Key × Value)) :
    List (Key × Value) :=
  members.map fun entry => if entry.1 = .text name then (entry.1, change entry.2) else entry

theorem lookup?_dropMember (name other : String) (members : List (Key × Value)) :
    lookup? other (dropMember name members)
      = if other = name then none else lookup? other members := by
  induction members with
  | nil => simp [dropMember, lookup?]
  | cons entry rest ih =>
      obtain ⟨key, value⟩ := entry
      rw [dropMember] at ih ⊢
      by_cases hdropped : key = .text name
      · rw [List.filter_cons_of_neg (by simp [hdropped]), ih, hdropped, lookup?]
        by_cases hother : other = name
        · rw [if_pos hother, if_pos hother]
        · rw [if_neg fun heq => hother (Key.text.inj heq).symm]
      · rw [List.filter_cons_of_pos (by simp [hdropped]), lookup?, ih, lookup?]
        by_cases hother : other = name
        · rw [if_neg (hother ▸ hdropped), if_pos hother, if_pos hother]
        · rw [if_neg hother, if_neg hother]

theorem lookup?_changeMember (name other : String) (change : Value → Value)
    (members : List (Key × Value)) :
    lookup? other (changeMember name change members)
      = if other = name then (lookup? name members).map change else lookup? other members := by
  induction members with
  | nil => simp [changeMember, lookup?]
  | cons entry rest ih =>
      obtain ⟨key, value⟩ := entry
      rw [changeMember] at ih ⊢
      rw [List.map_cons]
      by_cases hother : other = name
      · subst hother
        rw [if_pos rfl] at ih ⊢
        by_cases hchanged : key = .text other
        · rw [if_pos hchanged, lookup?, if_pos hchanged, lookup?, if_pos hchanged]
          rfl
        · rw [if_neg hchanged, lookup?, if_neg hchanged, lookup?, if_neg hchanged, ih]
      · rw [if_neg hother] at ih ⊢
        by_cases hchanged : key = .text name
        · -- Its value has changed, but the entry is passed over all the same.
          have hne : key ≠ .text other := by
            rw [hchanged]
            exact fun heq => hother (Key.text.inj heq).symm
          rw [if_pos hchanged, lookup?, if_neg hne, lookup?, if_neg hne, ih]
        · rw [if_neg hchanged, lookup?, ih, lookup?]

end RecordDocs
