import Mathlib.Data.List.Nodup
import RecordDocs.Proofs.Locality
import RecordDocs.Proofs.Outcomes

/-!
# Making and merging registries

A registry can be made of entries exactly if all of them are records under distinct names; if not,
the error is about the first entry that does not fit. Two registries can be merged exactly if they
share no name, and what comes of it is told by its records: those of the first, followed by those of
the second. So merging is associative, and commutative but for the order.

Entries are added one by one, and what has been added are the entries before the one at hand. The
induction therefore keeps the whole list in view: the records added so far, and behind them the
entries that are left.
-/

namespace RecordDocs

namespace Registry

/-! ### Entries that do not fit -/

/-- The entry at a position does not fit in: it is no record, or its name is taken by an earlier
one. -/
inductive Misfits (entries : List Entry) (position : Nat) : RegistryError → Prop
  | notRecord {value : Value} (h : entries[position]? = some (.foreign value)) :
      Misfits entries position (.notRecord value.kind)
  | repeats {record other : RecordDefinition} {earlier : Nat}
      (h : entries[position]? = some (.record record)) (hearlier : earlier < position)
      (hother : entries[earlier]? = some (.record other))
      (hname : other.typeName = record.typeName) :
      Misfits entries position (.duplicate record.typeName)

def IsFirstMisfit (entries : List Entry) (position : Nat) (cause : RegistryError) : Prop :=
  Misfits entries position cause ∧ ∀ earlier < position, ∀ other, ¬ Misfits entries earlier other

variable {registry : Registry} {entries : List Entry} {records : List RecordDefinition}
  {position : Nat} {cause : RegistryError}

theorem Misfits.unique {other : RegistryError} (h : Misfits entries position cause)
    (hother : Misfits entries position other) : cause = other := by
  cases h with
  | notRecord hentry =>
      cases hother with
      | notRecord hsame =>
          cases Option.some.inj (hentry.symm.trans hsame)
          rfl
      | repeats hsame => cases Option.some.inj (hentry.symm.trans hsame)
  | repeats hentry =>
      cases hother with
      | notRecord hsame => cases Option.some.inj (hentry.symm.trans hsame)
      | repeats hsame =>
          cases Option.some.inj (hentry.symm.trans hsame)
          rfl

theorem IsFirstMisfit.unique {otherPosition : Nat} {other : RegistryError}
    (h : IsFirstMisfit entries position cause)
    (hother : IsFirstMisfit entries otherPosition other) : cause = other := by
  obtain rfl : position = otherPosition := by
    rcases Nat.lt_trichotomy position otherPosition with hlt | heq | hgt
    · exact absurd h.1 (hother.2 position hlt cause)
    · exact heq
    · exact absurd hother.1 (h.2 otherPosition hgt other)
  exact h.1.unique hother.1

theorem not_misfits_of_lt (hnodup : (records.map (·.typeName)).Nodup)
    (hlt : position < records.length) :
    ¬ Misfits (records.map .record ++ entries) position cause := by
  have hentry : ∀ index, (hindex : index < records.length) →
      (records.map Entry.record ++ entries)[index]? = some (.record records[index]) := by
    intro index hindex
    rw [List.getElem?_append_left (by simpa using hindex)]
    simp [hindex]
  intro hmisfits
  cases hmisfits with
  | notRecord h =>
      rw [hentry position hlt] at h
      cases h
  | @repeats record other earlier h hearlier hother hname =>
      have hbefore : earlier < records.length := by omega
      rw [hentry position hlt] at h
      rw [hentry earlier hbefore] at hother
      cases h
      cases hother
      have hsame : records[earlier] = records[position] :=
        List.inj_on_of_nodup_map hnodup (List.getElem_mem hbefore) (List.getElem_mem hlt) hname
      have hindex : earlier = position :=
        (List.Nodup.getElem_inj_iff (List.Nodup.of_map _ hnodup)).mp hsame
      omega

theorem misfits_of_addEntry {entry : Entry} {rest : List Entry}
    (h : registry.addEntry entry = .error cause) :
    Misfits (registry.records.map .record ++ entry :: rest) registry.records.length cause := by
  have hentry : (registry.records.map Entry.record ++ entry :: rest)[registry.records.length]?
      = some entry := by
    rw [List.getElem?_append_right (by simp)]
    simp
  cases entry with
  | foreign value =>
      cases h
      exact .notRecord hentry
  | record record =>
      rw [addEntry, add] at h
      split at h
      · rename_i hmem
        cases h
        obtain ⟨other, hother, hname⟩ := List.mem_map.mp hmem
        obtain ⟨earlier, hearlier, rfl⟩ := List.getElem_of_mem hother
        refine .repeats hentry hearlier ?_ hname
        rw [List.getElem?_append_left (by simpa using hearlier)]
        simp [hearlier]
      · cases h

theorem exists_isFirstMisfit (h : registry.addAll entries = .error cause) :
    ∃ position, IsFirstMisfit (registry.records.map .record ++ entries) position cause := by
  induction entries generalizing registry with
  | nil => cases h
  | cons entry rest ih =>
      rw [addAll, List.foldlM_cons] at h
      cases hentry : registry.addEntry entry with
      | error first =>
          rw [hentry] at h
          cases h
          exact ⟨registry.records.length, misfits_of_addEntry hentry,
            fun earlier hearlier _ => not_misfits_of_lt registry.names_nodup hearlier⟩
      | ok next =>
          rw [hentry] at h
          cases entry with
          | foreign value => cases hentry
          | record record =>
              -- The record has moved from the entries that are left to those before them.
              obtain ⟨position, hfirst⟩ := ih h
              rw [add_eq_ok hentry, List.map_append, List.append_assoc] at hfirst
              exact ⟨position, hfirst⟩

/-! ### Making registries -/

theorem ext {other : Registry} (h : registry.records = other.records) : registry = other := by
  obtain ⟨records, _⟩ := registry
  cases h
  rfl

theorem entries_eq_of_ofEntries (h : ofEntries entries = .ok registry) :
    entries = registry.records.map .record := by
  obtain ⟨added, rfl, hrecords⟩ := addAll_eq_ok h
  rw [hrecords]
  rfl

theorem ofEntries_records (registry : Registry) :
    ofEntries (registry.records.map .record) = .ok registry := by
  obtain ⟨other, hother, hrecords⟩ := exists_ofRecords_eq_ok registry.names_nodup
  rw [ext hrecords] at hother
  exact hother

theorem exists_ofEntries_eq_ok_iff : (∃ registry, ofEntries entries = .ok registry) ↔
    ∃ records : List RecordDefinition,
      entries = records.map .record ∧ (records.map (·.typeName)).Nodup := by
  constructor
  · rintro ⟨registry, h⟩
    exact ⟨registry.records, entries_eq_of_ofEntries h, registry.names_nodup⟩
  · rintro ⟨records, rfl, hnodup⟩
    obtain ⟨registry, h, -⟩ := exists_ofRecords_eq_ok hnodup
    exact ⟨registry, h⟩

theorem ofEntries_eq_error_iff : ofEntries entries = .error cause ↔
    ∃ position, IsFirstMisfit entries position cause := by
  constructor
  · exact fun h => exists_isFirstMisfit h
  · rintro ⟨position, hfirst⟩
    cases h : ofEntries entries with
    | ok registry =>
        -- All entries are records under distinct names then, and none of these misfits.
        have hlt : position < registry.records.length := by
          have hentry : ∃ entry, entries[position]? = some entry := by
            cases hfirst.1 with
            | notRecord h => exact ⟨_, h⟩
            | repeats h => exact ⟨_, h⟩
          obtain ⟨entry, hentry⟩ := hentry
          rw [entries_eq_of_ofEntries h] at hentry
          simpa using (List.getElem?_eq_some_iff.mp hentry).1
        have hfits : ¬ Misfits (registry.records.map .record ++ []) position cause :=
          not_misfits_of_lt registry.names_nodup hlt
        rw [List.append_nil, ← entries_eq_of_ofEntries h] at hfits
        exact absurd hfirst.1 hfits
    | error other =>
        obtain ⟨otherPosition, hother⟩ := exists_isFirstMisfit h
        rw [hfirst.unique hother]

/-! ### Merging -/

def join (registry other : Registry) : Except RegistryError Registry :=
  registry.merged (other.records.map .record)

variable {first second third joined other : Registry}

/-- What comes of merging is told by the records. -/
theorem join_eq_ok_iff :
    first.join second = .ok joined ↔ joined.records = first.records ++ second.records := by
  constructor
  · exact merged_eq_ok
  · intro hrecords
    rw [join, merged, ← List.map_append, ← hrecords]
    exact ofEntries_records joined

theorem exists_join_eq_ok_iff : (∃ joined, first.join second = .ok joined) ↔
    ∀ name ∈ first.typeNames, name ∉ second.typeNames := by
  have hnames : ((first.records ++ second.records).map (·.typeName)).Nodup ↔
      ∀ name ∈ first.typeNames, name ∉ second.typeNames := by
    rw [List.map_append, List.nodup_append]
    simp only [first.names_nodup, second.names_nodup, true_and]
    exact ⟨fun h name hfirst hsecond => h name hfirst name hsecond rfl,
      fun h name hfirst other hsecond heq => h name hfirst (heq ▸ hsecond)⟩
  rw [← hnames]
  constructor
  · rintro ⟨joined, h⟩
    rw [← join_eq_ok_iff.mp h]
    exact joined.names_nodup
  · intro hnodup
    exact ⟨⟨_, hnodup⟩, join_eq_ok_iff.mpr rfl⟩

theorem exists_of_sublist (h : records.Sublist joined.records) :
    ∃ registry : Registry, registry.records = records :=
  ⟨⟨records, (h.map _).nodup joined.names_nodup⟩, rfl⟩

theorem join_join_eq_ok_iff : first.join second >>= (·.join third) = .ok joined ↔
    joined.records = first.records ++ second.records ++ third.records := by
  constructor
  · intro h
    obtain ⟨left, hleft, h⟩ := bind_eq_ok h
    rw [join_eq_ok_iff.mp h, join_eq_ok_iff.mp hleft]
  · intro h
    obtain ⟨left, hleft⟩ := exists_of_sublist
      (h ▸ List.sublist_append_left (first.records ++ second.records) third.records)
    rw [join_eq_ok_iff.mpr hleft, ok_bind, join_eq_ok_iff, h, hleft]

theorem join_eq_ok_join_iff : second.join third >>= first.join = .ok joined ↔
    joined.records = first.records ++ second.records ++ third.records := by
  constructor
  · intro h
    obtain ⟨right, hright, h⟩ := bind_eq_ok h
    rw [join_eq_ok_iff.mp h, join_eq_ok_iff.mp hright, List.append_assoc]
  · intro h
    rw [List.append_assoc] at h
    obtain ⟨right, hright⟩ := exists_of_sublist
      (h ▸ List.sublist_append_right first.records (second.records ++ third.records))
    rw [join_eq_ok_iff.mpr hright, ok_bind, join_eq_ok_iff, h, hright]

theorem toOption_join_assoc (first second third : Registry) :
    (first.join second >>= (·.join third)).toOption
      = (second.join third >>= first.join).toOption := by
  have hoption : ∀ {outcome : Except RegistryError Registry} {joined : Registry},
      outcome.toOption = some joined ↔ outcome = .ok joined := by
    intro outcome joined
    cases outcome <;> simp [Except.toOption]
  refine Option.ext fun joined => ?_
  rw [hoption, hoption, join_join_eq_ok_iff, join_eq_ok_join_iff]

theorem join_comm (h : first.join second = .ok joined) :
    ∃ other, second.join first = .ok other ∧ joined.records.Perm other.records := by
  have hperm : (first.records ++ second.records).Perm (second.records ++ first.records) :=
    List.perm_append_comm
  have hrecords := join_eq_ok_iff.mp h
  obtain ⟨other, hother⟩ : ∃ other : Registry, other.records = second.records ++ first.records := by
    refine ⟨⟨_, (hperm.map (·.typeName)).nodup_iff.mp ?_⟩, rfl⟩
    rw [← hrecords]
    exact joined.names_nodup
  exact ⟨other, join_eq_ok_iff.mpr hother, by rwa [hrecords, hother]⟩

theorem agrees_of_perm (h : joined.records.Perm other.records) : joined.agrees other := by
  rw [agrees, Bool.and_eq_true, beq_iff_eq, List.all_eq_true]
  refine ⟨h.length_eq, fun record hrecord => ?_⟩
  exact List.contains_iff_mem.mpr (h.mem_iff.mp hrecord)

theorem get?_eq_of_records_perm (h : joined.records.Perm other.records) (name : String) :
    joined.table.get? name = other.table.get? name :=
  RecordTable.get?_eq_of_perm (h.symm.map _) name

/-- **Making and merging registries.** Entries make up a registry if and only if they are records
under distinct names; it holds just these, and otherwise the error is about the smallest position at
which there is no record or one whose name occurs before. Two registries can be merged if and only
if they share no name, and the names of the first are followed by those of the second. However
merging is grouped, it succeeds or fails alike and with the same result; in the other order it gives
an equal mapping; and merging in nothing, or into nothing, changes nothing. -/
theorem merging_laws :
    (∀ entries : List Entry,
      ((∃ registry, ofEntries entries = .ok registry) ↔ ∃ records : List RecordDefinition,
        entries = records.map .record ∧ (records.map (·.typeName)).Nodup) ∧
      (∀ registry, ofEntries entries = .ok registry → entries = registry.records.map .record) ∧
      ∀ cause, ofEntries entries = .error cause ↔
        ∃ position, IsFirstMisfit entries position cause) ∧
    ∀ first second third : Registry,
      ((∃ joined, first.join second = .ok joined) ↔
        ∀ name ∈ first.typeNames, name ∉ second.typeNames) ∧
      (∀ joined, first.join second = .ok joined →
        joined.records = first.records ++ second.records ∧
        joined.typeNames = first.typeNames ++ second.typeNames ∧
        ∃ other, second.join first = .ok other ∧ joined.agrees other ∧
          ∀ name, joined.table.get? name = other.table.get? name) ∧
      (first.join second >>= (·.join third)).toOption
        = (second.join third >>= first.join).toOption ∧
      first.merged [] = .ok first ∧ empty.join first = .ok first := by
  refine ⟨fun entries => ⟨exists_ofEntries_eq_ok_iff, fun _ => entries_eq_of_ofEntries,
    fun _ => ofEntries_eq_error_iff⟩, fun first second third => ⟨exists_join_eq_ok_iff,
    fun joined h => ?_, toOption_join_assoc first second third, ?_, ?_⟩⟩
  · have hrecords := join_eq_ok_iff.mp h
    obtain ⟨other, hother, hperm⟩ := join_comm h
    refine ⟨hrecords, ?_, other, hother, agrees_of_perm hperm, get?_eq_of_records_perm hperm⟩
    rw [typeNames, hrecords, List.map_append]
    rfl
  · rw [merged, List.append_nil]
    exact ofEntries_records first
  · exact join_eq_ok_iff.mpr rfl

open RecordTable (book author card works) in
/-- Works and a card make up a registry in either order, works with a second book do not: the error
is about the book that comes last. -/
theorem works_and_card_merge :
    (∃ joined other, works.join ⟨[card], by decide⟩ = .ok joined ∧
      joined.typeNames = ["Book", "Author", "Card"] ∧
      Registry.join ⟨[card], by decide⟩ works = .ok other ∧ joined.agrees other) ∧
    ofEntries [.record book, .record author, .record book] = .error (.duplicate "Book") := by
  obtain ⟨hentries, hmerging⟩ := merging_laws
  obtain ⟨hshare, hjoined, -⟩ := hmerging works ⟨[card], by decide⟩ empty
  obtain ⟨joined, hjoin⟩ := hshare.mpr (by decide)
  obtain ⟨-, hnames, other, hother, hagrees, -⟩ := hjoined joined hjoin
  refine ⟨⟨joined, other, hjoin, hnames, hother, hagrees⟩, ?_⟩
  refine ((hentries _).2.2 _).mpr ⟨2, @Misfits.repeats _ 2 book book 0 rfl (by decide) rfl rfl, ?_⟩
  intro earlier hearlier cause
  have hfits : ¬ Misfits ([book, author].map .record ++ [.record book]) earlier cause :=
    not_misfits_of_lt (by decide) hearlier
  exact hfits

end Registry

end RecordDocs
