import Mathlib.Data.List.Induction
import RecordDocs.Proofs.Outcomes
import RecordDocs.Proofs.ReferenceGraph
import RecordDocs.Proofs.RegistryRecords
import RecordDocs.Session

/-!
# The registries of a session

A session only ever adds registries: a step that makes one puts it in front of those that are held,
and every other step, whether it asks or fails, leaves the session as it is. So what a name stands
for is what the last step that made something for it declared, from that step on and without a
change; and what was declared are records under their own names, in the order in which they were
given.
-/

namespace RecordDocs

open Text

/-! ### A registry as a mapping -/

/-- Looked at as a mapping, a registry has distinct keys that are not blank, each with a record of
that name, and lists them as its type names; its size is their number. -/
structure Registry.Consistent (registry : Registry) : Prop where
  keys_nodup : registry.table.keys.Nodup
  not_blank : ∀ key ∈ registry.table.keys, allBlank key = false
  exists_record : ∀ key ∈ registry.table.keys, ∃ record, registry.table.get? key = some record
  own_name : ∀ key record, registry.table.get? key = some record → record.typeName = key
  keys_eq : registry.table.keys = registry.typeNames
  size_eq : registry.size = registry.table.keys.length

namespace Registry

variable {registry larger : Registry}

theorem eq_typeName_of_mem_entries {key : String} {record : RecordDefinition}
    (h : (key, record) ∈ registry.table.entries) : record.typeName = key := by
  obtain ⟨own, _, heq⟩ := List.mem_map.mp h
  cases heq
  rfl

theorem consistent (registry : Registry) : registry.Consistent where
  keys_nodup := registry.table.keys_nodup
  not_blank := by
    intro key hkey
    obtain ⟨⟨_, record⟩, hentry, rfl⟩ := List.mem_map.mp hkey
    obtain rfl := eq_typeName_of_mem_entries hentry
    exact record.typeName_not_blank
  exists_record _ := RecordTable.exists_get?_of_mem_keys
  own_name _ _ h := eq_typeName_of_mem_entries (RecordTable.get?_eq_some_iff.mp h)
  keys_eq := registry.keys_table
  size_eq := by rw [keys_table, typeNames, List.length_map, size]

/-! ### What is declared -/

end Registry

def EntryDraft.Defines (draft : EntryDraft) (record : RecordDefinition) : Prop :=
  draft.define = .ok (.record record)

namespace Session

inductive Adds (session : Session) : Addition → List RecordDefinition → Prop
  | entries {drafts : List EntryDraft} {added : List RecordDefinition}
      (h : List.Forall₂ EntryDraft.Defines drafts added) : Adds session (.entries drafts) added
  | registry {name : String} {other : Registry} (h : session.registry name = .ok other) :
      Adds session (.registry name) other.records

inductive Declares (session : Session) : Step → List RecordDefinition → Prop
  | create {target : String} {drafts : List EntryDraft} {records : List RecordDefinition}
      (h : List.Forall₂ EntryDraft.Defines drafts records) :
      Declares session (.create target drafts) records
  | fromTable {target : String} {drafts : List (String × RecordDraft)} {table : RecordTable}
      (h : RecordTable.ofDrafts drafts = .ok table)
      (hkeys : ∀ entry ∈ table.entries, entry.1 = entry.2.typeName) :
      Declares session (.fromTable target drafts) (table.entries.map Prod.snd)
  | merge {source target : String} {addition : Addition} {registry : Registry}
      {added : List RecordDefinition} (hsource : session.registry source = .ok registry)
      (hadded : session.Adds addition added) :
      Declares session (.merge source target addition) (registry.records ++ added)

end Session

namespace Registry

theorem addDrafts_eq_ok {registry larger : Registry} {drafts : List EntryDraft}
    (h : registry.addDrafts drafts = .ok larger) :
    ∃ added, List.Forall₂ EntryDraft.Defines drafts added ∧
      larger.records = registry.records ++ added := by
  induction drafts generalizing registry with
  | nil =>
      cases h
      exact ⟨[], .nil, (List.append_nil _).symm⟩
  | cons draft rest ih =>
      rw [addDrafts, List.foldlM_cons] at h
      obtain ⟨next, hnext, hrest⟩ := bind_eq_ok h
      obtain ⟨entry, hentry, hadd⟩ := bind_eq_ok hnext
      obtain ⟨added, hdefines, hrecords⟩ := ih hrest
      cases entry with
      | foreign value => cases mapError_eq_ok hadd
      | record record =>
          refine ⟨record :: added, .cons hentry hdefines, ?_⟩
          rw [hrecords, add_eq_ok (mapError_eq_ok hadd), List.append_assoc]
          rfl

end Registry

theorem forall₂_defines {drafts : List EntryDraft} {entries : List Entry}
    {added : List RecordDefinition}
    (h : List.Forall₂ (fun draft entry => draft.define = .ok entry) drafts entries)
    (hadded : entries = added.map .record) : List.Forall₂ EntryDraft.Defines drafts added := by
  rw [hadded, List.forall₂_map_right_iff] at h
  exact h

namespace Session

variable {session : Session} {step : Step} {name : String} {registry : Registry}

/-! ### One step -/

theorem declares_of_make (h : session.make step = some (name, .ok registry)) :
    session.Declares step registry.records := by
  cases step with
  | create target drafts =>
      obtain ⟨-, hmake⟩ := Prod.mk.inj (Option.some.inj h)
      obtain ⟨added, hdefines, hrecords⟩ := Registry.addDrafts_eq_ok hmake
      rw [hrecords]
      exact .create hdefines
  | fromTable target drafts =>
      obtain ⟨-, hmake⟩ := Prod.mk.inj (Option.some.inj h)
      obtain ⟨table, htable, hmake⟩ := bind_eq_ok hmake
      obtain ⟨hkeys, hrecords⟩ := Registry.ofTable_eq_ok (mapError_eq_ok hmake)
      rw [hrecords]
      exact .fromTable (mapError_eq_ok htable) hkeys
  | merge source target addition =>
      obtain ⟨-, hmake⟩ := Prod.mk.inj (Option.some.inj h)
      obtain ⟨held, hsource, hmake⟩ := bind_eq_ok hmake
      cases addition with
      | entries drafts =>
          obtain ⟨entries, hentries, hmake⟩ := bind_eq_ok hmake
          obtain ⟨added, hadded, hrecords⟩ :=
            Registry.exists_added_of_merged (mapError_eq_ok hmake)
          rw [hrecords]
          exact .merge hsource (.entries (forall₂_defines (forall₂_of_mapM_eq_ok hentries) hadded))
      | registry other =>
          obtain ⟨found, hfound, hmake⟩ := bind_eq_ok hmake
          rw [Registry.merged_eq_ok (mapError_eq_ok hmake)]
          exact .merge hsource (.registry hfound)
  | _ => cases h

/-- A step makes a registry and binds its name, or it leaves the session as it is. -/
theorem step_cases (session : Session) (step : Step) :
    (∃ name registry, session.make step = some (name, .ok registry) ∧
      (session.step step).1 = session.bind name registry) ∨
    (∀ name registry, session.make step ≠ some (name, .ok registry)) ∧
      (session.step step).1 = session := by
  rw [Session.step]
  split
  · rename_i name registry hmake
    exact .inl ⟨name, registry, hmake, rfl⟩
  · rename_i hmake
    exact .inr ⟨by simp [hmake], rfl⟩
  · rename_i hmake
    exact .inr ⟨by simp [hmake], rfl⟩

theorem step_of_make (h : session.make step = some (name, .ok registry)) :
    (session.step step).1 = session.bind name registry := by
  rcases session.step_cases step with ⟨target, made, hmake, hstep⟩ | ⟨hnone, -⟩
  · rw [h] at hmake
    cases hmake
    exact hstep
  · exact absurd h (hnone name registry)

theorem registry_bind_self (session : Session) (name : String) (registry : Registry) :
    (session.bind name registry).registry name = .ok registry := by
  simp [Session.registry, bind]

theorem registry_bind_of_ne {other : String} (hne : other ≠ name) (session : Session)
    (registry : Registry) :
    (session.bind name registry).registry other = session.registry other := by
  rw [Session.registry, Session.registry, bind, List.lookup_cons, beq_eq_false_iff_ne.mpr hne]

theorem registry_step (hnot : ∀ registry, session.make step ≠ some (name, .ok registry)) :
    (session.step step).1.registry name = session.registry name := by
  rcases session.step_cases step with ⟨target, made, hmake, hstep⟩ | ⟨-, hstep⟩
  · have hne : name ≠ target := by
      rintro rfl
      exact hnot made hmake
    rw [hstep, registry_bind_of_ne hne]
  · rw [hstep]

theorem registries_suffix_step (session : Session) (step : Step) :
    session.registries <:+ (session.step step).1.registries := by
  rcases session.step_cases step with ⟨target, made, -, hstep⟩ | ⟨-, hstep⟩
  · rw [hstep]
    exact List.suffix_cons _ _
  · exact (congrArg registries hstep).symm ▸ List.suffix_rfl

/-! ### A whole run -/

theorem run_append (session : Session) (first second : List Step) :
    (session.run (first ++ second)).1 = ((session.run first).1.run second).1 := by
  induction first generalizing session with
  | nil => rfl
  | cons step rest ih => exact ih (session.step step).1

theorem run_concat (session : Session) (steps : List Step) (step : Step) :
    (session.run (steps ++ [step])).1 = ((session.run steps).1.step step).1 := by
  rw [run_append]
  rfl

/-- Nothing that is held is ever dropped or changed. -/
theorem registries_suffix_run (session : Session) (steps : List Step) :
    session.registries <:+ (session.run steps).1.registries := by
  induction steps generalizing session with
  | nil => exact List.suffix_rfl
  | cons step rest ih => exact (session.registries_suffix_step step).trans (ih _)

/-- The step behind `before` made the registry that the name stands for, and it has stood for it
during all the steps since. -/
structure HeldSince (name : String) (registry : Registry) (before : List Step) (step : Step)
    (after : List Step) : Prop where
  make_eq : (empty.run before).1.make step = some (name, .ok registry)
  kept : ∀ meanwhile, meanwhile <+: after →
    (empty.run (before ++ step :: meanwhile)).1.registry name = .ok registry

theorem heldSince_of_make {steps : List Step}
    (h : (empty.run steps).1.make step = some (name, .ok registry)) :
    HeldSince name registry steps step [] := by
  refine ⟨h, fun meanwhile hmeanwhile => ?_⟩
  rw [List.prefix_nil.mp hmeanwhile, run_concat, step_of_make h, registry_bind_self]

theorem HeldSince.concat {before after : List Step} {last : Step}
    (h : HeldSince name registry before step after)
    (hlast : (empty.run (before ++ step :: (after ++ [last]))).1.registry name = .ok registry) :
    HeldSince name registry before step (after ++ [last]) := by
  refine ⟨h.make_eq, fun meanwhile hmeanwhile => ?_⟩
  rcases List.prefix_concat_iff.mp hmeanwhile with rfl | hearlier
  · exact hlast
  · exact h.kept meanwhile hearlier

theorem exists_heldSince {steps : List Step}
    (h : (empty.run steps).1.registry name = .ok registry) :
    ∃ before step after, steps = before ++ step :: after ∧
      HeldSince name registry before step after := by
  induction steps using List.reverseRecOn with
  | nil => cases h
  | append_singleton steps last ih =>
      by_cases hmake : ∃ made, (empty.run steps).1.make last = some (name, .ok made)
      · obtain ⟨made, hmake⟩ := hmake
        have hmade := h
        rw [run_concat, step_of_make hmake, registry_bind_self] at hmade
        cases hmade
        exact ⟨steps, last, [], rfl, heldSince_of_make hmake⟩
      · have hbefore := h
        rw [run_concat, registry_step (not_exists.mp hmake)] at hbefore
        obtain ⟨before, step, after, rfl, hheld⟩ := ih hbefore
        rw [List.append_assoc, List.cons_append] at h ⊢
        exact ⟨before, step, after ++ [last], rfl, hheld.concat h⟩

/-- **The registries of a session.** Whatever steps are taken, a registry that a name stands for is
consistent as a mapping. It was made by one of the steps, holds the records that this step declared,
in order, and the name has stood for it unchanged ever since. A step that makes no registry for a
name, because it only asks, makes one for another name or fails, leaves what the name stands for as
it is; and no step at all drops or changes a registry that has been held before. -/
theorem held_registries (steps : List Step) :
    (∀ name registry, (empty.run steps).1.registry name = .ok registry →
      registry.Consistent ∧ ∃ before step after, steps = before ++ step :: after ∧
        HeldSince name registry before step after ∧
        (empty.run before).1.Declares step registry.records) ∧
    (∀ step name, (∀ registry, (empty.run steps).1.make step ≠ some (name, .ok registry)) →
      (empty.run (steps ++ [step])).1.registry name = (empty.run steps).1.registry name) ∧
    ∀ later, (empty.run steps).1.registries <:+ (empty.run (steps ++ later)).1.registries := by
  refine ⟨fun name registry h => ?_, fun step name hnot => ?_, fun later => ?_⟩
  · obtain ⟨before, step, after, rfl, hheld⟩ := exists_heldSince h
    exact ⟨registry.consistent, before, step, after, rfl, hheld, declares_of_make hheld.make_eq⟩
  · rw [run_concat, registry_step hnot]
  · rw [run_append]
    exact registries_suffix_run _ later

open RecordTable (book author card) in
def lending : List Step :=
  [.create "shelf" [.record book.draft, .record author.draft],
    .create "shelf" [.record card.draft, .record card.draft],
    .merge "shelf" "desk" (.entries [.record card.draft]),
    .assign "shelf" (.str "Book")]

/-- The shelf that is made first is the one that is left, and the desk has its records in front. -/
theorem lending_keeps_shelf :
    (∃ shelf desk, (empty.run lending).1.registry "shelf" = .ok shelf ∧
      (empty.run lending).1.registry "desk" = .ok desk ∧
      shelf.typeNames = ["Book", "Author"] ∧ desk.typeNames = ["Book", "Author", "Card"] ∧
      shelf.Consistent ∧ ∃ before step after, lending = before ++ step :: after ∧
        HeldSince "shelf" shelf before step after ∧
        (empty.run before).1.Declares step shelf.records) ∧
    (∀ registry, (empty.run (lending.take 3)).1.make (.assign "shelf" (.str "Book"))
      ≠ some ("shelf", .ok registry)) ∧
    (empty.run lending).1.registry "shelf" = (empty.run (lending.take 3)).1.registry "shelf" := by
  have hshelf : ∃ shelf, (empty.run lending).1.registry "shelf" = .ok shelf ∧
      shelf.typeNames = ["Book", "Author"] := ⟨_, rfl, rfl⟩
  have hdesk : ∃ desk, (empty.run lending).1.registry "desk" = .ok desk ∧
      desk.typeNames = ["Book", "Author", "Card"] := ⟨_, rfl, rfl⟩
  obtain ⟨shelf, hshelf, hnames⟩ := hshelf
  obtain ⟨desk, hdesk, hdeskNames⟩ := hdesk
  refine ⟨⟨shelf, desk, hshelf, hdesk, hnames, hdeskNames,
    (held_registries lending).1 "shelf" shelf hshelf⟩, nofun, ?_⟩
  exact (held_registries (lending.take 3)).2.1 (.assign "shelf" (.str "Book")) "shelf" nofun

end Session

end RecordDocs
