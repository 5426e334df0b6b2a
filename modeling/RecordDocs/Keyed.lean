/-!
# Lists with keys

An ordered map is a list of keys with values. Setting a key that is present keeps its place and
replaces its value; a new key comes last. Distinct keys stay distinct, and of several values that
one key is set to, the last is kept in the place of the first.
-/

namespace RecordDocs

variable {κ α : Type} [DecidableEq κ]

def put (key : κ) (value : α) : List (κ × α) → List (κ × α)
  | [] => [(key, value)]
  | (other, old) :: rest =>
      if other = key then (other, value) :: rest else (other, old) :: put key value rest

def putAll (before entries : List (κ × α)) : List (κ × α) :=
  entries.foldl (fun all entry => put entry.1 entry.2 all) before

theorem mem_keys_put {key other : κ} {value : α} {entries : List (κ × α)}
    (h : other ∈ (put key value entries).map Prod.fst) :
    other = key ∨ other ∈ entries.map Prod.fst := by
  induction entries with
  | nil => simpa [put] using h
  | cons entry rest ih =>
    obtain ⟨first, old⟩ := entry
    simp only [put] at h
    split at h
    · right
      simpa using h
    · simp only [List.map_cons, List.mem_cons] at h ⊢
      rcases h with rfl | h
      · exact .inr (.inl rfl)
      · rcases ih h with h | h
        · exact .inl h
        · exact .inr (.inr h)

theorem eq_or_mem_of_mem_put {key : κ} {value : α} {entries : List (κ × α)} {entry : κ × α}
    (h : entry ∈ put key value entries) : entry = (key, value) ∨ entry ∈ entries := by
  induction entries with
  | nil => simpa [put] using h
  | cons first rest ih =>
    rw [put] at h
    split at h
    · rename_i heq
      rw [heq, List.mem_cons] at h
      exact h.imp_right (List.mem_cons_of_mem first)
    · rw [List.mem_cons] at h ⊢
      rcases h with rfl | h
      · exact .inr (.inl rfl)
      · exact (ih h).imp_right .inr

theorem put_of_not_mem {key : κ} {value : α} {entries : List (κ × α)}
    (h : key ∉ entries.map Prod.fst) : put key value entries = entries ++ [(key, value)] := by
  induction entries with
  | nil => rfl
  | cons entry rest ih =>
    obtain ⟨first, old⟩ := entry
    simp only [List.map_cons, List.mem_cons, not_or] at h
    rw [put, if_neg (Ne.symm h.1), ih h.2]
    rfl

theorem put_eq_append {key : κ} {value : α} {before after : List (κ × α)}
    (h : ((before ++ (key, value) :: after).map Prod.fst).Nodup) :
    put key value before = before ++ [(key, value)] := by
  apply put_of_not_mem
  intro hmem
  rw [List.map_append, List.nodup_append] at h
  exact h.2.2 key hmem key List.mem_cons_self rfl

theorem map_fst_put (key : κ) (value : α) (entries : List (κ × α)) :
    (put key value entries).map Prod.fst
      = if key ∈ entries.map Prod.fst then entries.map Prod.fst
        else entries.map Prod.fst ++ [key] := by
  induction entries with
  | nil => rfl
  | cons entry rest ih =>
    obtain ⟨first, old⟩ := entry
    by_cases heq : first = key
    · simp [put, heq]
    · rw [put, if_neg heq, List.map_cons, List.map_cons, ih]
      by_cases hmem : key ∈ rest.map Prod.fst
      · rw [if_pos hmem, if_pos (List.mem_cons_of_mem _ hmem)]
      · have hnew : key ∉ first :: rest.map Prod.fst := by
          simpa [Ne.symm heq] using hmem
        rw [if_neg hmem, if_neg hnew]
        rfl

theorem put_of_mem {key : κ} {value : α} {entries : List (κ × α)}
    (hnodup : (entries.map Prod.fst).Nodup) (h : (key, value) ∈ entries) :
    put key value entries = entries := by
  induction entries with
  | nil => cases h
  | cons entry rest ih =>
    obtain ⟨first, old⟩ := entry
    simp only [List.map_cons, List.nodup_cons] at hnodup
    rw [List.mem_cons, Prod.mk.injEq] at h
    rcases h with ⟨rfl, rfl⟩ | h
    · rw [put, if_pos rfl]
    · have hne : first ≠ key := fun heq => hnodup.1 (heq ▸ List.mem_map_of_mem h)
      rw [put, if_neg hne, ih hnodup.2 h]

theorem lookup_put [BEq κ] [LawfulBEq κ] (key other : κ) (value : α) (entries : List (κ × α)) :
    (put key value entries).lookup other
      = if other = key then some value else entries.lookup other := by
  induction entries with
  | nil =>
    by_cases heq : other = key
    · simp [put, heq]
    · rw [put, List.lookup_cons, beq_false_of_ne heq, if_neg heq]
  | cons entry rest ih =>
    obtain ⟨first, old⟩ := entry
    rw [put]
    by_cases hfirst : first = key
    · rw [if_pos hfirst, hfirst]
      by_cases heq : other = key
      · simp [heq]
      · rw [List.lookup_cons, List.lookup_cons, beq_false_of_ne heq, if_neg heq]
    · rw [if_neg hfirst]
      by_cases heq : other = first
      · simp [heq, hfirst]
      · rw [List.lookup_cons, List.lookup_cons, beq_false_of_ne heq, ih]

theorem nodup_keys_put {key : κ} {value : α} {entries : List (κ × α)}
    (h : (entries.map Prod.fst).Nodup) : ((put key value entries).map Prod.fst).Nodup := by
  induction entries with
  | nil => simp [put]
  | cons entry rest ih =>
    obtain ⟨first, old⟩ := entry
    simp only [List.map_cons, List.nodup_cons] at h
    simp only [put]
    split
    · simpa using h
    · rename_i hne
      simp only [List.map_cons, List.nodup_cons]
      refine ⟨fun hmem => ?_, ih h.2⟩
      rcases mem_keys_put hmem with heq | hmem
      · exact hne heq
      · exact h.1 hmem

/-! ### Repeated keys -/

theorem nodup_eraseDups (keys : List κ) : keys.eraseDups.Nodup := by
  match keys with
  | [] => exact List.nodup_nil
  | key :: rest =>
      rw [List.eraseDups_cons, List.nodup_cons]
      refine ⟨fun hmem => ?_, nodup_eraseDups _⟩
      simpa using List.mem_eraseDups.mp hmem
termination_by keys.length
decreasing_by exact Nat.lt_succ_of_le (List.length_filter_le ..)

theorem eraseDups_concat (seen : List κ) (key : κ) :
    (seen ++ [key]).eraseDups
      = if key ∈ seen then seen.eraseDups else seen.eraseDups ++ [key] := by
  rw [List.eraseDups_append]
  by_cases hmem : key ∈ seen
  · simp [List.removeAll, hmem]
  · simp [List.removeAll, List.eraseDups_cons, hmem]

/-- Setting keys one after the other leaves each of them once, in the place where it came first. -/
theorem map_fst_putAll {before : List (κ × α)} {seen : List κ}
    (hbefore : before.map Prod.fst = seen.eraseDups) (entries : List (κ × α)) :
    (putAll before entries).map Prod.fst = (seen ++ entries.map Prod.fst).eraseDups := by
  induction entries generalizing before seen with
  | nil => simpa [putAll] using hbefore
  | cons entry rest ih =>
    have hnext : (put entry.1 entry.2 before).map Prod.fst = (seen ++ [entry.1]).eraseDups := by
      rw [map_fst_put, hbefore, eraseDups_concat]
      simp only [List.mem_eraseDups]
    have hrest := ih hnext
    rw [List.append_assoc] at hrest
    exact hrest

/-- Of the values that a key is set to, the last is seen. -/
theorem lookup_putAll [BEq κ] [LawfulBEq κ] (key : κ) (before entries : List (κ × α)) :
    (putAll before entries).lookup key = (entries.reverse ++ before).lookup key := by
  induction entries generalizing before with
  | nil => rfl
  | cons entry rest ih =>
    obtain ⟨name, value⟩ := entry
    have hstep : (put name value before).lookup key = ((name, value) :: before).lookup key := by
      rw [lookup_put, List.lookup_cons]
      by_cases heq : key = name
      · rw [if_pos heq, heq, beq_self_eq_true]
      · rw [if_neg heq, beq_false_of_ne heq]
    calc (putAll before ((name, value) :: rest)).lookup key
        = (rest.reverse ++ put name value before).lookup key := ih _
      _ = (rest.reverse ++ ((name, value) :: before)).lookup key := by
          rw [List.lookup_append, List.lookup_append, hstep]
      _ = (((name, value) :: rest).reverse ++ before).lookup key := by
          rw [List.reverse_cons, List.append_assoc, List.singleton_append]

/-- Of entries that follow others, the last value counts; only without one do the others. -/
theorem lookup_putAll_append [BEq κ] [LawfulBEq κ] (front rest : List (κ × α)) (key : κ) :
    (putAll [] (front ++ rest)).lookup key
      = ((putAll [] rest).lookup key).or ((putAll [] front).lookup key) := by
  simp only [lookup_putAll, List.append_nil, List.reverse_append, List.lookup_append]

theorem lookup_of_mem [BEq κ] [LawfulBEq κ] {entries : List (κ × α)} {entry : κ × α}
    (hnodup : (entries.map Prod.fst).Nodup) (hmem : entry ∈ entries) :
    entries.lookup entry.1 = some entry.2 := by
  rw [← put_of_mem hnodup hmem, lookup_put, if_pos rfl]

theorem nodup_keys_putAll (entries : List (κ × α)) :
    ((putAll [] entries).map Prod.fst).Nodup := by
  have hkeys := map_fst_putAll (show ([] : List (κ × α)).map Prod.fst = [].eraseDups from rfl)
    entries
  rw [hkeys]
  exact nodup_eraseDups _

theorem put_map {β : Type} (convert : α → β) (key : κ) (value : α) (entries : List (κ × α)) :
    put key (convert value) (entries.map fun entry => (entry.1, convert entry.2))
      = (put key value entries).map fun entry => (entry.1, convert entry.2) := by
  induction entries with
  | nil => rfl
  | cons entry rest ih =>
    obtain ⟨first, old⟩ := entry
    by_cases heq : first = key
    · simp [put, heq]
    · simp [put, heq, ih]

/-- Values may be converted before they are set or afterwards. -/
theorem putAll_map {β : Type} (convert : α → β) (before entries : List (κ × α)) :
    putAll (before.map fun entry => (entry.1, convert entry.2))
        (entries.map fun entry => (entry.1, convert entry.2))
      = (putAll before entries).map fun entry => (entry.1, convert entry.2) := by
  induction entries generalizing before with
  | nil => rfl
  | cons entry rest ih =>
    calc putAll (before.map fun entry => (entry.1, convert entry.2))
          ((entry :: rest).map fun entry => (entry.1, convert entry.2))
        = putAll ((put entry.1 entry.2 before).map fun entry => (entry.1, convert entry.2))
            (rest.map fun entry => (entry.1, convert entry.2)) := by
          rw [← put_map]
          rfl
      _ = (putAll before (entry :: rest)).map fun entry => (entry.1, convert entry.2) := ih _

theorem mem_of_mem_putAll {before entries : List (κ × α)} {entry : κ × α}
    (h : entry ∈ putAll before entries) : entry ∈ before ∨ entry ∈ entries := by
  induction entries generalizing before with
  | nil => exact .inl h
  | cons first rest ih =>
    rcases ih h with hmem | hmem
    · rcases eq_or_mem_of_mem_put hmem with rfl | hbefore
      · exact .inr List.mem_cons_self
      · exact .inl hbefore
    · exact .inr (List.mem_cons_of_mem _ hmem)

theorem putAll_of_nodup {before entries : List (κ × α)}
    (h : ((before ++ entries).map Prod.fst).Nodup) : putAll before entries = before ++ entries := by
  induction entries generalizing before with
  | nil => exact (List.append_nil before).symm
  | cons entry rest ih =>
    have hput : put entry.1 entry.2 before = before ++ [entry] := put_eq_append h
    rw [List.append_cons] at h ⊢
    rw [← ih h, ← hput]
    rfl

end RecordDocs
