import Mathlib.Data.List.Lex
import Mathlib.Data.List.Sort
import Mathlib.Data.Prod.Lex
import Mathlib.Data.String.Basic
import RecordDocs.Frontend.Discovery
import RecordDocs.Proofs.ReferenceGraph

/-!
# What a discovery finds

The names that are considered are those of the built-in front-ends and then those of the plug-ins,
each where it first occurs, and behind every name there is one front-end: the built-in one or the
first plug-in of that name. A discovery takes the selected ones in this order and loads no other, so
that it depends on the enabled names as a set only, and on no plug-in that is not selected.
-/

namespace RecordDocs

open Text

variable {plugins others : List Plugin} {enabled other : Option (List String)}

/-! ### What is considered -/

def builtinNames : List String := ["yaml", "json"]

theorem map_name_builtin : Frontend.builtin.map (·.name) = builtinNames :=
  rfl

/-- The built-in names and then those of the plug-ins in small letters, each where it first
occurs. -/
def consideredNames (plugins : List Plugin) : List String :=
  builtinNames ++ ((plugins.map Plugin.key).filter fun name => name ∉ builtinNames).eraseDups

/-- What is behind a considered name: a built-in front-end, or the first plug-in of that name if it
has none that is built in. -/
inductive Provides (plugins : List Plugin) : Candidate → Prop where
  | builtin {frontend : Frontend} (hmem : frontend ∈ Frontend.builtin) :
      Provides plugins (.builtin frontend)
  | installed {plugin : Plugin} (hfree : plugin.key ∉ builtinNames)
      (hfirst : plugins.find? (fun other => other.key == plugin.key) = some plugin) :
      Provides plugins (.installed plugin)

namespace Plugin

theorem map_key_considered (taken : List String) (plugins : List Plugin) :
    (considered taken plugins).map key
      = ((plugins.map key).filter fun name => name ∉ taken).eraseDups := by
  induction plugins generalizing taken with
  | nil => rfl
  | cons plugin rest ih =>
      by_cases htaken : plugin.key ∈ taken
      · rw [considered, if_pos htaken, ih taken, List.map_cons,
          List.filter_cons_of_neg (by simpa using htaken)]
      · have hfilter : ((rest.map key).filter fun name => name ∉ plugin.key :: taken)
            = ((rest.map key).filter fun name => name ∉ taken).filter
                fun name => !name == plugin.key := by
          rw [List.filter_filter]
          apply List.filter_congr
          intro name _
          simp [not_or, beq_eq_decide]
        rw [considered, if_neg htaken, List.map_cons, ih (plugin.key :: taken), hfilter,
          List.map_cons, List.filter_cons_of_pos (by simpa using htaken), List.eraseDups_cons]

theorem mem_considered_iff {plugin : Plugin} {taken : List String} :
    plugin ∈ considered taken plugins ↔ plugin.key ∉ taken ∧
      plugins.find? (fun other => other.key == plugin.key) = some plugin := by
  induction plugins generalizing taken with
  | nil => simp [considered]
  | cons first rest ih =>
      by_cases hsame : first.key = plugin.key
      · rw [List.find?_cons_of_pos (by simpa using hsame), Option.some.injEq]
        by_cases htaken : first.key ∈ taken
        · rw [considered, if_pos htaken, ih]
          simp [← hsame, htaken]
        · rw [considered, if_neg htaken, List.mem_cons, ih]
          simp [← hsame, htaken, eq_comm]
      · have hne : plugin ≠ first := by
          rintro rfl
          exact hsame rfl
        rw [List.find?_cons_of_neg (by simpa using hsame)]
        by_cases htaken : first.key ∈ taken
        · rw [considered, if_pos htaken, ih]
        · rw [considered, if_neg htaken, List.mem_cons, ih]
          simp [hne, Ne.symm hsame]

end Plugin

theorem map_name_candidates (plugins : List Plugin) :
    (candidates plugins).map Candidate.name = consideredNames plugins := by
  rw [candidates, map_name_builtin, List.map_append, List.map_map, List.map_map, consideredNames,
    ← Plugin.map_key_considered]
  rfl

theorem mem_candidates_iff {candidate : Candidate} :
    candidate ∈ candidates plugins ↔ Provides plugins candidate := by
  rw [candidates, map_name_builtin, List.mem_append, List.mem_map, List.mem_map]
  constructor
  · rintro (⟨frontend, hmem, rfl⟩ | ⟨plugin, hmem, rfl⟩)
    · exact .builtin hmem
    · obtain ⟨hfree, hfirst⟩ := Plugin.mem_considered_iff.mp hmem
      exact .installed hfree hfirst
  · intro h
    cases h with
    | builtin hmem => exact .inl ⟨_, hmem, rfl⟩
    | installed hfree hfirst =>
        exact .inr ⟨_, Plugin.mem_considered_iff.mpr ⟨hfree, hfirst⟩, rfl⟩

theorem name_mem_of_builtin {frontend : Frontend} (h : frontend ∈ Frontend.builtin) :
    frontend.name ∈ builtinNames := by
  rw [← map_name_builtin]
  exact List.mem_map_of_mem h

theorem eq_of_builtin {first second : Frontend} (hfirst : first ∈ Frontend.builtin)
    (hsecond : second ∈ Frontend.builtin) (hname : first.name = second.name) : first = second := by
  have hnodup : (Frontend.builtin.map (·.name)).Nodup := by
    rw [map_name_builtin]
    decide
  exact List.inj_on_of_nodup_map hnodup hfirst hsecond hname

theorem Provides.eq_of_name {candidate again : Candidate} (h : Provides plugins candidate)
    (hagain : Provides others again) (hname : candidate.name = again.name)
    (hfirst : candidate.name ∉ builtinNames →
      plugins.find? (fun plugin => plugin.key == candidate.name)
        = others.find? (fun plugin => plugin.key == candidate.name)) : candidate = again := by
  cases h with
  | @builtin frontend hmem =>
      cases hagain with
      | builtin hmemAgain => rw [eq_of_builtin hmem hmemAgain hname]
      | @installed pluginAgain hfree _ =>
          have hkey : frontend.name = pluginAgain.key := hname
          exact absurd (hkey ▸ name_mem_of_builtin hmem) hfree
  | @installed plugin hfree hfind =>
      cases hagain with
      | @builtin frontendAgain hmemAgain =>
          have hkey : plugin.key = frontendAgain.name := hname
          exact absurd (hkey ▸ name_mem_of_builtin hmemAgain) hfree
      | @installed pluginAgain _ hfindAgain =>
          have hkey : plugin.key = pluginAgain.key := hname
          have heq : some plugin = some pluginAgain := by
            rw [← hfind, ← hfindAgain, ← hkey]
            exact hfirst hfree
          rw [Option.some.inj heq]

/-! ### What is asked for -/

def askedNames (enabled : Option (List String)) : List String :=
  (enabled.getD []).map Text.lowercase

def Selects (enabled : Option (List String)) (name : String) : Prop :=
  enabled = none ∨ name ∈ askedNames enabled

instance (enabled : Option (List String)) : DecidablePred (Selects enabled) :=
  fun name => inferInstanceAs (Decidable (enabled = none ∨ name ∈ askedNames enabled))

def selected (plugins : List Plugin) (enabled : Option (List String)) : List Candidate :=
  (candidates plugins).filter fun candidate => Selects enabled candidate.name

theorem map_name_selected (plugins : List Plugin) (enabled : Option (List String)) :
    (selected plugins enabled).map Candidate.name
      = (consideredNames plugins).filter fun name => Selects enabled name := by
  rw [selected, ← map_name_candidates, List.filter_map]
  rfl

def missingNames (plugins : List Plugin) (enabled : Option (List String)) : List String :=
  (askedNames enabled).filter fun name => name ∉ consideredNames plugins

theorem mem_missingNames_iff {name : String} :
    name ∈ missingNames plugins enabled ↔
      name ∈ askedNames enabled ∧ name ∉ consideredNames plugins := by
  rw [missingNames, List.mem_filter, decide_eq_true_eq]

theorem survey_eq (plugins : List Plugin) (enabled : Option (List String)) :
    survey plugins enabled = if missingNames plugins enabled = []
      then takeAll (selected plugins enabled)
      else ⟨[], .error (.unknownFrontends (sortNames (missingNames plugins enabled)))⟩ := by
  cases enabled with
  | none =>
      have hall : selected plugins none = candidates plugins := by
        rw [selected, List.filter_eq_self]
        intro candidate _
        exact decide_eq_true (.inl rfl)
      have hmissing : missingNames plugins none = [] := rfl
      rw [if_pos hmissing, hall]
      rfl
  | some names =>
      have hmissing : ((names.map lowercase).filter fun name =>
          name ∉ (candidates plugins).map Candidate.name) = missingNames plugins (some names) := by
        rw [map_name_candidates]
        rfl
      have hselected : ((candidates plugins).filter fun candidate =>
          candidate.name ∈ names.map lowercase) = selected plugins (some names) := by
        apply List.filter_congr
        intro candidate _
        simp [Selects, askedNames]
      rw [survey, hmissing, hselected]
      simp only [List.isEmpty_iff]

/-! ### Sorted names -/

theorem mem_sortNames {name : String} {names : List String} :
    name ∈ sortNames names ↔ name ∈ names := by
  rw [sortNames, (List.mergeSort_perm _ _).mem_iff, mem_distinctFrom]
  simp

def nameKey (name : String) : List Nat ×ₗ String :=
  toLex (codes name.toList, name)

theorem nameKey_injective : Function.Injective nameKey := fun _ _ h => (Prod.mk.inj h).2

theorem namePrecedes_iff {first second : String} :
    namePrecedes first second = true ↔ nameKey first < nameKey second := by
  rw [nameKey, nameKey, Prod.Lex.toLex_lt_toLex]
  simp [namePrecedes]

theorem namePrecedes_asymm {first second : String} (h : namePrecedes first second = true) :
    namePrecedes second first ≠ true := by
  rw [namePrecedes_iff] at h
  rw [ne_eq, namePrecedes_iff]
  exact lt_asymm h

theorem namePrecedes_ne {first second : String} (h : namePrecedes first second = true) :
    first ≠ second := by
  rintro rfl
  exact namePrecedes_asymm h h

theorem pairwise_sortNames (names : List String) :
    (sortNames names).Pairwise fun first second => namePrecedes first second = true := by
  have hcompare : ∀ first second, (!namePrecedes second first) = true
      ↔ nameKey first ≤ nameKey second := by
    intro first second
    rw [Bool.not_eq_true', Bool.eq_false_iff, ne_eq, namePrecedes_iff, not_lt]
  have hle : (sortNames names).Pairwise fun first second =>
      (!namePrecedes second first) = true := by
    refine List.pairwise_mergeSort (fun first second third => ?_) (fun first second => ?_) _
    · rw [hcompare, hcompare, hcompare]
      exact le_trans
    · rw [Bool.or_eq_true, hcompare, hcompare]
      exact le_total _ _
  have hnodup : (sortNames names).Nodup :=
    (List.mergeSort_perm _ _).nodup_iff.mpr (nodup_distinctFrom [] names)
  refine hle.imp₂ (fun first second hfirst hne => ?_) hnodup
  rw [hcompare] at hfirst
  exact namePrecedes_iff.mpr (lt_of_le_of_ne hfirst (nameKey_injective.ne hne))

theorem sortNames_congr {first second : List String} (h : ∀ name, name ∈ first ↔ name ∈ second) :
    sortNames first = sortNames second := by
  have hperm : (sortNames first).Perm (sortNames second) := by
    rw [List.perm_ext_iff_of_nodup ((pairwise_sortNames first).imp namePrecedes_ne)
      ((pairwise_sortNames second).imp namePrecedes_ne)]
    intro name
    rw [mem_sortNames, mem_sortNames, h]
  exact hperm.eq_of_pairwise (fun a b _ _ hab hba => absurd hba (namePrecedes_asymm hab))
    (pairwise_sortNames first) (pairwise_sortNames second)

/-! ### What is loaded -/

/-- Why a plug-in gives no front-end: it is broken, it is something else, or it raises a fault of
its own. -/
inductive Plugin.Fails (plugin : Plugin) : LoadError → Prop where
  | broken {reason : String} (hcontent : plugin.content = .broken reason) :
      Fails plugin (.brokenPlugin plugin.key reason)
  | somethingElse (hcontent : plugin.content = .somethingElse) :
      Fails plugin (.notFrontend plugin.key)
  | raising {fault : PluginFault} (hcontent : plugin.content = .raising fault) :
      Fails plugin (.plugin fault)

theorem Plugin.content_eq_of_load {plugin : Plugin} {frontend : Frontend}
    (h : plugin.load = .ok frontend) : plugin.content = .frontend frontend := by
  rw [Plugin.load] at h
  cases hcontent : plugin.content with
  | frontend found =>
      rw [hcontent] at h
      cases h
      rfl
  | _ =>
      rw [hcontent] at h
      cases h

theorem Candidate.load_eq_error {candidate : Candidate} {cause : LoadError}
    (h : candidate.load = .error cause) :
    ∃ plugin, candidate = .installed plugin ∧ plugin.Fails cause := by
  cases candidate with
  | builtin frontend => cases h
  | installed plugin =>
      refine ⟨plugin, rfl, ?_⟩
      rw [Candidate.load, Plugin.load] at h
      cases hcontent : plugin.content with
      | frontend frontend =>
          rw [hcontent] at h
          cases h
      | somethingElse =>
          rw [hcontent] at h
          cases h
          exact .somethingElse hcontent
      | broken reason =>
          rw [hcontent] at h
          cases h
          exact .broken hcontent
      | raising fault =>
          rw [hcontent] at h
          cases h
          exact .raising hcontent

/-- What a discovery makes of chosen candidates. Either every one of them gives its front-end, or
the first plug-in that gives none decides the error, and those behind it are not loaded. -/
inductive Takes : List Candidate → Discovery → Prop where
  | all {chosen : List Candidate} {frontends : List Frontend}
      (hload : List.Forall₂ (fun candidate frontend => candidate.load = .ok frontend)
        chosen frontends) :
      Takes chosen ⟨chosen.flatMap Candidate.plugins, .ok frontends⟩
  | stopped {before after : List Candidate} {plugin : Plugin} {cause : LoadError}
      (hload : ∀ candidate ∈ before, ∃ frontend, candidate.load = .ok frontend)
      (hfails : plugin.Fails cause) :
      Takes (before ++ .installed plugin :: after)
        ⟨before.flatMap Candidate.plugins ++ [plugin], .error cause⟩

theorem takes_takeAll (chosen : List Candidate) : Takes chosen (takeAll chosen) := by
  induction chosen with
  | nil => exact .all .nil
  | cons candidate rest ih =>
      rw [takeAll]
      cases hload : candidate.load with
      | error cause =>
          obtain ⟨plugin, rfl, hfails⟩ := Candidate.load_eq_error hload
          exact @Takes.stopped [] rest plugin cause (by simp) hfails
      | ok frontend =>
          dsimp only
          -- What the rest gives, with this candidate in front of it.
          generalize takeAll rest = discovery at ih ⊢
          cases ih with
          | @all _ frontends hrest => exact .all (.cons hload hrest)
          | @stopped before after plugin cause hbefore hfails =>
              have hall : ∀ other ∈ candidate :: before, ∃ frontend, other.load = .ok frontend := by
                rw [List.forall_mem_cons]
                exact ⟨⟨frontend, hload⟩, hbefore⟩
              have htakes := @Takes.stopped _ after _ _ hall hfails
              rw [List.flatMap_cons, List.append_assoc] at htakes
              exact htakes

/-! ### Discoveries -/

theorem eq_of_map_eq_map {α β : Type} {label : α → β} {first second : List α}
    (hmap : first.map label = second.map label)
    (heq : ∀ a ∈ first, ∀ b ∈ second, label a = label b → a = b) : first = second := by
  induction first generalizing second with
  | nil => exact (List.map_eq_nil_iff.mp hmap.symm).symm
  | cons a rest ih =>
      cases second with
      | nil => cases hmap
      | cons b others =>
          rw [List.map_cons, List.map_cons, List.cons.injEq] at hmap
          have hhead := heq a List.mem_cons_self b List.mem_cons_self hmap.1
          have htail := ih hmap.2 fun c hc d hd =>
            heq c (List.mem_cons_of_mem a hc) d (List.mem_cons_of_mem b hd)
          rw [hhead, htail]

/-- A discovery depends on the enabled names as a set, and on the plug-ins by the names that are
considered and by those that are selected. -/
theorem survey_congr (hnone : other = none ↔ enabled = none)
    (hasked : ∀ name, name ∈ askedNames other ↔ name ∈ askedNames enabled)
    (hconsidered : consideredNames others = consideredNames plugins)
    (hfirst : ∀ name ∉ builtinNames, Selects enabled name →
      others.find? (fun plugin => plugin.key == name)
        = plugins.find? (fun plugin => plugin.key == name)) :
    survey others other = survey plugins enabled := by
  have hselects : ∀ name, Selects other name ↔ Selects enabled name := by
    intro name
    rw [Selects, Selects, hnone, hasked]
  have hmissing : ∀ name,
      name ∈ missingNames others other ↔ name ∈ missingNames plugins enabled := by
    intro name
    rw [mem_missingNames_iff, mem_missingNames_iff, hasked, hconsidered]
  have hnil : missingNames others other = [] ↔ missingNames plugins enabled = [] := by
    rw [List.eq_nil_iff_forall_not_mem, List.eq_nil_iff_forall_not_mem]
    exact forall_congr' fun name => not_congr (hmissing name)
  have hselected : selected others other = selected plugins enabled := by
    apply eq_of_map_eq_map
    · rw [map_name_selected, map_name_selected, hconsidered]
      simp only [hselects]
    · intro first hfirstMem second hsecondMem hname
      obtain ⟨hmem, hselect⟩ := List.mem_filter.mp hfirstMem
      have hprovides := mem_candidates_iff.mp hmem
      have hprovidesAgain := mem_candidates_iff.mp (List.mem_of_mem_filter hsecondMem)
      apply hprovides.eq_of_name hprovidesAgain hname
      intro hfree
      exact hfirst first.name hfree ((hselects first.name).mp (of_decide_eq_true hselect))
  rw [survey_eq, survey_eq, hselected, sortNames_congr hmissing]
  simp only [hnil]

/-- **The law of discovery.** Names that are asked for in vain are reported, sorted and each once,
before anything is loaded. Otherwise the selected ones of the considered names are taken in their
order, each from what is behind it: one front-end for each of them, or the error of the first
plug-in that gives none, be it that of the discovery or one of the plug-in's own, and nothing else
is loaded. It does not matter in which order and how often names are enabled, nor what the plug-ins
are that are not selected. -/
theorem discovery_law (plugins : List Plugin) (enabled : Option (List String)) :
    ((∃ name ∈ askedNames enabled, name ∉ consideredNames plugins) →
      ∃ missing, survey plugins enabled = ⟨[], .error (.unknownFrontends missing)⟩ ∧
        (missing.Pairwise fun first second => namePrecedes first second = true) ∧
        ∀ name, name ∈ missing ↔ name ∈ askedNames enabled ∧ name ∉ consideredNames plugins) ∧
    ((∀ name ∈ askedNames enabled, name ∈ consideredNames plugins) →
      ∃ chosen, chosen.map Candidate.name
          = ((consideredNames plugins).filter fun name => Selects enabled name) ∧
        (∀ candidate ∈ chosen, Provides plugins candidate) ∧
        Takes chosen (survey plugins enabled)) ∧
    ∀ others other, (other = none ↔ enabled = none) →
      (∀ name, name ∈ askedNames other ↔ name ∈ askedNames enabled) →
      consideredNames others = consideredNames plugins →
      (∀ name ∉ builtinNames, Selects enabled name →
        others.find? (fun plugin => plugin.key == name)
          = plugins.find? (fun plugin => plugin.key == name)) →
      survey others other = survey plugins enabled := by
  refine ⟨fun hunknown => ?_, fun hknown => ?_, fun others other => survey_congr⟩
  · have hmissing : missingNames plugins enabled ≠ [] := by
      obtain ⟨name, hname⟩ := hunknown
      exact List.ne_nil_of_mem (mem_missingNames_iff.mpr hname)
    refine ⟨sortNames (missingNames plugins enabled), ?_, pairwise_sortNames _, fun name => ?_⟩
    · rw [survey_eq, if_neg hmissing]
    · rw [mem_sortNames, mem_missingNames_iff]
  · have hmissing : missingNames plugins enabled = [] := by
      rw [List.eq_nil_iff_forall_not_mem]
      intro name hname
      obtain ⟨hasked, hnot⟩ := mem_missingNames_iff.mp hname
      exact hnot (hknown name hasked)
    refine ⟨selected plugins enabled, map_name_selected plugins enabled,
      fun candidate hmem => ?_, ?_⟩
    · exact mem_candidates_iff.mp (List.mem_of_mem_filter hmem)
    · rw [survey_eq, if_pos hmissing]
      exact takes_takeAll _

def licensed : Plugin :=
  ⟨"own", .raising ⟨"ValueError", "no licence", true⟩⟩

theorem candidates_licensed :
    candidates [licensed] = [.builtin .yaml, .builtin .json, .installed licensed] := by
  have hfree : licensed.key ∉ Frontend.builtin.map (·.name) := by decide +kernel
  rw [candidates, Plugin.considered, if_neg hfree]
  rfl

theorem selected_capitals : selected [] (some ["JSON"]) = [.builtin .json] := by
  have hyaml : ¬ Selects (some ["JSON"]) (Candidate.builtin .yaml).name := by decide +kernel
  have hjson : Selects (some ["JSON"]) (Candidate.builtin .json).name := by decide +kernel
  have hall : candidates [] = [.builtin .yaml, .builtin .json] := rfl
  rw [selected, hall, List.filter_cons_of_neg (by simpa using hyaml),
    List.filter_cons_of_pos (by simpa using hjson)]
  rfl

/-- What the class raises is no error of the discovery, and comes out of it. Names that differ in
the case of a letter only are the same just if they are the same in small letters, and the long s is
a small letter itself. -/
theorem licensed_fault_escapes :
    (∃ cause, discover [licensed] none = .error cause ∧ cause.message = "no licence" ∧
      (∀ name reason, cause ≠ .brokenPlugin name reason) ∧ ∀ name, cause ≠ .notFrontend name) ∧
    discover [] (some ["JSON"]) = .ok [.json] ∧
    discover [] (some ["jſon"]) = .error (.unknownFrontends ["jſon"]) := by
  refine ⟨⟨.plugin ⟨"ValueError", "no licence", true⟩, ?_, rfl, by simp, by simp⟩, ?_, ?_⟩
  · rw [discover, survey, candidates_licensed]
    rfl
  · have hmissing : missingNames [] (some ["JSON"]) = [] := by decide +kernel
    rw [discover, survey_eq, if_pos hmissing, selected_capitals]
    rfl
  · have hmissing : missingNames [] (some ["jſon"]) = ["jſon"] := by decide +kernel
    have hsorted : sortNames ["jſon"] = ["jſon"] := by decide +kernel
    rw [discover, survey_eq, hmissing, if_neg (List.cons_ne_nil _ _), hsorted]

def stall (last : PluginContent) : List Plugin :=
  [⟨"Ini", .frontend (.lines "IniFrontend" "ini")⟩, ⟨"YAML", .broken "hidden"⟩,
    ⟨"INI", .somethingElse⟩, ⟨"odd", last⟩]

/-- Two of the four names are selected, and the last plug-in is not, whether it is broken or not. -/
theorem stall_discovery :
    (∃ chosen, chosen.map Candidate.name = ["json", "ini"] ∧
      (∀ candidate ∈ chosen, Provides (stall .somethingElse) candidate) ∧
      Takes chosen (survey (stall .somethingElse) (some ["INI", "Json", "ini"]))) ∧
    survey (stall (.broken "odd")) (some ["json", "Ini"])
      = survey (stall .somethingElse) (some ["INI", "Json", "ini"]) ∧
    ∃ missing, survey (stall .somethingElse) (some ["toml", "ini"])
        = ⟨[], .error (.unknownFrontends missing)⟩ ∧
      (missing.Pairwise fun first second => namePrecedes first second = true) ∧
      "toml" ∈ missing := by
  have hasked : askedNames (some ["INI", "Json", "ini"]) = ["ini", "json", "ini"] := by
    decide +kernel
  have hother : askedNames (some ["json", "Ini"]) = ["json", "ini"] := by decide +kernel
  have hconsidered : consideredNames (stall .somethingElse) = ["yaml", "json", "ini", "odd"] := by
    decide +kernel
  obtain ⟨-, htaken, hcongr⟩ :=
    discovery_law (stall .somethingElse) (some ["INI", "Json", "ini"])
  obtain ⟨hunknown, -, -⟩ := discovery_law (stall .somethingElse) (some ["toml", "ini"])
  refine ⟨?_, ?_, ?_⟩
  · obtain ⟨chosen, hnames, hprovides, htakes⟩ := htaken (by rw [hasked, hconsidered]; decide)
    refine ⟨chosen, ?_, hprovides, htakes⟩
    rw [hnames, hconsidered]
    decide +kernel
  · apply hcongr
    · simp
    · intro name
      rw [hasked, hother]
      simp [or_comm]
    · decide +kernel
    · intro name hfree hselects
      have hname : name = "ini" := by
        simp only [Selects, hasked, builtinNames] at hselects hfree
        simp_all
      have hkey : ∀ content, Plugin.key ⟨"Ini", content⟩ = "ini" := by
        intro content
        have hlower : lowercase "Ini" = "ini" := by decide +kernel
        exact hlower
      rw [hname, stall, stall, List.find?_cons_of_pos (by simp [hkey]),
        List.find?_cons_of_pos (by simp [hkey])]
  · have htoml : "toml" ∈ askedNames (some ["toml", "ini"]) ∧
        "toml" ∉ consideredNames (stall .somethingElse) := by decide +kernel
    obtain ⟨missing, hsurvey, hsorted, hmem⟩ := hunknown ⟨"toml", htoml⟩
    exact ⟨missing, hsurvey, hsorted, (hmem "toml").mpr htoml⟩

end RecordDocs
