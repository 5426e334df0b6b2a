import RecordDocs.Files.FileTree
import RecordDocs.Proofs.Outcomes

/-!
# What changes of a file tree leave as it was

Making directories adds directories where nothing was, and no more, whether it succeeds or breaks
off on its way. Writing a file touches one place, and the path that was written to leads to this
place also afterwards: every step of a path but the last has to lead to a directory, and no
directory is ever replaced.
-/

namespace RecordDocs.FileTree

variable {tree after : FileTree} {place other : Place} {node : FileNode} {path : Path}

theorem nodeAt?_withNode_self (h : place ≠ []) :
    (tree.withNode place node).nodeAt? place = some node := by
  have hplace : ¬ place.isEmpty := by simpa using h
  rw [nodeAt?, if_neg hplace, withNode, lookup_put, if_pos rfl]

theorem nodeAt?_withNode_of_ne (h : other ≠ place) :
    (tree.withNode place node).nodeAt? other = tree.nodeAt? other := by
  rw [nodeAt?, withNode, lookup_put, if_neg h, nodeAt?]

theorem ne_nil_of_nodeAt?_ne (h : tree.nodeAt? place ≠ some .directory) : place ≠ [] := by
  rintro rfl
  exact h rfl

/-! ### Paths -/

/-- What was a directory is one still, and relative paths start at the same place. -/
structure KeepsDirectories (tree after : FileTree) : Prop where
  workingDirectory_eq : after.workingDirectory = tree.workingDirectory
  directory_of_directory :
    ∀ place, tree.nodeAt? place = some .directory → after.nodeAt? place = some .directory

theorem KeepsDirectories.follow_eq (h : tree.KeepsDirectories after) {start : Place}
    {parts : List String} (hfollow : tree.follow start parts = .ok place) :
    after.follow start parts = .ok place := by
  induction parts generalizing start with
  | nil => exact hfollow
  | cons part rest ih =>
      rw [follow] at hfollow ⊢
      cases hnode : tree.nodeAt? start with
      | none =>
          rw [hnode] at hfollow
          cases hfollow
      | some found =>
          rw [hnode] at hfollow
          cases found with
          | file content => cases hfollow
          | directory =>
              rw [h.directory_of_directory start hnode]
              dsimp only at hfollow ⊢
              by_cases hup : part == ".."
              · rw [if_pos hup] at hfollow ⊢
                exact ih hfollow
              · rw [if_neg hup] at hfollow ⊢
                by_cases hlong : (Text.encodeUtf8 part).length > 255
                · rw [if_pos hlong] at hfollow
                  cases hfollow
                · rw [if_neg hlong] at hfollow ⊢
                  exact ih hfollow

theorem KeepsDirectories.trans {middle : FileTree} (hfirst : tree.KeepsDirectories middle)
    (hsecond : middle.KeepsDirectories after) : tree.KeepsDirectories after where
  workingDirectory_eq := hsecond.workingDirectory_eq.trans hfirst.workingDirectory_eq
  directory_of_directory place hplace :=
    hsecond.directory_of_directory place (hfirst.directory_of_directory place hplace)

theorem placeOf_eq_ok_iff :
    tree.placeOf path = .ok place ↔ pathFault? path.text = none ∧
      tree.follow (if path.isAbsolute then [] else tree.workingDirectory) path.parts
        = .ok place := by
  rw [placeOf]
  cases pathFault? path.text with
  | some error => simp
  | none =>
      constructor
      · intro h
        exact ⟨rfl, mapError_eq_ok h⟩
      · rintro ⟨-, h⟩
        dsimp only
        rw [h]
        rfl

theorem KeepsDirectories.placeOf_eq (h : tree.KeepsDirectories after)
    (hplace : tree.placeOf path = .ok place) : after.placeOf path = .ok place := by
  rw [placeOf_eq_ok_iff] at hplace ⊢
  rw [h.workingDirectory_eq]
  exact ⟨hplace.1, h.follow_eq hplace.2⟩

structure SameDirectories (tree after : FileTree) : Prop where
  kept : tree.KeepsDirectories after
  none_added : after.KeepsDirectories tree

namespace SameDirectories

theorem refl (tree : FileTree) : tree.SameDirectories tree :=
  ⟨⟨rfl, fun _ h => h⟩, ⟨rfl, fun _ h => h⟩⟩

theorem symm (h : tree.SameDirectories after) : after.SameDirectories tree :=
  ⟨h.none_added, h.kept⟩

theorem trans {middle : FileTree} (hfirst : tree.SameDirectories middle)
    (hsecond : middle.SameDirectories after) : tree.SameDirectories after :=
  ⟨hfirst.kept.trans hsecond.kept, hsecond.none_added.trans hfirst.none_added⟩

theorem nodeAt?_iff (h : tree.SameDirectories after) :
    after.nodeAt? place = some .directory ↔ tree.nodeAt? place = some .directory :=
  ⟨h.none_added.directory_of_directory place, h.kept.directory_of_directory place⟩

end SameDirectories

/-- The same files stand at the same places, whatever directories there are. -/
def KeepsFiles (tree after : FileTree) : Prop :=
  ∀ place content, after.nodeAt? place = some (.file content) ↔
    tree.nodeAt? place = some (.file content)

theorem KeepsFiles.refl (tree : FileTree) : tree.KeepsFiles tree :=
  fun _ _ => Iff.rfl

/-! ### Making directories -/

/-- Nothing is different but that there are directories where nothing was. -/
structure AddsDirectories (tree after : FileTree) : Prop where
  workingDirectory_eq : after.workingDirectory = tree.workingDirectory
  nodeAt?_cases : ∀ place, after.nodeAt? place = tree.nodeAt? place ∨
    tree.nodeAt? place = none ∧ after.nodeAt? place = some .directory

namespace AddsDirectories

theorem refl (tree : FileTree) : tree.AddsDirectories tree :=
  ⟨rfl, fun _ => .inl rfl⟩

theorem trans {middle : FileTree} (hfirst : tree.AddsDirectories middle)
    (hsecond : middle.AddsDirectories after) : tree.AddsDirectories after := by
  refine ⟨hsecond.workingDirectory_eq.trans hfirst.workingDirectory_eq, fun place => ?_⟩
  rcases hsecond.nodeAt?_cases place with heq | ⟨hnone, hmade⟩
  · rw [heq]
    exact hfirst.nodeAt?_cases place
  · rcases hfirst.nodeAt?_cases place with heq | ⟨-, hdirectory⟩
    · exact .inr ⟨heq ▸ hnone, hmade⟩
    · rw [hnone] at hdirectory
      cases hdirectory

theorem keepsFiles (h : tree.AddsDirectories after) : tree.KeepsFiles after := by
  intro place content
  rcases h.nodeAt?_cases place with heq | ⟨hnone, hdirectory⟩
  · rw [heq]
  · simp [hnone, hdirectory]

end AddsDirectories

theorem addsDirectories_of_makeDirectory (h : tree.makeDirectory path = .ok after) :
    tree.AddsDirectories after := by
  obtain ⟨place, -, h⟩ := bind_eq_ok h
  cases hnode : tree.nodeAt? place with
  | some node =>
      rw [hnode] at h
      cases h
  | none =>
      rw [hnode] at h
      cases h
      have hne : place ≠ [] := @ne_nil_of_nodeAt?_ne tree place (by simp [hnode])
      refine ⟨rfl, fun other => ?_⟩
      by_cases heq : other = place
      · rw [heq]
        exact .inr ⟨hnode, nodeAt?_withNode_self hne⟩
      · exact .inl (nodeAt?_withNode_of_ne heq)

theorem eq_of_acceptDirectory {error : FileError}
    (h : tree.acceptDirectory path error = .ok after) : after = tree := by
  unfold acceptDirectory at h
  split at h
  · cases h
  · cases h
  · cases h
  · obtain ⟨isDirectory, -, h⟩ := bind_eq_ok h
    cases isDirectory with
    | true =>
        cases h
        rfl
    | false => cases h

theorem addsDirectories_of_ensureDirectory (h : tree.ensureDirectory path = .ok after) :
    tree.AddsDirectories after := by
  rw [ensureDirectory] at h
  cases hmake : tree.makeDirectory path with
  | ok made =>
      rw [hmake] at h
      cases h
      exact addsDirectories_of_makeDirectory hmake
  | error error =>
      rw [hmake] at h
      rw [eq_of_acceptDirectory h]
      exact .refl tree

theorem addsDirectories_change {outcome : Except FileError FileTree}
    (h : ∀ after, outcome = .ok after → tree.AddsDirectories after) :
    tree.AddsDirectories (tree.change outcome).1 := by
  cases outcome with
  | ok after => exact h after rfl
  | error error => exact .refl tree

theorem addsDirectories_makeDirectories (tree : FileTree) (path : Path) :
    tree.AddsDirectories (tree.makeDirectories path).1 := by
  fun_induction makeDirectories tree path with
  | case1 path made hmake => exact addsDirectories_of_makeDirectory hmake
  | case2 => exact .refl _
  | case3 path text hmake hparts above hparent ih =>
      rw [hparent] at ih
      exact ih.trans (addsDirectories_change fun _ => addsDirectories_of_ensureDirectory)
  | case4 path text hmake hparts above error hparent ih =>
      rw [hparent] at ih
      exact ih
  | case5 path error hmake hother =>
      refine addsDirectories_change fun after haccept => ?_
      rw [eq_of_acceptDirectory haccept]
      exact .refl _

/-! ### Writing files -/

theorem keepsDirectories_withNode (h : tree.nodeAt? place ≠ some .directory) :
    tree.KeepsDirectories (tree.withNode place node) := by
  refine ⟨rfl, fun other hother => ?_⟩
  have hne : other ≠ place := by
    rintro rfl
    exact h hother
  rw [nodeAt?_withNode_of_ne hne, hother]

theorem sameDirectories_withNode {content : List UInt8}
    (h : tree.nodeAt? place ≠ some .directory) :
    tree.SameDirectories (tree.withNode place (.file content)) := by
  refine ⟨keepsDirectories_withNode h, rfl, fun other hother => ?_⟩
  have hne : other ≠ place := by
    rintro rfl
    rw [nodeAt?_withNode_self (ne_nil_of_nodeAt?_ne h)] at hother
    cases hother
  rwa [nodeAt?_withNode_of_ne hne] at hother

/-- The path leads to a file with this text, and all other files are as they were. -/
def HasWritten (tree after : FileTree) (path : Path) (text : String) : Prop :=
  ∃ place, after.placeOf path = .ok place ∧
    after.nodeOf path = .ok (.file (Text.encodeUtf8 text)) ∧
    ∀ other content, other ≠ place →
      (after.nodeAt? other = some (.file content) ↔ tree.nodeAt? other = some (.file content))

theorem hasWritten_withNode (text : String) (hplace : tree.placeOf path = .ok place)
    (hnode : tree.nodeAt? place ≠ some .directory) :
    tree.HasWritten (tree.withNode place (.file (Text.encodeUtf8 text))) path text := by
  have hafter : (tree.withNode place (.file (Text.encodeUtf8 text))).placeOf path = .ok place :=
    (keepsDirectories_withNode hnode).placeOf_eq hplace
  refine ⟨place, hafter, ?_, fun other content hne => ?_⟩
  · rw [nodeOf, hafter, ok_bind, nodeAt?_withNode_self (ne_nil_of_nodeAt?_ne hnode)]
    rfl
  · rw [nodeAt?_withNode_of_ne hne]

theorem hasWritten_of_writeText {text : String} (h : tree.writeText path text = (after, .ok ())) :
    Text.firstSurrogates? text.toList = none ∧ tree.HasWritten after path text := by
  rw [writeText] at h
  split at h
  · cases h
  · rename_i place hplace
    split at h
    · cases h
    · rename_i hnode
      split at h
      · cases h
      · rename_i hencodes
        cases h
        exact ⟨hencodes, hasWritten_withNode text hplace hnode⟩

/-- What could not be written is as it was, unless the text has no encoding: then the file was
emptied before. -/
theorem writeText_failed {text : String} {failure : FileError}
    (h : tree.writeText path text = (after, .error failure)) :
    after = tree ∨ ∃ run, Text.firstSurrogates? text.toList = some run ∧
      failure = .unencodable run ∧ tree.HasWritten after path "" := by
  rw [writeText] at h
  split at h
  · cases h
    exact .inl rfl
  · rename_i place hplace
    split at h
    · cases h
      exact .inl rfl
    · rename_i hnode
      split at h
      · rename_i run hrun
        cases h
        exact .inr ⟨run, hrun, rfl, hasWritten_withNode "" hplace hnode⟩
      · cases h

theorem HasWritten.of_addsDirectories {middle : FileTree} {text : String}
    (hadds : tree.AddsDirectories middle) (h : middle.HasWritten after path text) :
    tree.HasWritten after path text := by
  obtain ⟨place, hplace, hnode, hothers⟩ := h
  refine ⟨place, hplace, hnode, fun other content hne => ?_⟩
  exact (hothers other content hne).trans (hadds.keepsFiles other content)

end RecordDocs.FileTree
