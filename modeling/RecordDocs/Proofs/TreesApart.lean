import RecordDocs.Proofs.FileChanges

/-!
# Trees that are apart in one file

Two file trees that differ in nothing but the content of one file answer every question alike except
what is in that file. No change of the files tells them apart either: it fails in both or in
neither, and they still differ in nothing but that file afterwards.
-/

namespace RecordDocs.FileTree

open Text

variable {place : Place} {first second : FileTree} {path : Path}

/-- Both trees have a file at a place, and they are alike but for what is in it. -/
structure ApartAt (place : Place) (first second : FileTree) : Prop where
  workingDirectory_eq : second.workingDirectory = first.workingDirectory
  homes_eq : second.homes = first.homes
  nodeAt?_eq : ∀ other, other ≠ place → second.nodeAt? other = first.nodeAt? other
  first_file : ∃ content, first.nodeAt? place = some (.file content)
  second_file : ∃ content, second.nodeAt? place = some (.file content)

theorem nodeOf_of_placeOf {tree : FileTree} {node : FileNode}
    (hplace : tree.placeOf path = .ok place) (hnode : tree.nodeAt? place = some node) :
    tree.nodeOf path = .ok node := by
  rw [nodeOf, hplace, ok_bind, hnode]
  rfl

theorem nodeAt?_of_nodeOf {tree : FileTree} {node : FileNode}
    (hplace : tree.placeOf path = .ok place) (hnode : tree.nodeOf path = .ok node) :
    tree.nodeAt? place = some node := by
  rw [nodeOf, hplace, ok_bind] at hnode
  cases hfound : tree.nodeAt? place with
  | none =>
      rw [hfound] at hnode
      cases hnode
  | some found =>
      rw [hfound] at hnode
      exact congrArg some (Except.ok.inj hnode)

namespace ApartAt

/-! ### Questions -/

theorem follow_eq (h : ApartAt place first second) (start : Place) (parts : List String) :
    second.follow start parts = first.follow start parts := by
  induction parts generalizing start with
  | nil => rfl
  | cons part rest ih =>
      rw [follow, follow]
      by_cases hstart : start = place
      · -- A file is in the way, whatever is in it.
        obtain ⟨content, hfirst⟩ := h.first_file
        obtain ⟨content', hsecond⟩ := h.second_file
        rw [hstart, hfirst, hsecond]
      · rw [h.nodeAt?_eq start hstart]
        cases first.nodeAt? start with
        | none => rfl
        | some node =>
            cases node with
            | file content => rfl
            | directory =>
                dsimp only
                rw [ih, ih]

theorem placeOf_eq (h : ApartAt place first second) (path : Path) :
    second.placeOf path = first.placeOf path := by
  rw [placeOf, placeOf, h.workingDirectory_eq, h.follow_eq]

theorem nodeOf_eq (h : ApartAt place first second) (hplace : first.placeOf path ≠ .ok place) :
    second.nodeOf path = first.nodeOf path := by
  rw [nodeOf, nodeOf, h.placeOf_eq]
  cases hpath : first.placeOf path with
  | error cause => rfl
  | ok other =>
      have hne : other ≠ place := fun heq => hplace (hpath.trans (congrArg Except.ok heq))
      rw [ok_bind, ok_bind, h.nodeAt?_eq other hne]

theorem find?_cases (h : ApartAt place first second) (path : Path) :
    second.find? path = first.find? path ∨ ∃ content content',
      first.find? path = .ok (some (.file content)) ∧
      second.find? path = .ok (some (.file content')) := by
  by_cases hplace : first.placeOf path = .ok place
  · obtain ⟨content, hfirst⟩ := h.first_file
    obtain ⟨content', hsecond⟩ := h.second_file
    refine .inr ⟨content, content', ?_, ?_⟩
    · rw [find?, nodeOf_of_placeOf hplace hfirst]
    · rw [find?, nodeOf_of_placeOf ((h.placeOf_eq path).trans hplace) hsecond]
  · exact .inl (by rw [find?, find?, h.nodeOf_eq hplace])

theorem isFile_eq (h : ApartAt place first second) (path : Path) :
    second.isFile path = first.isFile path := by
  rcases h.find?_cases path with heq | ⟨content, content', hfirst, hsecond⟩
  · rw [isFile, isFile, heq]
  · rw [isFile, isFile, hfirst, hsecond]
    rfl

theorem isDirectory_eq (h : ApartAt place first second) (path : Path) :
    second.isDirectory path = first.isDirectory path := by
  rcases h.find?_cases path with heq | ⟨content, content', hfirst, hsecond⟩
  · rw [isDirectory, isDirectory, heq]
  · rw [isDirectory, isDirectory, hfirst, hsecond]
    rfl

theorem readText_eq (h : ApartAt place first second) (hplace : first.placeOf path ≠ .ok place) :
    second.readText path = first.readText path := by
  rw [readText, readText, h.nodeOf_eq hplace]

theorem expandHome_eq (h : ApartAt place first second) (path : Path) :
    second.expandHome path = first.expandHome path := by
  rw [expandHome, expandHome, h.homes_eq]

theorem resolve_eq (h : ApartAt place first second) (path : Path) :
    second.resolve path = first.resolve path := by
  rw [resolve, resolve, h.workingDirectory_eq]

/-! ### Changes -/

theorem withNode {other : Place} (h : ApartAt place first second) (hother : other ≠ place)
    (node : FileNode) : ApartAt place (first.withNode other node) (second.withNode other node) where
  workingDirectory_eq := h.workingDirectory_eq
  homes_eq := h.homes_eq
  nodeAt?_eq := by
    intro asked hasked
    by_cases heq : asked = other
    · by_cases hnil : other = []
      · rw [heq, hnil]
        rfl
      · rw [heq, nodeAt?_withNode_self hnil, nodeAt?_withNode_self hnil]
    · rw [nodeAt?_withNode_of_ne heq, nodeAt?_withNode_of_ne heq, h.nodeAt?_eq asked hasked]
  first_file := by
    rw [nodeAt?_withNode_of_ne hother.symm]
    exact h.first_file
  second_file := by
    rw [nodeAt?_withNode_of_ne hother.symm]
    exact h.second_file

theorem withFile (h : ApartAt place first second) (content : List UInt8) :
    ApartAt place (first.withNode place (.file content))
      (second.withNode place (.file content)) := by
  have hnil : place ≠ [] := by
    rintro rfl
    obtain ⟨_, hfile⟩ := h.first_file
    cases hfile
  refine ⟨h.workingDirectory_eq, h.homes_eq, fun other hother => ?_, ?_, ?_⟩
  · rw [nodeAt?_withNode_of_ne hother, nodeAt?_withNode_of_ne hother, h.nodeAt?_eq other hother]
  · exact ⟨content, nodeAt?_withNode_self hnil⟩
  · exact ⟨content, nodeAt?_withNode_self hnil⟩

end ApartAt

inductive MadeApart (place : Place) : Except FileError FileTree → Except FileError FileTree → Prop
  | error (cause : FileError) : MadeApart place (.error cause) (.error cause)
  | ok {first second : FileTree} (h : ApartAt place first second) :
      MadeApart place (.ok first) (.ok second)

structure ChangedApart (place : Place) (first second : Change) : Prop where
  result_eq : second.2 = first.2
  apart : ApartAt place first.1 second.1

theorem MadeApart.error_eq {cause : FileError} {outcome : Except FileError FileTree}
    (h : MadeApart place (.error cause) outcome) : outcome = .error cause := by
  cases h
  rfl

theorem MadeApart.exists_ok {outcome : Except FileError FileTree}
    (h : MadeApart place (.ok first) outcome) :
    ∃ second, outcome = .ok second ∧ ApartAt place first second := by
  cases h with
  | ok h => exact ⟨_, rfl, h⟩

namespace ApartAt

theorem makeDirectory (h : ApartAt place first second) (path : Path) :
    MadeApart place (first.makeDirectory path) (second.makeDirectory path) := by
  rw [FileTree.makeDirectory, FileTree.makeDirectory, h.placeOf_eq]
  cases first.placeOf path with
  | error cause => exact .error cause
  | ok other =>
      rw [ok_bind, ok_bind]
      by_cases hother : other = place
      · obtain ⟨content, hfirst⟩ := h.first_file
        obtain ⟨content', hsecond⟩ := h.second_file
        rw [hother, hfirst, hsecond]
        exact .error _
      · rw [h.nodeAt?_eq other hother]
        cases first.nodeAt? other with
        | some node => exact .error _
        | none => exact .ok (h.withNode hother .directory)

theorem makeDirectory_error (h : ApartAt place first second) {cause : FileError}
    (hmake : first.makeDirectory path = .error cause) :
    second.makeDirectory path = .error cause := by
  have hmade := h.makeDirectory path
  rw [hmake] at hmade
  exact hmade.error_eq

theorem makeDirectory_ok (h : ApartAt place first second) {made : FileTree}
    (hmake : first.makeDirectory path = .ok made) :
    ∃ made', second.makeDirectory path = .ok made' ∧ ApartAt place made made' := by
  have hmade := h.makeDirectory path
  rw [hmake] at hmade
  exact hmade.exists_ok

theorem acceptDirectory (h : ApartAt place first second) (path : Path) (error : FileError) :
    MadeApart place (first.acceptDirectory path error) (second.acceptDirectory path error) := by
  unfold FileTree.acceptDirectory
  split
  · exact .error _
  · exact .error _
  · exact .error _
  · rw [h.isDirectory_eq]
    cases first.isDirectory path with
    | error cause => exact .error cause
    | ok isDirectory =>
        cases isDirectory with
        | true => exact .ok h
        | false => exact .error _

theorem ensureDirectory (h : ApartAt place first second) (path : Path) :
    MadeApart place (first.ensureDirectory path) (second.ensureDirectory path) := by
  rw [FileTree.ensureDirectory, FileTree.ensureDirectory]
  cases hmake : first.makeDirectory path with
  | error cause =>
      rw [h.makeDirectory_error hmake]
      exact h.acceptDirectory path cause
  | ok made =>
      obtain ⟨made', hmade, happart⟩ := h.makeDirectory_ok hmake
      rw [hmade]
      exact .ok happart

theorem change (h : ApartAt place first second) {outcome outcome' : Except FileError FileTree}
    (hmade : MadeApart place outcome outcome') :
    ChangedApart place (first.change outcome) (second.change outcome') := by
  cases hmade with
  | error cause => exact ⟨rfl, h⟩
  | ok hmade => exact ⟨rfl, hmade⟩

theorem makeDirectories (h : ApartAt place first second) (path : Path) :
    ChangedApart place (first.makeDirectories path) (second.makeDirectories path) := by
  -- The recursion is that of the first tree; the second one takes the same branch each time.
  fun_induction FileTree.makeDirectories first path with
  | case1 path made hmake =>
      obtain ⟨made', hmade, happart⟩ := h.makeDirectory_ok hmake
      rw [FileTree.makeDirectories, hmade]
      exact ⟨rfl, happart⟩
  | case2 path text hmake hparts =>
      rw [FileTree.makeDirectories, h.makeDirectory_error hmake]
      dsimp only
      rw [dif_pos hparts]
      exact ⟨rfl, h⟩
  | case3 path text hmake hparts above hparent ih =>
      rw [hparent] at ih
      rw [FileTree.makeDirectories, h.makeDirectory_error hmake]
      dsimp only
      rw [dif_neg hparts]
      generalize second.makeDirectories path.parent = parent at ih
      obtain ⟨above', result⟩ := parent
      obtain ⟨hresult, happart⟩ := ih
      rw [show result = .ok () from hresult]
      exact happart.change (happart.ensureDirectory path)
  | case4 path text hmake hparts above error hparent ih =>
      rw [hparent] at ih
      rw [FileTree.makeDirectories, h.makeDirectory_error hmake]
      dsimp only
      rw [dif_neg hparts]
      generalize second.makeDirectories path.parent = parent at ih
      obtain ⟨above', result⟩ := parent
      obtain ⟨hresult, happart⟩ := ih
      rw [show result = .error error from hresult]
      exact ⟨rfl, happart⟩
  | case5 path error hother hmake =>
      rw [FileTree.makeDirectories, h.makeDirectory_error hmake]
      split
      · rename_i heq
        cases heq
      · rename_i text heq
        exact absurd (Except.error.inj heq) (hother text)
      · rename_i heq
        cases heq
        exact h.change (h.acceptDirectory path error)

theorem writeText (h : ApartAt place first second) (path : Path) (text : String) :
    ChangedApart place (first.writeText path text) (second.writeText path text) := by
  rw [FileTree.writeText, FileTree.writeText, h.placeOf_eq]
  cases first.placeOf path with
  | error cause => exact ⟨rfl, h⟩
  | ok other =>
      dsimp only
      by_cases hother : other = place
      · -- The one file is overwritten, so that the trees may be equal from here on.
        obtain ⟨content, hfirst⟩ := h.first_file
        obtain ⟨content', hsecond⟩ := h.second_file
        rw [hother, hfirst, hsecond]
        dsimp only
        cases firstSurrogates? text.toList with
        | some run => exact ⟨rfl, h.withFile _⟩
        | none => exact ⟨rfl, h.withFile _⟩
      · rw [h.nodeAt?_eq other hother]
        split
        · exact ⟨rfl, h⟩
        · cases firstSurrogates? text.toList with
          | some run => exact ⟨rfl, h.withNode hother _⟩
          | none => exact ⟨rfl, h.withNode hother _⟩

end ApartAt

end RecordDocs.FileTree
