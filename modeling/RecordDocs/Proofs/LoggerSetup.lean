import Mathlib.Data.List.Nodup
import RecordDocs.Logging
import RecordDocs.Proofs.FileChanges

/-!
# Setting the logger up

A set-up leaves the logger with handlers of its own and nothing of what earlier ones made. Every
handler that was ever made is either in use or closed, and never both: those in use are the last
ones. So messages are shown once, however often the logger was set up before them, also when a log
file could not be opened.

Neither a set-up nor a message adds or removes a directory, and a log file can be opened where its
directory is and no directory stands in its place. Unless somebody else changes the files, it is
therefore settled from the start which log files can be opened, and the last set-up alone decides
how messages are passed on.
-/

namespace RecordDocs.Logging

variable {tree after : FileTree} {path : Path} {place : Place} {message : Message}

/-- What a logger lets through, and what its handlers write to and from which level on. It does not
show which handlers these are. -/
structure Wiring where
  level : Option Level
  propagates : Bool
  outlets : List (Target × Level)

def Logger.wiring (logger : Logger) : Wiring where
  level := logger.level
  propagates := logger.propagates
  outlets := logger.handlers.map fun handler => (handler.target, handler.level)

def Logger.made (logger : Logger) : List Handler :=
  logger.closed ++ logger.handlers

inductive Event where
  | setup (verbosity : Verbosity) (logFile : Option Path)
  | message (time : String) (message : Message)
  | files (tree : FileTree)

namespace Event

def isSetup : Event → Bool
  | .setup _ _ => true
  | _ => false

def isForeign : Event → Bool
  | .files _ => true
  | _ => false

def message? : Event → Option Message
  | .message _ message => some message
  | _ => none

end Event

theorem consoleText_append (verbosity : Verbosity) (first second : List Message) :
    consoleText verbosity (first ++ second)
      = consoleText verbosity first ++ consoleText verbosity second := by
  rw [consoleText, List.filter_append, List.map_append, String.join_append, consoleText,
    consoleText]

theorem consoleText_singleton (verbosity : Verbosity) (message : Message) :
    consoleText verbosity [message]
      = if message.level.reaches verbosity.level then consoleLine message else "" := by
  cases hreaches : message.level.reaches verbosity.level <;> simp [consoleText, hreaches]

namespace Desk

variable {desk : Desk} {verbosity : Verbosity} {time : String} {handlers : List Handler}

def fresh (tree : FileTree) : Desk :=
  ⟨.initial, "", tree, []⟩

def step (desk : Desk) : Event → Desk
  | .setup verbosity logFile => (desk.configure verbosity logFile).1
  | .message time message => desk.log time message
  | .files tree => { desk with tree }

def run (desk : Desk) (events : List Event) : Desk :=
  events.foldl step desk

theorem run_append (desk : Desk) (first second : List Event) :
    desk.run (first ++ second) = (desk.run first).run second :=
  List.foldl_append

/-! ### Opening a log file -/

def logPath (tree : FileTree) (path : Path) : Path :=
  if path.isAbsolute then { path with parts := Path.collapse path.parts }
  else ⟨"/", Path.collapse (tree.workingDirectory ++ path.parts)⟩

def logPlace? (tree : FileTree) (path : Path) : Option Place :=
  (openLog tree path).toOption.map Prod.snd

theorem openLog_eq (tree : FileTree) (path : Path) :
    openLog tree path = (do
      let place ← tree.placeOf (logPath tree path)
      match tree.nodeAt? place with
      | some .directory => throw (.system .isDirectory (logPath tree path).text)
      | some (.file _) => return (tree, place)
      | none => return (tree.withNode place (.file []), place)) :=
  rfl

/-- A log file is opened where its path leads to, if this is no directory, and is made there if it
is new. -/
theorem openLog_eq_ok (h : openLog tree path = .ok (after, place)) :
    tree.placeOf (logPath tree path) = .ok place ∧ tree.nodeAt? place ≠ some .directory ∧
      (after = tree ∨ after = tree.withNode place (.file [])) := by
  rw [openLog_eq] at h
  obtain ⟨found, hplace, h⟩ := bind_eq_ok h
  cases hnode : tree.nodeAt? found with
  | none =>
      rw [hnode] at h
      cases h
      exact ⟨hplace, by simp [hnode], .inr rfl⟩
  | some node =>
      rw [hnode] at h
      cases node with
      | directory => cases h
      | file content =>
          cases h
          exact ⟨hplace, by simp [hnode], .inl rfl⟩

theorem logPlace?_eq_some_iff :
    logPlace? tree path = some place ↔
      tree.placeOf (logPath tree path) = .ok place ∧ tree.nodeAt? place ≠ some .directory := by
  constructor
  · intro h
    obtain ⟨⟨after, found⟩, hopen, rfl⟩ := Option.map_eq_some_iff.mp h
    obtain ⟨hplace, hnode, -⟩ := openLog_eq_ok (eq_ok_of_toOption hopen)
    exact ⟨hplace, hnode⟩
  · rintro ⟨hplace, hnode⟩
    rw [logPlace?, openLog_eq, hplace, ok_bind]
    cases hfound : tree.nodeAt? place with
    | none => rfl
    | some node =>
        cases node with
        | directory => exact absurd hfound hnode
        | file content => rfl

/-- Which log files can be opened is a matter of directories alone. -/
theorem logPlace?_of_sameDirectories (h : tree.SameDirectories after) (path : Path) :
    logPlace? after path = logPlace? tree path := by
  -- one direction for any two trees, as the relation holds both ways
  have hkept : ∀ {tree after : FileTree}, tree.SameDirectories after → ∀ place,
      logPlace? tree path = some place → logPlace? after path = some place := by
    intro tree after h place hplace
    obtain ⟨hplace, hnode⟩ := logPlace?_eq_some_iff.mp hplace
    have hpath : logPath after path = logPath tree path := by
      rw [logPath, logPath, h.kept.workingDirectory_eq]
    refine logPlace?_eq_some_iff.mpr ⟨?_, mt h.nodeAt?_iff.mp hnode⟩
    rw [hpath]
    exact h.kept.placeOf_eq hplace
  exact Option.ext fun place => ⟨hkept h.symm place, hkept h place⟩

/-! ### One set-up -/

/-- The logger after a set-up whose log file was opened at a place, or that has none. -/
def replacement (desk : Desk) (verbosity : Verbosity) (place : Option Place) : Logger where
  level := some verbosity.level
  propagates := false
  handlers := ⟨desk.logger.handlerCount, .console, verbosity.level⟩
    :: (place.map fun place => ⟨desk.logger.handlerCount + 1, .file place, .debug⟩).toList
  closed := desk.logger.closed ++ desk.logger.handlers

theorem wiring_replacement (desk other : Desk) (verbosity : Verbosity) (place : Option Place) :
    (desk.replacement verbosity place).wiring = (other.replacement verbosity place).wiring := by
  cases place <;> rfl

theorem foldl_discard (level : Option Level) (propagates : Bool) (handlers closed : List Handler) :
    handlers.foldl Logger.discard ⟨level, propagates, handlers, closed⟩
      = ⟨level, propagates, [], closed ++ handlers⟩ := by
  induction handlers generalizing closed with
  | nil => rw [List.foldl_nil, List.append_nil]
  | cons handler rest ih =>
      rw [List.foldl_cons, Logger.discard]
      dsimp only
      rw [List.erase_cons_head, ih, List.append_assoc, List.singleton_append]

/-- With its handlers discarded and one for the console, the logger is as a set-up leaves it that
opens no log file. -/
theorem attach_console (desk : Desk) (verbosity : Verbosity) :
    (desk.logger.handlers.foldl Logger.discard
        { desk.logger with level := some verbosity.level, propagates := false }).attach
          .console verbosity.level
      = desk.replacement verbosity none := by
  rw [foldl_discard, Logger.attach, Logger.handlerCount, replacement, Logger.handlerCount]
  dsimp only
  rw [List.length_append, List.length_nil, Nat.zero_add, Nat.add_comm, List.nil_append]
  rfl

theorem attach_file (desk : Desk) (verbosity : Verbosity) (place : Place) :
    (desk.replacement verbosity none).attach (.file place) .debug
      = desk.replacement verbosity (some place) := by
  have hcount : (desk.replacement verbosity none).handlerCount = desk.logger.handlerCount + 1 := by
    rw [Logger.handlerCount, replacement, Logger.handlerCount]
    simp only [Option.map_none, Option.toList_none, List.length_singleton, List.length_append]
    omega
  rw [Logger.attach, hcount]
  rfl

theorem configure_none (desk : Desk) (verbosity : Verbosity) :
    desk.configure verbosity none
      = ({ desk with logger := desk.replacement verbosity none }, .ok ()) := by
  unfold configure
  dsimp only
  rw [attach_console]

theorem configure_of_error {cause : FileError} (h : openLog desk.tree path = .error cause) :
    desk.configure verbosity (some path)
      = ({ desk with logger := desk.replacement verbosity none }, .error cause) := by
  unfold configure
  dsimp only
  rw [h, attach_console]

theorem configure_of_ok (h : openLog desk.tree path = .ok (after, place)) :
    desk.configure verbosity (some path)
      = ({ desk with logger := desk.replacement verbosity (some place), tree := after },
          .ok ()) := by
  unfold configure
  dsimp only
  rw [h, attach_console]
  dsimp only
  rw [attach_file]

/-- Whether it succeeds or fails, a set-up replaces the logger; only a log file that can be opened
gets a handler, and the set-up fails just if there is one that cannot. -/
theorem configure_replaces (desk : Desk) (verbosity : Verbosity) (logFile : Option Path) :
    (desk.configure verbosity logFile).1.logger
        = desk.replacement verbosity (logFile.bind (logPlace? desk.tree)) ∧
      ((desk.configure verbosity logFile).2 = .ok () ↔
        (logFile.isSome → (logFile.bind (logPlace? desk.tree)).isSome)) := by
  cases logFile with
  | none => simp [configure_none]
  | some path =>
      cases hopen : openLog desk.tree path with
      | error cause =>
          have hplace : logPlace? desk.tree path = none := by
            rw [logPlace?, hopen]
            rfl
          simp [configure_of_error hopen, hplace]
      | ok opened =>
          have hplace : logPlace? desk.tree path = some opened.2 := by
            rw [logPlace?, hopen]
            rfl
          simp [configure_of_ok hopen, hplace]

/-! ### One message -/

theorem logger_writeLog (desk : Desk) (place : Place) (line : String) :
    (desk.writeLog place line).logger = desk.logger := by
  rw [writeLog]
  split <;> rfl

theorem console_writeLog (desk : Desk) (place : Place) (line : String) :
    (desk.writeLog place line).console = desk.console := by
  rw [writeLog]
  split <;> rfl

theorem sameDirectories_writeLog (h : desk.tree.nodeAt? place ≠ some .directory) (line : String) :
    desk.tree.SameDirectories (desk.writeLog place line).tree := by
  rw [writeLog]
  split
  · exact .refl _
  · exact FileTree.sameDirectories_withNode h

theorem logger_handle (time : String) (message : Message) (desk : Desk) (handler : Handler) :
    (handle time message desk handler).logger = desk.logger := by
  rw [handle]
  split
  · split
    · rfl
    · exact logger_writeLog _ _ _
  · rfl

theorem logger_foldl_handle (time : String) (message : Message) (handlers : List Handler)
    (desk : Desk) : (handlers.foldl (handle time message) desk).logger = desk.logger := by
  refine List.foldlRecOn (motive := fun after : Desk => after.logger = desk.logger) handlers _
    rfl ?_
  intro middle hmiddle handler _
  exact (logger_handle time message middle handler).trans hmiddle

theorem logger_log (desk : Desk) (time : String) (message : Message) :
    (desk.log time message).logger = desk.logger := by
  rw [log]
  split
  · split <;> rfl
  · split
    · exact logger_foldl_handle _ _ _ _
    · rfl

theorem console_foldl_handle (h : ∀ handler ∈ handlers, handler.target ≠ .console) :
    (handlers.foldl (handle time message) desk).console = desk.console := by
  refine List.foldlRecOn (motive := fun after : Desk => after.console = desk.console) handlers _
    rfl ?_
  intro middle hmiddle handler hmem
  rw [← hmiddle, handle]
  split
  · split
    · rename_i htarget
      exact absurd htarget (h handler hmem)
    · exact console_writeLog _ _ _
  · rfl

theorem console_log {before : Desk} {logPlace : Option Place}
    (h : desk.logger = before.replacement verbosity logPlace) (time : String) (message : Message) :
    (desk.log time message).console = desk.console ++ consoleText verbosity [message] := by
  have hfiles : ∀ handler ∈ (logPlace.map fun place =>
      (⟨before.logger.handlerCount + 1, .file place, .debug⟩ : Handler)).toList,
      handler.target ≠ .console := by
    cases logPlace <;> simp
  rw [log, h, consoleText_singleton]
  dsimp only [replacement]
  split
  · rename_i hreaches
    rw [List.foldl_cons, console_foldl_handle hfiles, handle, if_pos hreaches]
  · exact (String.append_empty).symm

theorem sameDirectories_foldl_handle
    (h : ∀ handler ∈ handlers, ∀ place, handler.target = .file place →
      desk.tree.nodeAt? place ≠ some .directory) :
    desk.tree.SameDirectories (handlers.foldl (handle time message) desk).tree := by
  refine List.foldlRecOn (motive := fun after : Desk => desk.tree.SameDirectories after.tree)
    handlers _ (.refl _) ?_
  intro middle hmiddle handler hmem
  rw [handle]
  split
  · split
    · exact hmiddle
    · rename_i place htarget
      have hnode := mt hmiddle.nodeAt?_iff.mp (h handler hmem place htarget)
      exact hmiddle.trans (sameDirectories_writeLog hnode _)
  · exact hmiddle

/-! ### Handlers of a run -/

def Numbered (desk : Desk) : Prop :=
  desk.logger.made.map Handler.number = List.range desk.logger.handlerCount

theorem numbered_fresh (tree : FileTree) : (fresh tree).Numbered :=
  rfl

theorem length_made (desk : Desk) : desk.logger.made.length = desk.logger.handlerCount := by
  rw [Logger.made, List.length_append, Logger.handlerCount, Nat.add_comm]

theorem made_configure (desk : Desk) (verbosity : Verbosity) (logFile : Option Path) :
    (desk.configure verbosity logFile).1.logger.made
      = desk.logger.made
        ++ (desk.replacement verbosity (logFile.bind (logPlace? desk.tree))).handlers := by
  rw [Logger.made, (configure_replaces desk verbosity logFile).1]
  rfl

theorem Numbered.configure (h : desk.Numbered) (verbosity : Verbosity) (logFile : Option Path) :
    (desk.configure verbosity logFile).1.Numbered := by
  rw [Numbered, ← length_made, made_configure, List.map_append, h, List.length_append, length_made]
  cases logFile.bind (logPlace? desk.tree) with
  | none => exact List.range_succ.symm
  | some place => simp [replacement, List.range_succ]

theorem made_prefix_step (desk : Desk) (event : Event) :
    desk.logger.made <+: (desk.step event).logger.made := by
  cases event with
  | setup verbosity logFile =>
      rw [step, made_configure]
      exact List.prefix_append _ _
  | message time message =>
      have hlogger : (desk.step (.message time message)).logger = desk.logger :=
        logger_log desk time message
      exact hlogger.symm ▸ List.prefix_rfl
  | files tree => exact List.prefix_rfl

theorem Numbered.step (h : desk.Numbered) (event : Event) : (desk.step event).Numbered := by
  cases event with
  | setup verbosity logFile => exact h.configure verbosity logFile
  | message time message =>
      rw [Desk.step, Numbered, logger_log]
      exact h
  | files tree => exact h

theorem made_prefix_run (desk : Desk) (events : List Event) :
    desk.logger.made <+: (desk.run events).logger.made := by
  refine List.foldlRecOn (motive := fun after : Desk => desk.logger.made <+: after.logger.made)
    events _ List.prefix_rfl ?_
  intro middle hmiddle event _
  exact hmiddle.trans (made_prefix_step middle event)

theorem Numbered.run (h : desk.Numbered) (events : List Event) : (desk.run events).Numbered := by
  refine List.foldlRecOn (motive := Numbered) events _ h ?_
  intro middle hmiddle event _
  exact hmiddle.step event

theorem Numbered.nodup_made (h : desk.Numbered) : desk.logger.made.Nodup := by
  have hnumbers : (desk.logger.made.map Handler.number).Nodup := by
    rw [h]
    exact List.nodup_range
  exact List.Nodup.of_map _ hnumbers

theorem Numbered.not_mem_closed (h : desk.Numbered) {handler : Handler}
    (hmem : handler ∈ desk.logger.handlers) : handler ∉ desk.logger.closed := by
  intro hclosed
  exact (List.nodup_append.mp h.nodup_made).2.2 handler hclosed handler hmem rfl

/-! ### Messages of a run -/

/-- While the logger is not set up again it stays as it is, and the console shows the messages that
reach its level. -/
theorem run_of_replacement {before : Desk} {logPlace : Option Place} {events : List Event}
    (h : desk.logger = before.replacement verbosity logPlace)
    (hevents : ∀ event ∈ events, event.isSetup = false) :
    (desk.run events).logger = desk.logger ∧
      (desk.run events).console
        = desk.console ++ consoleText verbosity (events.filterMap Event.message?) := by
  induction events generalizing desk with
  | nil => exact ⟨rfl, (String.append_empty).symm⟩
  | cons event rest ih =>
      rw [List.forall_mem_cons] at hevents
      obtain ⟨hevent, hrest⟩ := hevents
      cases event with
      | setup verbosity logFile => cases hevent
      | message time message =>
          have hlogger := logger_log desk time message
          obtain ⟨hstays, hconsole⟩ := ih (hlogger.trans h) hrest
          refine ⟨hstays.trans hlogger, hconsole.trans ?_⟩
          rw [console_log h, String.append_assoc, ← consoleText_append]
          rfl
      | files tree => exact ih h hrest

/-! ### Files of a run -/

/-- The directories are those of a tree, and no log file in use is in the place of one. -/
structure KeepsTo (tree : FileTree) (desk : Desk) : Prop where
  sameDirectories : tree.SameDirectories desk.tree
  not_directory : ∀ handler ∈ desk.logger.handlers, ∀ place, handler.target = .file place →
    tree.nodeAt? place ≠ some .directory

theorem keepsTo_fresh (tree : FileTree) : KeepsTo tree (fresh tree) :=
  ⟨.refl tree, by simp [fresh, Logger.initial]⟩

theorem KeepsTo.configure (h : KeepsTo tree desk) (verbosity : Verbosity)
    (logFile : Option Path) : KeepsTo tree (desk.configure verbosity logFile).1 := by
  cases logFile with
  | none => exact ⟨h.sameDirectories, by simp [configure_none, replacement]⟩
  | some path =>
      cases hopen : openLog desk.tree path with
      | error cause =>
          rw [configure_of_error hopen]
          exact ⟨h.sameDirectories, by simp [replacement]⟩
      | ok opened =>
          obtain ⟨after, place⟩ := opened
          rw [configure_of_ok hopen]
          obtain ⟨-, hnode, hafter⟩ := openLog_eq_ok hopen
          constructor
          · rcases hafter with rfl | rfl
            · exact h.sameDirectories
            · exact h.sameDirectories.trans (FileTree.sameDirectories_withNode hnode)
          · have htree := mt h.sameDirectories.nodeAt?_iff.mpr hnode
            simpa [replacement] using htree

theorem KeepsTo.log (h : KeepsTo tree desk) (time : String) (message : Message) :
    KeepsTo tree (desk.log time message) := by
  constructor
  · refine h.sameDirectories.trans ?_
    rw [Desk.log]
    split
    · split <;> exact .refl _
    · split
      · refine sameDirectories_foldl_handle fun handler hhandler place htarget => ?_
        exact mt h.sameDirectories.nodeAt?_iff.mp (h.not_directory handler hhandler place htarget)
      · exact .refl _
  · rw [logger_log]
    exact h.not_directory

theorem KeepsTo.step {event : Event} (h : KeepsTo tree desk) (hevent : event.isForeign = false) :
    KeepsTo tree (desk.step event) := by
  cases event with
  | setup verbosity logFile => exact h.configure verbosity logFile
  | message time message => exact h.log time message
  | files tree => cases hevent

theorem KeepsTo.run {events : List Event} (h : KeepsTo tree desk)
    (hevents : ∀ event ∈ events, event.isForeign = false) : KeepsTo tree (desk.run events) := by
  refine List.foldlRecOn (motive := KeepsTo tree) events _ h ?_
  intro middle hmiddle event hmem
  exact hmiddle.step (hevents event hmem)

/-- As long as nobody else changes the files, it is settled from the start which log files can be
opened. -/
theorem logPlace?_run {events : List Event}
    (hevents : ∀ event ∈ events, event.isForeign = false) (path : Path) :
    logPlace? ((fresh tree).run events).tree path = logPlace? tree path :=
  logPlace?_of_sameDirectories ((keepsTo_fresh tree).run hevents).sameDirectories path

/-! ### The last set-up -/

/-- **The last set-up decides.** Whatever happened before, a set-up leaves a logger that passes
nothing on above it, has the level that was asked for, one new handler for the console and, just if
a log file was asked for and could be opened, one new handler for it; only a log file that cannot be
opened makes the set-up fail. Every handler that was in use at any time before is closed and no
longer in use, and none in use is closed. If nobody else changes the files, a logger set up after
another history from the same files is wired alike. Until the next set-up the logger stays as it is,
and the console shows each message whose level is at least as high once, in order, and no other. -/
theorem last_setup_decides (tree : FileTree) (events : List Event) (verbosity : Verbosity)
    (logFile : Option Path) {before after : Desk} {outcome : Except FileError Unit}
    (hbefore : (fresh tree).run events = before)
    (hafter : before.configure verbosity logFile = (after, outcome)) :
    after.logger = before.replacement verbosity (logFile.bind (logPlace? before.tree)) ∧
    (outcome = .ok () ↔ (logFile.isSome → (logFile.bind (logPlace? before.tree)).isSome)) ∧
    (∀ earlier, earlier <+: events → ∀ handler ∈ ((fresh tree).run earlier).logger.handlers,
      handler ∈ after.logger.closed ∧ handler ∉ after.logger.handlers) ∧
    (∀ handler ∈ after.logger.handlers, handler ∉ after.logger.closed) ∧
    ((∀ event ∈ events, event.isForeign = false) →
      ∀ others, (∀ event ∈ others, event.isForeign = false) →
        (((fresh tree).run others).configure verbosity logFile).1.logger.wiring
          = after.logger.wiring) ∧
    ∀ later, (∀ event ∈ later, event.isSetup = false) →
      (after.run later).logger = after.logger ∧
      (after.run later).console
        = after.console ++ String.join (((later.filterMap Event.message?).filter
            fun message => verbosity.level.rank ≤ message.level.rank).map consoleLine) := by
  subst hbefore
  have hreplaces := configure_replaces ((fresh tree).run events) verbosity logFile
  have hnumbered := ((numbered_fresh tree).run events).configure verbosity logFile
  rw [hafter] at hreplaces hnumbered
  obtain ⟨hlogger, houtcome⟩ := hreplaces
  refine ⟨hlogger, houtcome, ?_, fun handler => hnumbered.not_mem_closed, ?_, ?_⟩
  · rintro earlier ⟨rest, rfl⟩ handler hhandler
    -- the set-up closes all that were made before it, and those in use back then are among them
    have hclosed : handler ∈ after.logger.closed := by
      have hmade := made_prefix_run ((fresh tree).run earlier) rest
      rw [hlogger, run_append]
      exact hmade.subset (List.mem_append_right _ hhandler)
    exact ⟨hclosed, fun huse => hnumbered.not_mem_closed huse hclosed⟩
  · intro hevents others hothers
    have hplace : logPlace? ((fresh tree).run others).tree
        = logPlace? ((fresh tree).run events).tree := by
      funext path
      rw [logPlace?_run hothers, logPlace?_run hevents]
    rw [(configure_replaces _ verbosity logFile).1, hlogger, hplace]
    exact wiring_replacement _ _ _ _
  · intro later hlater
    exact run_of_replacement hlogger hlater

def firstLog : List Event :=
  [.setup ⟨true, false⟩ (some ⟨"", ["desk.log"]⟩), .message "9:00" ⟨.debug, "builder", "first"⟩]

def laterMessages : List Event :=
  [.message "9:01" ⟨.info, "cli", "second"⟩, .message "9:02" ⟨.warning, "cli", "third"⟩]

/-- A quiet set-up with a log file in a missing directory fails. It leaves a new console handler and
closes the two handlers there were, and only the warning is shown, once. -/
theorem failed_setup_decides :
    ∃ before after cause, (fresh (.bare ["desk"] [])).run firstLog = before ∧
      before.configure ⟨false, true⟩ (some ⟨"", ["lost", "desk.log"]⟩) = (after, .error cause) ∧
      before.logger.handlers
        = [⟨0, .console, .debug⟩, ⟨1, .file ["desk", "desk.log"], .debug⟩] ∧
      (∀ handler ∈ before.logger.handlers, handler ∈ after.logger.closed) ∧
      after.logger.handlers = [⟨2, .console, .warning⟩] ∧
      (∀ event ∈ firstLog, event.isForeign = false) ∧
      ((fresh (.bare ["desk"] [])).configure ⟨false, true⟩
        (some ⟨"", ["lost", "desk.log"]⟩)).1.logger.wiring = after.logger.wiring ∧
      (∀ event ∈ laterMessages, event.isSetup = false) ∧
      (after.run laterMessages).console = after.console ++ "[getdocs] WARNING third\n" := by
  have hown : ∀ event ∈ firstLog, event.isForeign = false := by simp [firstLog, Event.isForeign]
  have hmessages : ∀ event ∈ laterMessages, event.isSetup = false := by
    simp [laterMessages, Event.isSetup]
  obtain ⟨before, hbefore⟩ : ∃ before, (fresh (.bare ["desk"] [])).run firstLog = before :=
    ⟨_, rfl⟩
  have hopen : openLog before.tree ⟨"", ["lost", "desk.log"]⟩
      = .error (.system .noEntry "/desk/lost/desk.log") := by
    rw [← hbefore]
    decide +kernel
  have hcount : before.logger.handlerCount = 2 := by
    rw [← hbefore]
    decide +kernel
  have hhandlers : before.logger.handlers
      = [⟨0, .console, .debug⟩, ⟨1, .file ["desk", "desk.log"], .debug⟩] := by
    rw [← hbefore]
    decide +kernel
  have htext : String.join (((laterMessages.filterMap Event.message?).filter
      fun message => (Verbosity.level ⟨false, true⟩).rank ≤ message.level.rank).map consoleLine)
      = "[getdocs] WARNING third\n" := by decide +kernel
  obtain ⟨after, hafter⟩ : ∃ after, before.configure ⟨false, true⟩
      (some ⟨"", ["lost", "desk.log"]⟩) = (after, .error _) := ⟨_, configure_of_error hopen⟩
  obtain ⟨hlogger, -, hearlier, -, hwiring, hlater⟩ :=
    last_setup_decides _ firstLog ⟨false, true⟩ _ hbefore hafter
  refine ⟨before, after, _, hbefore, hafter, hhandlers, fun handler hhandler => ?_, ?_, hown,
    hwiring hown [] (by simp), hmessages, ?_⟩
  · exact (hearlier firstLog List.prefix_rfl handler (hbefore ▸ hhandler)).1
  · rw [hlogger, replacement, hcount, Option.bind_some, logPlace?, hopen]
    rfl
  · rw [(hlater laterMessages hmessages).2, htext]

end Desk

end RecordDocs.Logging
