import StorageMetrics.Proofs.Logging.Console
import StorageMetrics.Proofs.Logging.Rendering
import Mathlib

/-
  What setting logging up comes to. It settles the level, lets the old handlers go, settles the
  console's form and opens the file, in this order, and it can be refused at three of these points
  (`SetUp`). Nothing that was set up before has a part in the outcome but the names of the loggers,
  which only grow, so after any history a call that is not refused leaves a console that stands
  (`stands_of_setup`).
-/

namespace StorageMetrics.Logging

variable {s t : State} {form : Form} {n : Int} {r : Record}

/-! ## What every step keeps -/

/-- Sending a record keeps level and handlers, and the loggers that were asked for stay known. -/
theorem State.send_keeps (s : State) (r : Record) :
    (s.send r).level = s.level ∧ (s.send r).handlers = s.handlers ∧
    (s.send r).suppressed = s.suppressed ∧ ∀ logger ∈ s.loggers, logger ∈ (s.send r).loggers := by
  obtain ⟨console, files, sent⟩ := s.send_eq r
  obtain ⟨loggers, decisions, grown, asked⟩ := s.ask_eq r.loggerName r.level
  rw [sent, asked]
  exact ⟨rfl, rfl, rfl, grown⟩

/-- A file that texts can be added to is opened under the path. -/
def Opens (files : Files) (path : Value) (place : Place) : Prop :=
  ∃ text files', path = .str text ∧ text ≠ "" ∧ Files.openEnd text files = .ok place files'

/-- The five ways in which a file handler is added or not. -/
inductive FileAdded (s : State) (n : Int) (path : Value) : Except SetupError Unit × State → Prop
  | absent (missing : path.isPresent = false) : FileAdded s n path (.ok (), s)
  | opened {text : String} {place : Place} {files : Files} (given : path = .str text)
      (named : text ≠ "") (opens : Files.openEnd text s.files = .ok place files) :
      FileAdded s n path (.ok (), { s with
        files := files
        handlers := s.handlers ++ [⟨.file place, n, .pattern fullPattern⟩] })
  | reported {text : String} {e : FileError} {files : Files} (given : path = .str text)
      (named : text ≠ "") (refused : Files.openEnd text s.files = .error e files)
      (other : e ≠ .nullByte) :
      FileAdded s n path (.ok (), { s with files := files }.send (fileFailure s.now text e))
  | noPath {text : String} {files : Files} (given : path = .str text) (named : text ≠ "")
      (refused : Files.openEnd text s.files = .error .nullByte files) :
      FileAdded s n path (.error .nullByte, { s with files := files })
  | noText (present : path.isPresent = true) (other : path.text? = none) :
      FileAdded s n path (.error .wrongKind, s)

theorem State.addFile_added (s : State) (n : Int) (path : Value) :
    FileAdded s n path (s.addFile n path) := by
  unfold State.addFile
  cases present : path.isPresent with
  | false => exact .absent present
  | true =>
    simp only [Bool.not_true, Bool.false_eq_true, if_false]
    cases path with
    | str text =>
      have named : text ≠ "" := by simpa [Value.isPresent] using present
      dsimp only
      split
      case h_1 place files opened => exact .opened rfl named opened
      case h_2 files refused => exact .noPath rfl named refused
      case h_3 e files other refused => exact .reported rfl named refused other
    | _ => exact .noText present rfl

/-- The state in which only the console has a handler. -/
def State.onConsole (s : State) (n : Int) (form : Form) : State :=
  { s with level := n, handlers := [⟨.console, n, form⟩], decisions := {} }

/-- The ways in which setting up ends: refused for its level, its form or its file, or done. -/
inductive SetUp (s : State) (env : Environment) (level file pattern : Value) :
    Except SetupError Unit × State → Prop
  | noLevel {e : SetupError} (unusable : levelOf level = .error e) :
      SetUp s env level file pattern (.error e, s)
  | noForm {n : Int} {e : SetupError} (settled : levelOf level = .ok n)
      (unusable : consoleForm env pattern = .error e) :
      SetUp s env level file pattern
        (.error e, { s with level := n, handlers := [], decisions := {} })
  | noFile {n : Int} {form : Form} {e : SetupError} {t : State} (settled : levelOf level = .ok n)
      (formed : consoleForm env pattern = .ok form)
      (added : FileAdded (s.onConsole n form) n file (.error e, t)) :
      SetUp s env level file pattern (.error e, t)
  | done {n : Int} {form : Form} {t : State} (settled : levelOf level = .ok n)
      (formed : consoleForm env pattern = .ok form)
      (added : FileAdded (s.onConsole n form) n file (.ok (), t)) :
      SetUp s env level file pattern
        (.ok (), { t with suppressed := warningLevel, decisions := {} })

theorem State.setup_setUp (s : State) (env : Environment) (level file pattern : Value) :
    SetUp s env level file pattern (s.setup env level file pattern) := by
  unfold State.setup
  split
  case h_1 e unusable => exact .noLevel unusable
  case h_2 n settled =>
    dsimp only
    split
    case h_1 e unusable => exact .noForm settled unusable
    case h_2 form formed =>
      have added := (s.onConsole n form).addFile_added n file
      split
      case h_1 e t result => exact .noFile settled formed (result ▸ added)
      case h_2 t result => exact .done settled formed (result ▸ added)

namespace FileAdded

variable {path : Value} {result : Except SetupError Unit}

/-- Level and suppression stay, and so do the loggers that were asked for. -/
theorem keeps (added : FileAdded s n path (result, t)) :
    t.level = s.level ∧ t.suppressed = s.suppressed ∧ ∀ logger ∈ s.loggers, logger ∈ t.loggers := by
  cases added with
  | reported =>
    -- The failure is itself a record, sent to the console that was just given its handler.
    obtain ⟨level, -, suppressed, grown⟩ := State.send_keeps { s with files := _ } _
    exact ⟨level, suppressed, grown⟩
  | _ => exact ⟨rfl, rfl, fun _ mem => mem⟩

/-- Where a file is opened, its handler is the new one; elsewhere the handlers stay as they are. -/
theorem handlers (added : FileAdded s n path (result, t)) :
    (∀ place, Opens s.files path place →
      t.handlers = s.handlers ++ [⟨.file place, n, .pattern fullPattern⟩]) ∧
    ((∀ place, ¬ Opens s.files path place) → t.handlers = s.handlers) := by
  cases added with
  | opened given named opens =>
    refine ⟨?_, fun none_ => absurd ⟨_, _, given, named, opens⟩ (none_ _)⟩
    rintro place ⟨text, files', again, -, opens'⟩
    obtain rfl : text = _ := by simpa [given] using again.symm
    obtain ⟨rfl, -⟩ := by simpa [opens] using opens'
    rfl
  | absent missing =>
    refine ⟨?_, fun _ => rfl⟩
    rintro place ⟨text, files', rfl, named, -⟩
    exact absurd missing (by simpa [Value.isPresent] using named)
  | reported given _ refused =>
    refine ⟨?_, fun _ => (State.send_keeps _ _).2.1⟩
    rintro place ⟨text, files', again, -, opens⟩
    obtain rfl : text = _ := by simpa [given] using again.symm
    exact absurd (refused.symm.trans opens) nofun
  | noPath given _ refused =>
    refine ⟨?_, fun _ => rfl⟩
    rintro place ⟨text, files', again, -, opens⟩
    obtain rfl : text = _ := by simpa [given] using again.symm
    exact absurd (refused.symm.trans opens) nofun
  | noText present other =>
    refine ⟨?_, fun _ => rfl⟩
    rintro place ⟨text, files', rfl, -, -⟩
    exact absurd other nofun

end FileAdded

/-! ## Histories -/

/-- What a program does with logging: it sets it up, or it sends a record. In between time passes. -/
inductive Step where
  | setUp (env : Environment) (level file pattern : Value)
  | send (r : Record)
  | pass (now : Moment)

def State.step (s : State) : Step → State
  | .setUp env level file pattern => (s.setup env level file pattern).2
  | .send r => s.send r
  | .pass now => { s with now := now }

/-- The state that steps lead to from the start of a process with these files. -/
def State.ofSteps (files : Files) (steps : List Step) : State :=
  steps.foldl State.step { files := files }

/-- The suppressed loggers are among those that were asked for. -/
def State.KnowsSuppressed (s : State) : Prop := ∀ logger ∈ suppressedLoggers, logger ∈ s.loggers

theorem State.KnowsSuppressed.setup (knows : s.KnowsSuppressed) (env : Environment)
    (level file pattern : Value) : (s.setup env level file pattern).2.KnowsSuppressed := by
  have ended := s.setup_setUp env level file pattern
  generalize s.setup env level file pattern = result at ended
  cases ended with
  | noLevel => exact knows
  | noForm => exact knows
  | noFile _ _ added => exact fun logger mem => added.keeps.2.2 logger (knows logger mem)
  | done _ _ added => exact fun logger mem => added.keeps.2.2 logger (knows logger mem)

theorem State.KnowsSuppressed.step (knows : s.KnowsSuppressed) (step : Step) :
    (s.step step).KnowsSuppressed := by
  cases step with
  | setUp env level file pattern => exact knows.setup env level file pattern
  | send r => exact fun logger mem => (s.send_keeps r).2.2.2 logger (knows logger mem)
  | pass => exact knows

/-- No step forgets the suppressed loggers. -/
theorem State.knowsSuppressed_ofSteps (files : Files) (steps : List Step) :
    (State.ofSteps files steps).KnowsSuppressed := by
  unfold State.ofSteps
  have start : State.KnowsSuppressed { files := files } := fun _ mem => mem
  generalize ({ files := files } : State) = s at start
  induction steps generalizing s with
  | nil => exact start
  | cons step steps ih => exact ih _ (start.step step)

/-! ## Setting up -/

variable {env : Environment} {level file pattern : Value}

/-- The console is given a handler first, and the file one after it exactly where it is opened. -/
theorem handlers_of_setup (done : s.setup env level file pattern = (.ok (), t)) :
    ∃ n form, levelOf level = .ok n ∧ consoleForm env pattern = .ok form ∧ t.level = n ∧
      (∀ place, Opens s.files file place →
        t.handlers = [⟨.console, n, form⟩, ⟨.file place, n, .pattern fullPattern⟩]) ∧
      ((∀ place, ¬ Opens s.files file place) → t.handlers = [⟨.console, n, form⟩]) := by
  have ended := s.setup_setUp env level file pattern
  rw [done] at ended
  cases ended with
  | done settled formed added =>
    exact ⟨_, _, settled, formed, added.keeps.1, added.handlers⟩

/-- What loggers decided before is forgotten, and the suppressed ones are heard from warnings on. -/
theorem fresh_of_setup (done : s.setup env level file pattern = (.ok (), t)) :
    t.suppressed = warningLevel ∧ t.decisions = {} := by
  have ended := s.setup_setUp env level file pattern
  rw [done] at ended
  cases ended with
  | done => exact ⟨rfl, rfl⟩

/-- After a call that is not refused the console stands. -/
theorem stands_of_setup (knows : s.KnowsSuppressed) (settled : levelOf level = .ok n)
    (formed : consoleForm env pattern = .ok form)
    (done : s.setup env level file pattern = (.ok (), t)) : Stands t n form := by
  obtain ⟨n', form', settled', formed', same, opened, unopened⟩ := handlers_of_setup done
  -- No decision is left from before, so none of them can be wrong at the new level.
  obtain ⟨suppressed, undecided⟩ := fresh_of_setup done
  obtain rfl : n' = n := by simpa [settled] using settled'.symm
  obtain rfl : form' = form := by simpa [formed] using formed'.symm
  have asked : t.KnowsSuppressed := by
    have later := knows.setup env level file pattern
    rwa [done] at later
  refine ⟨same, ?_, ⟨asked, suppressed⟩, ?_⟩
  · by_cases opens : ∃ place, Opens s.files file place
    · obtain ⟨place, opens⟩ := opens
      exact ⟨_, opened place opens, by simp⟩
    · exact ⟨[], unopened (not_exists.mp opens), by simp⟩
  · intro name level heard found
    rw [undecided] at found
    exact absurd found nofun

/-- Without a file nothing can be refused once level and form are settled. -/
theorem State.setup_of_absent (s : State) (settled : levelOf level = .ok n)
    (formed : consoleForm env pattern = .ok form) (absent : file.isPresent = false) :
    s.setup env level file pattern =
      (.ok (), { s.onConsole n form with suppressed := warningLevel, decisions := {} }) := by
  simp [State.setup, settled, formed, State.addFile, absent, State.onConsole]

theorem State.setup_of_opens (s : State) {text : String} {place : Place} {files : Files}
    (settled : levelOf level = .ok n) (formed : consoleForm env pattern = .ok form)
    (named : text ≠ "") (opens : Files.openEnd text s.files = .ok place files) :
    s.setup env level (.str text) pattern =
      (.ok (), { s.onConsole n form with
        files := files
        handlers := [⟨.console, n, form⟩, ⟨.file place, n, .pattern fullPattern⟩]
        suppressed := warningLevel
        decisions := {} }) := by
  simp [State.setup, settled, formed, State.addFile, named, opens, State.onConsole, Value.isPresent]

/-- A file at the root is opened in an empty tree. -/
theorem openEnd_atRoot : Files.openEnd "/a" {} = .ok ["a"] (({} : Files).setText ["a"] "") := by
  -- Paths are followed by a recursion that `decide` does not open, so the parts are computed first.
  have above : Path.parent "/a".toList = ['/'] := by decide
  have made : Files.ensure ['/'] {} = .ok () {} := by cbv
  have parent : Files.ensureParent "/a" {} = .ok () {} := by
    rw [Files.ensureParent, above]
    exact made
  have whole : Path.rootText "/a" ++ "/".intercalate (Path.normal Files.home "/a") = "/a" := by cbv
  have free : Files.writable "/a" {} = .ok ["a"] {} := by cbv
  have missing : (({} : Files).text? ["a"]).isSome = false := rfl
  simp [Files.openEnd, bind, EStateM.bind, parent, whole, free, missing, modify, modifyGet,
    MonadStateOf.modifyGet, EStateM.modifyGet, pure, EStateM.pure]

end StorageMetrics.Logging
