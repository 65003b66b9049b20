import StorageMetrics.Proofs.Logging.Choice

/-
  What a refused call leaves behind. The level is looked at before anything changes, so a call that
  is refused for its level does nothing. The pattern and the file are looked at after the old
  handlers went, so a call that is refused for one of them takes effect up to there: its own level
  holds, and of the handlers there were none is left (`refused_setup_by_stage`).
-/

namespace StorageMetrics.Logging

variable {s t : State} {n : Int} {form : Form}

/-! ## Outputs without a handler -/

/-- The console's handler leaves the files alone. -/
theorem Handler.write_files {h : Handler} (onConsole : h.output = .console) (r : Record)
    (s : State) : (h.write r s).files = s.files := by
  unfold Handler.write
  rw [onConsole]
  split
  · rfl
  · split <;> rfl

theorem foldl_write_files {handlers : List Handler}
    (onConsole : ∀ h ∈ handlers, h.output = .console) (r : Record) (s : State) :
    (handlers.foldl (fun s h => h.write r s) s).files = s.files := by
  induction handlers generalizing s with
  | nil => rfl
  | cons h handlers ih =>
    rw [List.foldl_cons, ih fun h mem => onConsole h (List.mem_cons_of_mem _ mem)]
    exact Handler.write_files (onConsole h List.mem_cons_self) r s

/-- An output without a handler stays as it is when a record is sent. -/
theorem State.send_outputs (s : State) (r : Record) :
    ((∀ h ∈ s.handlers, h.output = .console) → (s.send r).files = s.files) ∧
    ((∀ h ∈ s.handlers, h.output ≠ .console) → (s.send r).console = s.console) := by
  obtain ⟨loggers, decisions, -, asked⟩ := s.ask_eq r.loggerName r.level
  by_cases heard : (s.ask r.loggerName r.level).1 = true
  · rw [send_of_heard heard, asked]
    exact ⟨fun all => foldl_write_files all r _, fun none_ => foldl_write_console none_ r _⟩
  · rw [send_of_unheard heard, asked]
    exact ⟨fun _ => rfl, fun _ => rfl⟩

theorem State.sendAll_outputs (s : State) (records : List Record) :
    ((∀ h ∈ s.handlers, h.output = .console) → (s.sendAll records).files = s.files) ∧
    ((∀ h ∈ s.handlers, h.output ≠ .console) → (s.sendAll records).console = s.console) := by
  induction records generalizing s with
  | nil => exact ⟨fun _ => rfl, fun _ => rfl⟩
  | cons r records ih =>
    obtain ⟨files, console⟩ := ih (s.send r)
    rw [(s.send_keeps r).2.1] at files console
    exact ⟨fun all => (files all).trans ((s.send_outputs r).1 all),
      fun none_ => (console none_).trans ((s.send_outputs r).2 none_)⟩

/-! ## Refused calls -/

variable {env : Environment} {level file pattern : Value} {e : SetupError}

/-- The path is given and is none that a file can have: it holds a null character, or is no text. -/
def FileUnusable (files : Files) (path : Value) (e : SetupError) : Prop :=
  (path.isPresent = true ∧ path.text? = none ∧ e = .wrongKind) ∨
  (∃ text files', path = .str text ∧ text ≠ "" ∧
    Files.openEnd text files = .error .nullByte files' ∧ e = .nullByte)

/-- What is left of a call that is refused. Refused for its level, it changes nothing. Refused for
its pattern, which takes that the JSON flag is off, it leaves its own level and no handler, so no
record reaches an output any more. Refused for its file, it leaves its own level and the console's
handler, and no record reaches a file any more. -/
theorem refused_setup_by_stage (refused : s.setup env level file pattern = (.error e, t)) :
    (levelOf level = .error e ∧ t = s) ∨
    (∃ n, levelOf level = .ok n ∧
      env.isOn jsonVariable "" = false ∧ usablePattern pattern = .error e ∧
      t.level = n ∧ t.handlers = [] ∧ ∀ records,
        (t.sendAll records).console = s.console ∧ (t.sendAll records).files = s.files) ∨
    (∃ n form, levelOf level = .ok n ∧ consoleForm env pattern = .ok form ∧
      FileUnusable s.files file e ∧ t.level = n ∧ t.handlers = [⟨.console, n, form⟩] ∧
      ∀ records, (t.sendAll records).files = t.files) := by
  have ended := s.setup_setUp env level file pattern
  rw [refused] at ended
  cases ended with
  | noLevel unusable => exact Or.inl ⟨unusable, rfl⟩
  -- From here on the old handlers are gone.
  | noForm settled unusable =>
    obtain ⟨off, unusable⟩ := consoleForm_eq_error_iff.mp unusable
    refine Or.inr (Or.inl ⟨_, settled, off, unusable, rfl, rfl, fun records => ?_⟩)
    obtain ⟨files, console⟩ := State.sendAll_outputs
      { s with level := _, handlers := [], decisions := {} } records
    exact ⟨console (by simp), files (by simp)⟩
  | noFile settled formed added =>
    refine Or.inr (Or.inr ⟨_, _, settled, formed, ?_⟩)
    cases added with
    | noPath given named broken =>
      refine ⟨Or.inr ⟨_, _, given, named, broken, rfl⟩, rfl, rfl, fun records => ?_⟩
      exact (State.sendAll_outputs { s.onConsole _ _ with files := _ } records).1
        (by simp [State.onConsole])
    | noText present other =>
      refine ⟨Or.inl ⟨present, other, rfl⟩, rfl, rfl, fun records => ?_⟩
      exact (State.sendAll_outputs (s.onConsole _ _) records).1 (by simp [State.onConsole])

/-- The usual console, and then a call whose pattern names no field. -/
theorem refused_setup_by_stage_plainText :
    let s := (({} : State).setup {} (.str "INFO") .none (.str fullPattern)).2
    let again := s.setup {} (.str "DEBUG") .none (.str "plain text")
    again = (.error (.invalidPattern "plain text"), again.2) ∧ again.2.level = 10 ∧
    again.2.handlers = [] ∧ ∀ records, (again.2.sendAll records).console = s.console := by
  intro s again
  have settled : levelOf (.str "DEBUG") = .ok 10 := by decide +kernel
  have refused : again = (.error (.invalidPattern "plain text"), again.2) :=
    Prod.ext (by decide +kernel) rfl
  obtain ⟨unusable, -⟩ | ⟨n, settled', -, -, level, handlers, lost⟩ | ⟨n, form, -, formed, -⟩ :=
    refused_setup_by_stage refused
  · exact absurd (settled.symm.trans unusable) nofun
  · obtain rfl : 10 = n := by simpa [settled] using settled'
    exact ⟨refused, level, handlers, fun records => (lost records).1⟩
  · have unusable : consoleForm {} (.str "plain text") = .error (.invalidPattern "plain text") := by
      decide +kernel
    exact absurd (unusable.symm.trans formed) nofun

/-- The handler that was there is gone, the level is the refused call's, and a record that reached
the console before is lost. -/
theorem refused_pattern_drops_handlers :
    let s := (({} : State).setup {} (.str "INFO") .none (.str fullPattern)).2
    let again := s.setup {} (.str "DEBUG") .none (.str "plain text")
    let hello : Record := { logger := .str "app", level := 20, message := .str "hello" }
    s.level = 20 ∧ s.handlers = [⟨.console, 20, .pattern shortPattern⟩] ∧
    (s.send hello).console = "INFO app: hello\n" ∧
    again.1 = .error (.invalidPattern "plain text") ∧ again.2.level = 10 ∧ again.2.handlers = [] ∧
    (again.2.send hello).console = "" := by
  decide +kernel

end StorageMetrics.Logging
