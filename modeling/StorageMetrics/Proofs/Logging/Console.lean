import StorageMetrics.Proofs.Logging.Loggers

/-
  What records leave on the console. A record is asked of its logger and then given to each handler,
  and only the console's handler writes there. So a run of records adds, in their order, the line of
  each one that was heard and that the handler's level lets through (`Stands.sendAll_console`), and
  which ones these are is told by their names and levels (`Stands.reaches_iff`).
-/

namespace StorageMetrics.Logging

/-- The name of the logger that the record is sent to. -/
def Record.loggerName (r : Record) : String := r.logger.text?.getD ""

/-- The line of a record, with its end; a record that has no text in this form has no line. -/
def Form.line (form : Form) (r : Record) : String := (form.text r).elim "" (· ++ "\n")

/-- Sends records one after the other. -/
def State.sendAll (s : State) (records : List Record) : State := records.foldl State.send s

/-! ## One record -/

variable {s : State} {form : Form} {n : Int}

/-- A handler writes to the console or to a file, and changes nothing else. -/
theorem Handler.write_eq (h : Handler) (r : Record) (s : State) :
    ∃ console files, h.write r s = { s with console := console, files := files } := by
  unfold Handler.write
  split
  · exact ⟨_, _, rfl⟩
  · split
    · exact ⟨_, _, rfl⟩
    · cases h.output with
      | console => exact ⟨_, _, rfl⟩
      | file place => exact ⟨_, _, rfl⟩

theorem Handler.write_console (r : Record) (s : State) :
    (Handler.write ⟨.console, n, form⟩ r s).console =
      s.console ++ if n ≤ r.level then form.line r else "" := by
  unfold Handler.write Form.line
  by_cases enough : n ≤ r.level
  · simp only [Int.not_lt.mpr enough, enough, if_false, if_true]
    cases form.text r with
    | none => simp
    | some text => simp [String.append_assoc]
  · simp [Int.lt_of_not_ge enough, enough]

theorem Handler.write_file {h : Handler} (other : h.output ≠ .console) (r : Record) (s : State) :
    (h.write r s).console = s.console := by
  unfold Handler.write
  split
  · rfl
  · split
    · rfl
    · cases output : h.output with
      | console => exact absurd output other
      | file place => rfl

theorem foldl_write_eq (handlers : List Handler) (r : Record) (s : State) :
    ∃ console files, handlers.foldl (fun s h => h.write r s) s =
      { s with console := console, files := files } := by
  induction handlers generalizing s with
  | nil => exact ⟨_, _, rfl⟩
  | cons h handlers ih =>
    obtain ⟨console, files, written⟩ := h.write_eq r s
    rw [List.foldl_cons, written]
    exact ih _

theorem foldl_write_console {handlers : List Handler} (others : ∀ h ∈ handlers, h.output ≠ .console)
    (r : Record) (s : State) :
    (handlers.foldl (fun s h => h.write r s) s).console = s.console := by
  induction handlers generalizing s with
  | nil => rfl
  | cons h handlers ih =>
    rw [List.foldl_cons, ih fun h mem => others h (List.mem_cons_of_mem _ mem)]
    exact Handler.write_file (others h List.mem_cons_self) r s

theorem State.send_of_heard {r : Record} (heard : (s.ask r.loggerName r.level).1 = true) :
    s.send r = (s.ask r.loggerName r.level).2.writeAll r := if_pos heard

theorem State.send_of_unheard {r : Record} (unheard : ¬ (s.ask r.loggerName r.level).1 = true) :
    s.send r = (s.ask r.loggerName r.level).2 := if_neg unheard

/-- Besides what loggers remember, sending a record changes the outputs and nothing else. -/
theorem State.send_eq (s : State) (r : Record) :
    ∃ console files, s.send r =
      { (s.ask r.loggerName r.level).2 with console := console, files := files } := by
  by_cases heard : (s.ask r.loggerName r.level).1 = true
  · rw [send_of_heard heard]
    exact foldl_write_eq _ r _
  · rw [send_of_unheard heard]
    exact ⟨_, _, rfl⟩

/-! ## A console that stands -/

/-- Set up with a level and a form: the console's handler is the first, no other one writes there,
and the suppressed loggers are heard from warnings on. -/
structure Stands (s : State) (n : Int) (form : Form) : Prop where
  level : s.level = n
  handlers : ∃ files, s.handlers = ⟨.console, n, form⟩ :: files ∧ ∀ h ∈ files, h.output ≠ .console
  suppresses : s.Suppresses
  decided : s.Decided

/-- The logger lets the record through, and so does the console's handler. -/
def State.Reaches (s : State) (r : Record) : Prop :=
  (s.ask r.loggerName r.level).1 = true ∧ s.level ≤ r.level

instance (s : State) (r : Record) : Decidable (s.Reaches r) :=
  inferInstanceAs (Decidable (_ ∧ _))

/-- The level of a record is one, it is at least the level asked for, and for suppressed loggers a
warning's. -/
def Record.Passes (n : Int) (r : Record) : Prop :=
  0 < r.level ∧ n ≤ r.level ∧ (IsSuppressed r.loggerName → warningLevel ≤ r.level)

instance (n : Int) (r : Record) : Decidable (r.Passes n) := inferInstanceAs (Decidable (_ ∧ _ ∧ _))

/-- Name and level alone decide whether the record passes: its level is too low for everyone, or the
logger's name decides. -/
def Record.IsRegular (n : Int) (r : Record) : Prop :=
  r.level < n ∨ Logging.IsRegular r.loggerName r.level

namespace Stands

theorem reaches_iff (stands : Stands s n form) {r : Record} (regular : r.IsRegular n) :
    s.Reaches r ↔ r.Passes n := by
  unfold State.Reaches Record.Passes
  rw [stands.level]
  constructor
  · rintro ⟨heard, enough⟩
    have decides := (stands.suppresses.ask stands.decided r.loggerName r.level).1
      (regular.resolve_left (Int.not_lt.mpr enough)) (stands.level ▸ enough)
    exact ⟨(decides.mp heard).1, enough, (decides.mp heard).2⟩
  · rintro ⟨positive, enough, suppressed⟩
    have decides := (stands.suppresses.ask stands.decided r.loggerName r.level).1
      (regular.resolve_left (Int.not_lt.mpr enough)) (stands.level ▸ enough)
    exact ⟨decides.mpr ⟨positive, suppressed⟩, enough⟩

/-- A record that reaches the console adds its line there, and any other adds nothing. -/
theorem send_console (stands : Stands s n form) (r : Record) :
    (s.send r).console = s.console ++ if s.Reaches r then form.line r else "" := by
  obtain ⟨files, handlers, others⟩ := stands.handlers
  obtain ⟨loggers, decisions, -, asked⟩ := s.ask_eq r.loggerName r.level
  by_cases heard : (s.ask r.loggerName r.level).1 = true
  · have reaches : n ≤ r.level ↔ s.Reaches r := by
      rw [State.Reaches, stands.level, and_iff_right heard]
    rw [State.send_of_heard heard, asked, State.writeAll, handlers, List.foldl_cons,
      foldl_write_console others, Handler.write_console, if_congr reaches rfl rfl]
  · have unreached : ¬ s.Reaches r := fun reaches => heard reaches.1
    rw [State.send_of_unheard heard, asked, if_neg unreached, String.append_empty]

theorem send (stands : Stands s n form) (r : Record) : Stands (s.send r) n form := by
  obtain ⟨console, files, sent⟩ := s.send_eq r
  obtain ⟨-, suppresses, decided⟩ :=
    stands.suppresses.ask stands.decided r.loggerName r.level
  obtain ⟨loggers, decisions, -, asked⟩ := s.ask_eq r.loggerName r.level
  rw [asked] at suppresses decided
  rw [sent, asked]
  exact {
    level := stands.level
    handlers := stands.handlers
    suppresses := ⟨suppresses.asked, suppresses.level⟩
    decided := decided }

theorem sendAll (stands : Stands s n form) (records : List Record) :
    Stands (s.sendAll records) n form := by
  induction records generalizing s with
  | nil => exact stands
  | cons r records ih => exact ih (stands.send r)

end Stands

/-! ## A run of records -/

/-- The records of a run that reach the console, in their order. -/
def State.reaching (s : State) : List Record → List Record
  | [] => []
  | r :: records =>
    if s.Reaches r then r :: (s.send r).reaching records else (s.send r).reaching records

theorem State.reaching_sublist (s : State) (records : List Record) :
    (s.reaching records).Sublist records := by
  induction records generalizing s with
  | nil => exact .slnil
  | cons r records ih =>
    unfold State.reaching
    split
    · exact (ih _).cons_cons r
    · exact (ih _).cons r

namespace Stands

/-- A run of records adds the lines of those that reach the console. -/
theorem sendAll_console (stands : Stands s n form) (records : List Record) :
    (s.sendAll records).console =
      s.console ++ String.join ((s.reaching records).map form.line) := by
  induction records generalizing s with
  | nil => simp [State.sendAll, State.reaching]
  | cons r records ih =>
    -- The console stands after the first record too, and its line is what the rest goes on from.
    have rest := ih (stands.send r)
    rw [stands.send_console r] at rest
    unfold State.reaching
    by_cases reaches : s.Reaches r
    · rw [if_pos reaches] at rest ⊢
      rw [List.map_cons, String.join_cons, ← String.append_assoc]
      exact rest
    · rw [if_neg reaches, String.append_empty] at rest
      rw [if_neg reaches]
      exact rest

/-- Where name and level decide, the records that reach the console are those that pass. -/
theorem reaching_eq (stands : Stands s n form) {records : List Record}
    (regular : ∀ r ∈ records, r.IsRegular n) :
    s.reaching records = records.filter fun r => r.Passes n := by
  induction records generalizing s with
  | nil => rfl
  | cons r records ih =>
    have rest := ih (stands.send r) fun r mem => regular r (List.mem_cons_of_mem _ mem)
    have reaches := stands.reaches_iff (regular r List.mem_cons_self)
    unfold State.reaching
    rw [rest, if_congr reaches rfl rfl, List.filter_cons]
    simp only [decide_eq_true_eq]

end Stands

end StorageMetrics.Logging
