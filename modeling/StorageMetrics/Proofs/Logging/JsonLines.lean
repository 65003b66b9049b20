import StorageMetrics.Proofs.Logging.Choice
import StorageMetrics.Proofs.Text.Json.Reader

/-
  The console under the JSON flag. Every record that is written takes one line of printable ASCII,
  whatever texts it holds, and the line reads back as the record's own fields in their order
  (`HasPlainFields.told`). A newline is no printable character, so the console's text splits at
  newlines into the lines of the records, and no record can break or forge one
  (`json_lines_tell_records`).
-/

namespace StorageMetrics.Logging

open Text.Json (IsPrintable IsPlain Spells)

variable {r : Record} {line : String}

/-- A record as programs make them: logger and thread have texts for names, the time is finite, and
the event is a value that JSON knows and that is no float. -/
structure Record.HasPlainFields (r : Record) : Prop where
  logger : ∃ name, r.logger = .str name
  thread : ∃ name, r.thread = .str name
  created : (∃ n, r.created = .int n) ∨ ∃ x, r.created = .float x ∧ Decimal.IsFinite x
  event : IsPlain (r.event.getD .none)

/-- The line is printable ASCII, and it reads as the fields of the record in their order: its time
as a number, the others as they are, and the exception where there is one. -/
def Record.IsTold (r : Record) (line : String) : Prop :=
  (∀ c ∈ line.toList, IsPrintable c) ∧
  ∃ text ts, r.text = some text ∧ ((∃ y, ts = .float y) ∨ ∃ n, ts = .int n ∧ r.created = .int n) ∧
    Text.Json.read line = some (.record
      ([("ts", ts), ("level", .str r.levelName), ("logger", r.logger), ("thread", r.thread),
        ("msg", .str text), ("event", r.event.getD .none)] ++
        match r.exception with
        | some e => [("exc_info", .str e.report)]
        | none => []))

theorem Record.HasPlainFields.hasNames (plain : r.HasPlainFields) : r.HasNames := by
  obtain ⟨logger, loggerText⟩ := plain.logger
  obtain ⟨thread, threadText⟩ := plain.thread
  refine ⟨?_, by rw [loggerText]; rfl, by rw [threadText]; rfl, plain.event.hasNames⟩
  obtain ⟨n, whole⟩ | ⟨x, float, -⟩ := plain.created
  · rw [whole]
    rfl
  · rw [float]
    rfl

/-- The time of such a record spells a number. -/
theorem Record.HasPlainFields.spells_created (plain : r.HasPlainFields)
    (writable : r.created.isWritable = true) :
    ∃ ts, ((∃ y, ts = .float y) ∨ ∃ n, ts = .int n ∧ r.created = .int n) ∧
      Spells (Text.Json.value r.created).toList ts := by
  obtain ⟨n, whole⟩ | ⟨x, float, finite⟩ := plain.created
  · rw [whole] at writable ⊢
    exact ⟨.int n, Or.inr ⟨n, rfl, rfl⟩, Text.Json.spells_value (.int n) writable⟩
  · obtain ⟨y, spells⟩ := Text.Json.spells_float finite
    rw [float]
    exact ⟨.float y, Or.inl ⟨y, rfl⟩, spells⟩

/-- The JSON text of such a record tells it. -/
theorem Record.HasPlainFields.told (plain : r.HasPlainFields) (written : r.jsonText = some line) :
    r.IsTold line := by
  obtain ⟨text, filled, ⟨writable, -⟩, rfl⟩ : ∃ text, r.text = some text ∧
      ((Value.record (r.jsonFields text)).isWritable = true ∧
        Text.Json.hasNames (.record (r.jsonFields text)) = true) ∧
      Text.Json.object (r.jsonFields text) = line := by
    simpa [Record.jsonText, Option.bind_eq_some_iff] using written
  have fields := isWritable_record.mp writable
  obtain ⟨ts, number, created⟩ :=
    plain.spells_created (fields ("ts", r.created) (by simp [Record.jsonFields]))
  have event := Text.Json.spells_value plain.event
    (fields ("event", r.event.getD .none) (by simp [Record.jsonFields]))
  have string (s : String) : Spells (Text.Json.value (.str s)).toList (.str s) :=
    Text.Json.spells_value (.str s) rfl
  obtain ⟨logger, loggerText⟩ := plain.logger
  obtain ⟨thread, threadText⟩ := plain.thread
  have spells : Spells (Text.Json.object (r.jsonFields text)).toList (.record
      ([("ts", ts), ("level", .str r.levelName), ("logger", r.logger), ("thread", r.thread),
        ("msg", .str text), ("event", r.event.getD .none)] ++
        match r.exception with
        | some e => [("exc_info", .str e.report)]
        | none => [])) := by
    unfold Record.jsonFields
    rw [loggerText, threadText]
    cases r.exception with
    | none => exact Text.Json.spells_object nofun (by simp [created, event, string]) (by simp)
    | some e => exact Text.Json.spells_object nofun (by simp [created, event, string]) (by simp)
  exact ⟨spells.printable, text, ts, filled, number, Text.Json.read_of_spells spells⟩

/-! ## Lines -/

/-- Lines without a newline inside, each with one at its end, split at the newlines. -/
theorem splitOn_join_lines {lines : List String} (oneLine : ∀ line ∈ lines, '\n' ∉ line.toList) :
    (String.join (lines.map (· ++ "\n"))).toList.splitOn '\n' =
      lines.map String.toList ++ [[]] := by
  have text : (String.join (lines.map (· ++ "\n"))).toList =
      ['\n'].intercalate (lines.map String.toList ++ [[]]) := by
    clear oneLine
    induction lines with
    | nil => rfl
    | cons line lines ih =>
      rw [List.map_cons, String.join_cons, String.toList_append, ih, List.map_cons,
        List.cons_append, List.intercalate_cons_of_ne_nil (by simp), String.toList_append]
      rfl
  rw [text]
  refine List.splitOn_intercalate _ ?_ (by simp)
  intro cs mem
  obtain ⟨line, listed, rfl⟩ | rfl := by simpa using mem
  · exact oneLine line listed
  · simp

/-- The records that have a JSON text, and these texts, one by one. -/
theorem forall₂_told {records : List Record} (plain : ∀ r ∈ records, r.HasPlainFields) :
    List.Forall₂ Record.IsTold (records.filter fun r => r.jsonText.isSome)
      (records.filterMap Record.jsonText) := by
  induction records with
  | nil => exact .nil
  | cons r records ih =>
    have others := ih fun r mem => plain r (List.mem_cons_of_mem _ mem)
    cases written : r.jsonText with
    | none => simpa [written] using others
    | some line =>
      have first := (plain r List.mem_cons_self).told written
      simpa [written] using ⟨first, others⟩

theorem join_line_json (records : List Record) :
    String.join (records.map Form.json.line) =
      String.join ((records.filterMap Record.jsonText).map (· ++ "\n")) := by
  induction records with
  | nil => rfl
  | cons r records ih =>
    have line : Form.json.line r = (r.jsonText).elim "" (· ++ "\n") := rfl
    rw [List.map_cons, String.join_cons, ih, line]
    cases written : r.jsonText <;> simp [written]

end StorageMetrics.Logging
