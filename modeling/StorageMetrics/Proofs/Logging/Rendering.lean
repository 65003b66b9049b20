import StorageMetrics.Logging.Setup

/-
  Which records have a line. The patterns that logging brings along name fields that every record
  has and write them as they are, so a record has a line in one of them as soon as its message can
  be filled and, where the pattern shows the time, its time has a date (`patternText_isSome_iff`).
  The JSON form asks for the message and for keys that can be names (`jsonText_isSome_iff`). Else an
  integer that is too long to write out is the one thing that keeps another field back. What is added
  to a record takes the place of none of its own fields (`lookup_fields`).
-/

namespace StorageMetrics.Logging

/-! ## Patterns of plain fields -/

namespace Pattern

/-- The conversion that writes a field as it is. -/
def plainField (key : String) : Conversion := ⟨some key, [], .none, .none, 's'⟩

theorem fill_plainField {v : Value} (writable : v.isWritable = true) (key : String) :
    fill (plainField key) 0 none v = some v.plain.toList := by
  have text : fill (plainField key) 0 none v = if v.isWritable then
      some (pad (plainField key) 0 false [] (textBody none v.plain)) else none := rfl
  rw [text, if_pos writable]
  simp [plainField, pad, textBody]

/-- A character, or a field that is there, written as it is. -/
def IsPlain (field : String → Option Value) : Piece → Prop
  | .text _ => True
  | .conversion c => ∃ key v, c = plainField key ∧ field key = some v ∧ v.isWritable = true

/-- Pieces of plain fields can be filled. -/
theorem fillPieces_isSome {field : String → Option Value} {pieces : List Piece}
    (plain : ∀ piece ∈ pieces, IsPlain field piece) (args : List Value) :
    (fillPieces field pieces args).isSome := by
  induction pieces generalizing args with
  | nil => rfl
  | cons piece pieces ih =>
    have rest := ih fun piece mem => plain piece (List.mem_cons_of_mem _ mem)
    cases piece with
    | text c => simpa [fillPieces] using rest args
    | conversion c =>
      obtain ⟨key, v, rfl, found, writable⟩ := plain _ List.mem_cons_self
      obtain ⟨others, filled⟩ := Option.isSome_iff_exists.mp (rest [])
      have here := fill_plainField writable key
      simp only [plainField] at here
      simp [fillPieces, plainField, found, resolveExtent, isSpelledOut, leftward, here, filled]

/-- The pieces of plain fields with a text between them. -/
def fieldsBetween (between : String) (keys : List String) : List Piece :=
  (between.toList.map Piece.text).intercalate (keys.map fun key => [.conversion (plainField key)])

theorem isPlain_of_mem_fieldsBetween {field : String → Option Value} {keys : List String}
    (known : ∀ key ∈ keys, ∃ v, field key = some v ∧ v.isWritable = true) {between : String} :
    ∀ piece ∈ fieldsBetween between keys, IsPlain field piece := by
  induction keys with
  | nil => simp [fieldsBetween]
  | cons key keys ih =>
    obtain ⟨v, found, writable⟩ := known key List.mem_cons_self
    have first : IsPlain field (.conversion (plainField key)) := ⟨key, v, rfl, found, writable⟩
    have others := ih fun key mem => known key (List.mem_cons_of_mem _ mem)
    cases keys with
    | nil => simpa [fieldsBetween] using first
    | cons next keys =>
      intro piece mem
      rw [fieldsBetween, List.map_cons, List.intercalate_cons_of_ne_nil (by simp)] at mem
      simp only [List.mem_append, List.mem_singleton, List.mem_map] at mem
      obtain (rfl | ⟨c, -, rfl⟩) | later := mem
      · exact first
      · trivial
      · exact others piece later

/-- The keys of the fields that every record has and shows as they are. -/
def plainKeys : List String := ["levelname", "name", "threadName", "message"]

/-- The patterns that logging brings along. -/
def standard : List String := [barePattern, shortPattern, fullPattern]

/-- They are made of plain fields, and the full one alone shows the time. -/
theorem pieces_of_standard {pattern : String} (mem : pattern ∈ standard) :
    (mentionsTime pattern.toList = true ↔ pattern = fullPattern) ∧
    ∃ pieces, parse pattern = some pieces ∧ ∀ field : String → Option Value,
      (∀ key ∈ plainKeys, ∃ v, field key = some v ∧ v.isWritable = true) →
      (pattern = fullPattern → ∃ v, field "asctime" = some v ∧ v.isWritable = true) →
      ∀ piece ∈ pieces, IsPlain field piece := by
  simp only [standard, List.mem_cons, List.not_mem_nil, or_false] at mem
  obtain rfl | rfl | rfl := mem
  · refine ⟨iff_of_false (by decide) (by decide), fieldsBetween "" ["message"], rfl, ?_⟩
    intro field known _
    have listed : ∀ key ∈ ["message"], key ∈ plainKeys := by decide
    exact isPlain_of_mem_fieldsBetween fun key mem => known key (listed key mem)
  · refine ⟨iff_of_false (by decide) (by decide), fieldsBetween " " ["levelname", "name"] ++
      ([.text ':', .text ' '] ++ fieldsBetween "" ["message"]), rfl, ?_⟩
    intro field known _ piece mem
    have listed : ∀ key ∈ ["levelname", "name", "message"], key ∈ plainKeys := by decide
    obtain first | colon | last := by simpa only [List.mem_append] using mem
    · refine isPlain_of_mem_fieldsBetween (fun key mem => known key (listed key ?_)) piece first
      exact List.mem_append_left ["message"] mem
    · obtain rfl | rfl := by simpa using colon
      all_goals trivial
    · refine isPlain_of_mem_fieldsBetween (fun key mem => known key (listed key ?_)) piece last
      exact List.mem_append_right ["levelname", "name"] mem
  · refine ⟨iff_of_true (by decide) rfl,
      fieldsBetween " - " ["asctime", "threadName", "name", "levelname", "message"], rfl, ?_⟩
    intro field known timed
    have listed : ∀ key ∈ ["threadName", "name", "levelname", "message"], key ∈ plainKeys := by
      decide
    refine isPlain_of_mem_fieldsBetween fun key mem => ?_
    obtain rfl | other := List.mem_cons.mp mem
    · exact timed rfl
    · exact known key (listed key other)

end Pattern

/-! ## The fields of a record -/

variable {r : Record} {s text : String} {time : Option String}

/-- Nothing is added under a name that is taken. -/
theorem Added.lookup_of_taken (a : Added) {name : String} (taken : name ∈ takenNames) :
    a.entries.lookup name = none := by
  rw [List.lookup_eq_none_iff]
  intro e mem
  rw [bne_iff_ne]
  rintro rfl
  exact a.free e mem taken

/-- The fields that every record has are found under their names, whatever is added to it. -/
theorem Record.lookup_fields (r : Record) (text : String) (time : Option String) :
    (r.fields text time).lookup "levelname" = some (.str r.levelName) ∧
    (r.fields text time).lookup "name" = some r.logger ∧
    (r.fields text time).lookup "threadName" = some r.thread ∧
    (r.fields text time).lookup "message" = some (.str text) ∧
    (r.fields text time).lookup "asctime" = time.map Value.str := by
  have message := r.added.lookup_of_taken (show "message" ∈ takenNames by decide)
  have asctime := r.added.lookup_of_taken (show "asctime" ∈ takenNames by decide)
  unfold Record.fields
  cases time <;> simp [List.lookup_append, List.lookup_cons, message, asctime]

/-- A pattern that is filled wherever message and time are there has a text for these records. -/
theorem Record.patternText_isSome_of_fills {pattern : String}
    (fills : ∀ text time, (mentionsTime pattern.toList = true → time ≠ none) →
      ((Pattern.parse pattern).bind (Pattern.fillFields (r.fields text time))).isSome) :
    (r.patternText pattern).isSome ↔
      r.text.isSome ∧ (mentionsTime pattern.toList = true → r.timeText.isSome) := by
  unfold Record.patternText
  cases r.text with
  | none => simp
  | some text =>
    by_cases timed : mentionsTime pattern.toList = true
    · cases shown : r.timeText with
      | none => simp [timed]
      | some time =>
        obtain ⟨body, filled⟩ := Option.isSome_iff_exists.mp (fills text (some time) fun _ => nofun)
        simp [timed, filled]
    · obtain ⟨body, filled⟩ := Option.isSome_iff_exists.mp (fills text none fun h => absurd h timed)
      simp [timed, filled]

/-- The integers in the fields besides the message can be written out. -/
structure Record.HasWritableFields (r : Record) : Prop where
  logger : r.logger.isWritable = true
  thread : r.thread.isWritable = true
  created : r.created.isWritable = true
  event : (r.event.getD .none).isWritable = true

/-- All keys in the fields besides the message can be names. -/
structure Record.HasNames (r : Record) : Prop where
  created : Text.Json.hasNames r.created = true
  logger : Text.Json.hasNames r.logger = true
  thread : Text.Json.hasNames r.thread = true
  event : Text.Json.hasNames (r.event.getD .none) = true

/-- Values by name can be written out where each of them can. -/
theorem isWritable_record {fields : List (String × Value)} :
    (Value.record fields).isWritable = true ↔ ∀ f ∈ fields, f.2.isWritable = true := by
  induction fields with
  | nil => simp [Value.record, Value.isWritable, Value.areEntriesWritable]
  | cons f fields ih =>
    simp only [Value.record, List.map_cons, Value.isWritable, Value.areEntriesWritable,
      Bool.and_eq_true, List.forall_mem_cons, true_and] at ih ⊢
    rw [ih]

theorem hasNames_record {fields : List (String × Value)} :
    Text.Json.hasNames (.record fields) = true ↔ ∀ f ∈ fields, Text.Json.hasNames f.2 = true := by
  induction fields with
  | nil => simp [Value.record, Text.Json.hasNames, Text.Json.membersHaveNames]
  | cons f fields ih =>
    simp only [Value.record, List.map_cons, Text.Json.hasNames, Text.Json.membersHaveNames,
      Text.Json.isName, Bool.and_eq_true, List.forall_mem_cons, true_and] at ih ⊢
    rw [ih]

/-- Texts aside, a JSON object shows four fields of its record. -/
theorem Record.forall_mem_jsonFields {P : Value → Prop} (text : ∀ s, P (.str s)) :
    (∀ f ∈ r.jsonFields s, P f.2) ↔
      P r.created ∧ P r.logger ∧ P r.thread ∧ P (r.event.getD .none) := by
  unfold Record.jsonFields
  cases r.exception <;> simp [text]

namespace Record.HasWritableFields

theorem known (writable : r.HasWritableFields) {key : String} (mem : key ∈ Pattern.plainKeys) :
    ∃ v, (r.fields text time).lookup key = some v ∧ v.isWritable = true := by
  obtain ⟨level, logger, thread, message, -⟩ := r.lookup_fields text time
  simp only [Pattern.plainKeys, List.mem_cons, List.not_mem_nil, or_false] at mem
  obtain rfl | rfl | rfl | rfl := mem
  · exact ⟨_, level, rfl⟩
  · exact ⟨_, logger, writable.logger⟩
  · exact ⟨_, thread, writable.thread⟩
  · exact ⟨_, message, rfl⟩

/-- One of the patterns that logging brings along has a text for every record whose message can be
filled, if the time has a date where it is shown. -/
theorem patternText_isSome_iff (writable : r.HasWritableFields) {pattern : String}
    (standard : pattern ∈ Pattern.standard) :
    (r.patternText pattern).isSome ↔
      r.text.isSome ∧ (pattern = fullPattern → r.timeText.isSome) := by
  obtain ⟨mentions, pieces, parsed, plain⟩ := Pattern.pieces_of_standard standard
  rw [patternText_isSome_of_fills, mentions]
  intro text time timed
  have filled := Pattern.fillPieces_isSome (plain ((r.fields text time).lookup ·)
    (fun key => writable.known) ?_) [.record (r.fields text time)]
  · simpa [parsed, Pattern.fillFields, Pattern.fillNamed] using filled
  · intro full
    obtain ⟨shown, rfl⟩ := Option.ne_none_iff_exists'.mp (timed (mentions.mpr full))
    exact ⟨.str shown, (r.lookup_fields text (some shown)).2.2.2.2, rfl⟩

/-- The JSON form has a text for every record whose message can be filled, if all keys in it are
names. -/
theorem jsonText_isSome_iff (writable : r.HasWritableFields) :
    r.jsonText.isSome ↔ r.text.isSome ∧ r.HasNames := by
  unfold Record.jsonText
  cases r.text with
  | none => simp
  | some text =>
    have fields : (Value.record (r.jsonFields text)).isWritable = true :=
      isWritable_record.mpr ((forall_mem_jsonFields (P := (·.isWritable = true)) fun _ => rfl).mpr
        ⟨writable.created, writable.logger, writable.thread, writable.event⟩)
    have names : Text.Json.hasNames (.record (r.jsonFields text)) = true ↔ r.HasNames :=
      (hasNames_record.trans
        (forall_mem_jsonFields (P := (Text.Json.hasNames · = true)) fun _ => rfl)).trans
        ⟨fun ⟨created, logger, thread, event⟩ => ⟨created, logger, thread, event⟩,
          fun ⟨created, logger, thread, event⟩ => ⟨created, logger, thread, event⟩⟩
    simp [fields, names]

end Record.HasWritableFields

end StorageMetrics.Logging
