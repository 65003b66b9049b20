import Mathlib.Data.List.Forall2
import StorageMetrics.Settings.Load

/-
  Settings from variables. A variable whose value does not read or is out of range is refused, and
  each setting is decided by its own variable alone. What the variables give, defaults in the place
  of refused values, always passes the check of the settings, so that without strictness loading
  goes through and warns of each refused variable once. Strictness changes nothing but that the
  first refused variable is an error (`Settings.strictness_refuses_first`).
-/

namespace StorageMetrics

/-! ## Getters depend on their own variable -/

namespace Environment

variable {env other : Environment} {name : String}

theorem number_congr (same : other.get? name = env.get? name) (fallback : α)
    (read : String → Except NumberError α) :
    other.number name fallback read = env.number name fallback read := by
  rw [number, number, same]

theorem text_congr (same : other.get? name = env.get? name) (fallback : α) (read : String → α) :
    other.text name fallback read = env.text name fallback read := by
  rw [text, text, same]

end Environment

/-! ## What is in range passes the check -/

theorem Number.not_int_lt_one {n : Int} (enough : 1 ≤ n) : ¬ Number.int n < .int 1 := by
  intro below
  have units : (0 : Int) < Magnitude.one := by decide +kernel
  have ordered : Magnitude.one ≤ n * Magnitude.one := by
    simpa using Int.mul_le_mul_of_nonneg_right enough (Int.le_of_lt units)
  have reversed : Magnitude.lt (.finite (n * Magnitude.one)) (.finite (1 * Magnitude.one)) = true :=
    below
  simp [Magnitude.lt, Magnitude.le, ordered] at reversed

/-- What is above another number is not at most that number. -/
theorem Number.not_le_of_lt {a b : Number} (above : a < b) : ¬ b ≤ a := by
  intro below
  have strict : (a.magnitude.le b.magnitude && !b.magnitude.le a.magnitude) = true := above
  have reversed : b.magnitude.le a.magnitude = true := below
  simp [reversed] at strict

/-- The refusal tells which variable it is about. -/
def SettingError.Names (e : SettingError) (variableName : String) : Prop :=
  (∃ reason, e = .unreadable variableName reason) ∨ ∃ value, e = .invalid variableName value

theorem SettingError.Names.message {e : SettingError} {variableName : String}
    (names : e.Names variableName) : ∃ text, e.message = some (variableName ++ ": " ++ text) := by
  obtain ⟨reason, rfl⟩ | ⟨value, rfl⟩ := names
  · exact ⟨reason.message.getD "", rfl⟩
  · refine ⟨"invalid value " ++ value.shown, congrArg some ?_⟩
    have word : ": invalid value " = ": " ++ "invalid value " := by decide
    simp only [word, String.append_assoc]

/-- The report warns of the value of a variable. -/
def JournalEntry.WarnsOf (e : JournalEntry) (variableName : String) : Prop :=
  e.severity = .warning ∧ e.reporter = .settings ∧
    ∃ rest, e.text = "config.invalid_value name=" ++ variableName ++ rest

namespace Settings

/-- Values that are each in range make settings. -/
theorem ofValues_of_inRange {levels : Int} {name : String} {seconds : Float}
    (enough : isLevelCount levels = true) (named : isExportName name = true)
    (lasting : isWindow seconds = true) (strict : Value) :
    ofValues (.int levels) (.str name) (.float seconds) strict =
      .ok ⟨.int levels, name, .float seconds, strict⟩ := by
  have notBelow : ¬ Number.int levels < .int 1 :=
    Number.not_int_lt_one (of_decide_eq_true enough)
  have notAtMost : ¬ Number.float seconds ≤ .int 0 :=
    Number.not_le_of_lt (of_decide_eq_true lasting)
  simp only [ofValues, Value.number?, Value.text?, if_neg notBelow, named, Bool.not_true,
    if_neg notAtMost, Bool.false_eq_true, if_false]

theorem defaultMaxLevels_isLevelCount : isLevelCount defaultMaxLevels = true := by decide

theorem defaultExportName_isExportName : isExportName defaultExportName = true := by decide +kernel

theorem defaultWindowSeconds_isWindow : isWindow defaultWindowSeconds = true := by decide +kernel

/-! ## One variable by itself -/

/-- The getter failed, or gave what is out of range. -/
def isRefused (inRange : α → Bool) : Except NumberError α → Bool
  | .ok v => !inRange v
  | .error _ => true

/-- What the getter gave, if it is in range, and the default otherwise. -/
def chosen (fallback : α) (inRange : α → Bool) : Except NumberError α → α
  | .ok v => if inRange v then v else fallback
  | .error _ => fallback

theorem chosen_inRange {fallback : α} {inRange : α → Bool} (usual : inRange fallback = true)
    (given : Except NumberError α) : inRange (chosen fallback inRange given) = true := by
  unfold chosen
  split
  · split
    case isTrue inside => exact inside
    case isFalse => exact usual
  · exact usual

/-- A variable is rejected when its getter gave nothing in range. The rejection names it. -/
theorem Reading.rejections_ofResult (name : String) (fallback : Value) (toValue : α → Value)
    (inRange : α → Bool) (given : Except NumberError α) :
    (isRefused inRange given = false ∧
      (Reading.ofResult name fallback toValue inRange given).rejections = []) ∨
    ∃ r : Rejection, isRefused inRange given = true ∧ r.variableName = name ∧ r.reason.Names name ∧
      (Reading.ofResult name fallback toValue inRange given).rejections = [r] := by
  unfold Reading.ofResult isRefused
  cases given with
  | error e => exact Or.inr ⟨_, rfl, rfl, Or.inl ⟨e, rfl⟩, rfl⟩
  | ok v =>
    dsimp only
    cases inRange v with
    | true => exact Or.inl ⟨rfl, rfl⟩
    | false => exact Or.inr ⟨_, rfl, rfl, Or.inr ⟨toValue v, rfl⟩, rfl⟩

theorem Reading.getD_ofResult (name : String) (fallback : Value) (toValue : α → Value)
    (inRange : α → Bool) (given : Except NumberError α) (usual : α) :
    (Reading.ofResult name fallback toValue inRange given).toOption.getD usual =
      chosen usual inRange given := by
  unfold Reading.ofResult chosen
  cases given with
  | error e => rfl
  | ok v =>
    dsimp only
    cases inRange v <;> rfl

/-! ## All of them -/

/-- The refused variables, in the order in which they are read. -/
def refusedVariables (env : Environment) : List String :=
  [(maxLevelsVariable, isRefused isLevelCount (givenMaxLevels env)),
    (exportNameVariable, isRefused isExportName (givenExportName env)),
    (windowVariable, isRefused isWindow (givenWindow env))].filterMap fun v =>
      if v.2 then some v.1 else none

/-- There is one rejection for each refused variable, in order, and it names the variable. -/
theorem rejections_refused (env : Environment) :
    List.Forall₂ (fun (r : Rejection) name => r.variableName = name ∧ r.reason.Names name)
      (rejections env) (refusedVariables env) := by
  have one {refused : Bool} {rs : List Rejection} {name : String}
      (decided : (refused = false ∧ rs = []) ∨ ∃ r : Rejection, refused = true ∧
        r.variableName = name ∧ r.reason.Names name ∧ rs = [r]) :
      List.Forall₂ (fun (r : Rejection) name => r.variableName = name ∧ r.reason.Names name)
        rs (if refused then some name else none).toList := by
    obtain ⟨rfl, rfl⟩ | ⟨r, rfl, same, names, rfl⟩ := decided
    · exact .nil
    · exact .cons ⟨same, names⟩ .nil
  have split : refusedVariables env =
      (if isRefused isLevelCount (givenMaxLevels env) then some maxLevelsVariable
        else none).toList ++
      (if isRefused isExportName (givenExportName env) then some exportNameVariable
        else none).toList ++
      (if isRefused isWindow (givenWindow env) then some windowVariable else none).toList := by
    unfold refusedVariables
    cases isRefused isLevelCount (givenMaxLevels env) <;>
      cases isRefused isExportName (givenExportName env) <;>
        cases isRefused isWindow (givenWindow env) <;> rfl
  rw [split]
  exact List.rel_append (List.rel_append (one (Reading.rejections_ofResult _ _ _ _ _))
    (one (Reading.rejections_ofResult _ _ _ _ _))) (one (Reading.rejections_ofResult _ _ _ _ _))

/-- Whatever the variables hold, what they give with defaults for refused ones makes settings. -/
theorem ofReadings_eq (env : Environment) (strict : Bool) :
    ofReadings env strict = .ok
      { maxLevels := .int (chosen defaultMaxLevels isLevelCount (givenMaxLevels env))
        exportName := chosen defaultExportName isExportName (givenExportName env)
        windowSeconds := .float (chosen defaultWindowSeconds isWindow (givenWindow env))
        strict := .bool strict } := by
  rw [ofReadings, readMaxLevels, readExportName, readWindow, Reading.getD_ofResult,
    Reading.getD_ofResult, Reading.getD_ofResult]
  exact ofValues_of_inRange (chosen_inRange defaultMaxLevels_isLevelCount _)
    (chosen_inRange defaultExportName_isExportName _)
    (chosen_inRange defaultWindowSeconds_isWindow _) _

/-- Nothing but the own variable of a setting matters for what its getter gives. -/
theorem givenMaxLevels_congr {env other : Environment}
    (same : other.get? maxLevelsVariable = env.get? maxLevelsVariable) :
    givenMaxLevels other = givenMaxLevels env := Environment.number_congr same _ _

theorem givenExportName_congr {env other : Environment}
    (same : other.get? exportNameVariable = env.get? exportNameVariable) :
    givenExportName other = givenExportName env := congrArg Except.ok (Environment.text_congr same _ _)

theorem givenWindow_congr {env other : Environment}
    (same : other.get? windowVariable = env.get? windowVariable) :
    givenWindow other = givenWindow env := Environment.number_congr same _ _

/-- The variables that settings come from. Strictness is none of them. -/
def ownVariables : List String := [maxLevelsVariable, exportNameVariable, windowVariable]

theorem refusedVariables_congr {env other : Environment}
    (same : ∀ name ∈ ownVariables, other.get? name = env.get? name) :
    refusedVariables other = refusedVariables env := by
  rw [refusedVariables, refusedVariables, givenMaxLevels_congr (same _ (by simp [ownVariables])),
    givenExportName_congr (same _ (by simp [ownVariables])),
    givenWindow_congr (same _ (by simp [ownVariables]))]

/-! ## Runs -/

/-- One run of loading: the environment that it starts from, the files there are, and the path of the
env file. -/
structure Loading where
  start : Environment
  files : Files
  path : Value

namespace Loading

def prepared (l : Loading) : Prepared := prepare l.start l.files l.path

def loaded (l : Loading) : Loaded := load l.start l.files l.path

/-- When its variables are read, they stand as in this environment, and strictness is on or off. -/
structure Reads (l : Loading) (env : Environment) (strict : Bool) : Prop where
  went : l.prepared.outcome = .ok ()
  same : ∀ name ∈ ownVariables, l.prepared.environment.get? name = env.get? name
  strict_eq : l.prepared.environment.isOn strictVariable "" = strict

end Loading

/-- The warnings among the reports. -/
def warnings (journal : Journal) : Journal := journal.filter fun e => e.severity = .warning

theorem warnsOf_entry (r : Rejection) : r.entry.WarnsOf r.variableName :=
  ⟨rfl, rfl, _, rfl⟩

/-- An env file warns of nothing. -/
theorem warnings_prepare (env : Environment) (files : Files) (path : Value) :
    warnings (prepare env files path).journal = [] := by
  unfold prepare
  split
  · rfl
  · split
    · rfl
    · dsimp only
      split <;> rfl

theorem warnings_map_entry (rs : List Rejection) :
    warnings (rs.map Rejection.entry) = rs.map Rejection.entry := by
  refine List.filter_eq_self.mpr fun e mem => ?_
  obtain ⟨r, -, rfl⟩ := List.mem_map.mp mem
  rfl

variable {env : Environment} {l : Loading}

/-- Loading is reading, once the file went through. -/
theorem Loading.loaded_eq (went : l.prepared.outcome = .ok ()) :
    l.loaded = ⟨(read l.prepared.environment).1.mapError .setting, l.prepared.environment,
      l.prepared.journal ++ (read l.prepared.environment).2⟩ := by
  have through : (prepare l.start l.files l.path).outcome = .ok () := went
  unfold Loading.loaded load
  dsimp only
  rw [through]
  rfl

theorem Loading.Reads.refusedVariables_eq {strict : Bool} (reads : l.Reads env strict) :
    refusedVariables l.prepared.environment = refusedVariables env :=
  refusedVariables_congr reads.same

/-- What reading gives where no refused variable is an error. -/
theorem read_accepting {env : Environment} {strict : Bool}
    (same : env.isOn strictVariable "" = strict) (accepts : strict = false ∨ rejections env = []) :
    ∃ s, ofReadings env strict = .ok s ∧
      read env = (.ok s, (rejections env).map Rejection.entry ++ [loadedEntry s]) := by
  have made := ofReadings_eq env strict
  refine ⟨_, made, ?_⟩
  unfold read
  dsimp only
  rw [same, made]
  obtain rfl | none := accepts
  · rfl
  · rw [none]
    cases strict <;> rfl

/-- Under strictness the first rejection is an error. -/
theorem read_refusing {env : Environment} (on : env.isOn strictVariable "" = true) {r : Rejection}
    {rest : List Rejection} (rejected : rejections env = r :: rest) :
    read env = (.error r.reason, []) := by
  unfold read
  dsimp only
  rw [on, rejected]

/-- Without strictness loading goes through, and there is one warning for each refused variable. -/
theorem Loading.Reads.lenient (reads : l.Reads env false) :
    ∃ s, l.loaded.outcome = .ok s ∧ ofReadings l.prepared.environment false = .ok s ∧
      List.Forall₂ JournalEntry.WarnsOf (warnings l.loaded.journal) (refusedVariables env) := by
  obtain ⟨s, made, ran⟩ := read_accepting reads.strict_eq (Or.inl rfl)
  refine ⟨s, ?_, made, ?_⟩
  · rw [Loading.loaded_eq reads.went, ran]
    rfl
  · have warned : warnings l.loaded.journal =
        (rejections l.prepared.environment).map Rejection.entry := by
      have prelude_ : warnings l.prepared.journal = [] := warnings_prepare _ _ _
      rw [Loading.loaded_eq reads.went, ran]
      dsimp only
      rw [warnings, List.filter_append, List.filter_append]
      show warnings _ ++ (warnings _ ++ _) = _
      rw [prelude_, warnings_map_entry]
      exact List.append_nil _
    rw [warned, List.forall₂_map_left_iff, ← reads.refusedVariables_eq]
    refine (rejections_refused _).imp fun r name named => ?_
    rw [← named.1]
    exact warnsOf_entry r

/-- Under strictness loading goes through where no variable is refused. -/
theorem Loading.Reads.strict_accepts (reads : l.Reads env true)
    (accepted : refusedVariables env = []) :
    ∃ s, l.loaded.outcome = .ok s ∧ ofReadings l.prepared.environment true = .ok s := by
  have none : rejections l.prepared.environment = [] := by
    have paired := rejections_refused l.prepared.environment
    rw [reads.refusedVariables_eq, accepted] at paired
    exact List.forall₂_nil_right_iff.mp paired
  obtain ⟨s, made, ran⟩ := read_accepting reads.strict_eq (Or.inr none)
  refine ⟨s, ?_, made⟩
  rw [Loading.loaded_eq reads.went, ran]
  rfl

/-- Under strictness the first refused variable is an error. -/
theorem Loading.Reads.strict_refuses (reads : l.Reads env true) {first : String}
    {rest : List String} (refused : refusedVariables env = first :: rest) :
    ∃ e, l.loaded.outcome = .error (.setting e) ∧ e.Names first := by
  have paired := rejections_refused l.prepared.environment
  rw [reads.refusedVariables_eq, refused] at paired
  obtain ⟨r, rs, named, -, rejected⟩ := List.forall₂_cons_right_iff.mp paired
  refine ⟨r.reason, ?_, named.2⟩
  rw [Loading.loaded_eq reads.went, read_refusing reads.strict_eq rejected]
  rfl

/-- Without strictness loading goes through, whatever the variables hold. Each setting is what its
own variable gives, or the default where that is refused, and there is one warning for each refused
variable. Under strictness loading goes through just when there are no such warnings, with the same
settings, and else the first refused variable is an error. -/
theorem strictness_refuses_first (env : Environment) (lenient strict : Loading)
    (off : lenient.Reads env false) (on : strict.Reads env true) :
    ∃ s, lenient.loaded.outcome = .ok s ∧
      (∀ other : Environment, other.get? maxLevelsVariable = env.get? maxLevelsVariable →
        s.maxLevels = .int (chosen defaultMaxLevels isLevelCount (givenMaxLevels other))) ∧
      (∀ other : Environment, other.get? exportNameVariable = env.get? exportNameVariable →
        s.exportName = chosen defaultExportName isExportName (givenExportName other)) ∧
      (∀ other : Environment, other.get? windowVariable = env.get? windowVariable →
        s.windowSeconds = .float (chosen defaultWindowSeconds isWindow (givenWindow other))) ∧
      List.Forall₂ JournalEntry.WarnsOf (warnings lenient.loaded.journal) (refusedVariables env) ∧
      ((∃ s', strict.loaded.outcome = .ok s') ↔ warnings lenient.loaded.journal = []) ∧
      (∀ s', strict.loaded.outcome = .ok s' → s'.maxLevels = s.maxLevels ∧
        s'.exportName = s.exportName ∧ s'.windowSeconds = s.windowSeconds) ∧
      ∀ first rest, refusedVariables env = first :: rest →
        ∃ e text, strict.loaded.outcome = .error (.setting e) ∧ e.Names first ∧
          e.message = some (first ++ ": " ++ text) := by
  obtain ⟨s, went, made, warned⟩ := off.lenient
  obtain rfl := Except.ok.inj ((ofReadings_eq _ _).symm.trans made)
  have silent : warnings lenient.loaded.journal = [] ↔ refusedVariables env = [] := by
    constructor
    · intro none
      rw [none] at warned
      exact List.forall₂_nil_left_iff.mp warned
    · intro none
      rw [none] at warned
      exact List.forall₂_nil_right_iff.mp warned
  refine ⟨_, went, ?_, ?_, ?_, warned, ?_, ?_, ?_⟩
  · intro other same
    rw [givenMaxLevels_congr (same.trans (off.same _ (by simp [ownVariables])).symm)]
  · intro other same
    rw [givenExportName_congr (same.trans (off.same _ (by simp [ownVariables])).symm)]
  · intro other same
    rw [givenWindow_congr (same.trans (off.same _ (by simp [ownVariables])).symm)]
  · rw [silent]
    constructor
    · rintro ⟨s', through⟩
      cases refused : refusedVariables env with
      | nil => rfl
      | cons first rest =>
        obtain ⟨e, failed, -⟩ := on.strict_refuses refused
        cases through.symm.trans failed
    · intro accepted
      obtain ⟨s', through, -⟩ := on.strict_accepts accepted
      exact ⟨s', through⟩
  · intro s' through
    cases refused : refusedVariables env with
    | cons first rest =>
      obtain ⟨e, failed, -⟩ := on.strict_refuses refused
      cases through.symm.trans failed
    | nil =>
      obtain ⟨s'', again, made'⟩ := on.strict_accepts refused
      obtain rfl := Except.ok.inj (through.symm.trans again)
      obtain rfl := Except.ok.inj ((ofReadings_eq _ _).symm.trans made')
      have alike {name : String} (own : name ∈ ownVariables) :
          strict.prepared.environment.get? name = lenient.prepared.environment.get? name :=
        (on.same name own).trans (off.same name own).symm
      dsimp only
      rw [givenMaxLevels_congr (alike (by simp [ownVariables])),
        givenExportName_congr (alike (by simp [ownVariables])),
        givenWindow_congr (alike (by simp [ownVariables]))]
      exact ⟨rfl, rfl, rfl⟩
  · intro first rest refused
    obtain ⟨e, failed, names⟩ := on.strict_refuses refused
    obtain ⟨text, message⟩ := names.message
    exact ⟨e, text, failed, names, message⟩

/-- Three variables that cannot be used. -/
def unusable : Environment :=
  .ofList [(maxLevelsVariable, "0"), (exportNameVariable, "9lives"), (windowVariable, "nan")]

/-- A run without an env file, with strictness set to this text. -/
def Loading.under (env : Environment) (strictness : String) : Loading :=
  ⟨env.insert strictVariable strictness, {}, .none⟩

theorem Loading.under_reads (env : Environment) {strictness : String} {strict : Bool}
    (on : Text.isFlagOn strictness = strict) : (Loading.under env strictness).Reads env strict where
  went := rfl
  same name own := by
    have different : strictVariable ≠ name := by
      rintro rfl
      exact absurd own (by decide +kernel)
    exact (env.get?_insert strictVariable name strictness).trans (if_neg different)
  strict_eq := by
    have found := env.get?_insert strictVariable strictVariable strictness
    rw [if_pos rfl] at found
    show Text.isFlagOn (((env.insert strictVariable strictness).get? strictVariable).getD "") =
      strict
    rw [found]
    exact on

theorem strictness_refuses_first_unusable :
    (Loading.under unusable "no").Reads unusable false ∧
      (Loading.under unusable " Yes").Reads unusable true ∧
      ∃ s e text, (Loading.under unusable "no").loaded.outcome = .ok s ∧
        (Loading.under unusable " Yes").loaded.outcome = .error (.setting e) ∧
        e.Names maxLevelsVariable ∧ e.message = some (maxLevelsVariable ++ ": " ++ text) := by
  have off : (Loading.under unusable "no").Reads unusable false :=
    Loading.under_reads _ (by decide +kernel)
  have on : (Loading.under unusable " Yes").Reads unusable true :=
    Loading.under_reads _ (by decide +kernel)
  obtain ⟨s, went, -, -, -, -, -, -, refuses⟩ := strictness_refuses_first _ _ _ off on
  have refused : refusedVariables unusable = ownVariables := by decide +kernel
  obtain ⟨e, text, failed, names, message⟩ := refuses _ _ refused
  exact ⟨off, on, s, e, text, went, failed, names, message⟩

end Settings

end StorageMetrics
