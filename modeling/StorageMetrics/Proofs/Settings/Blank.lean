import Mathlib.Data.List.TakeWhile
import StorageMetrics.Proofs.Settings

/-
  A variable that is blank beside one that is not set, in two environments that agree elsewhere.
  Getters of numbers and flags do not tell the two apart. A getter of texts does: it gives the empty
  text for a blank variable, which is no export name. So a run of loading goes the same way in both,
  unless the variable is the export name's. Then the blank one is refused, which strict settings make
  an error, and others report while the default takes its place
  (`blank_counts_as_unset_unless_exportName`).
-/

namespace StorageMetrics

/-! ## Getters -/

theorem Text.strip_of_blank {s : String} (blank : ∀ c ∈ s.toList, isBlank c = true) :
    strip s = "" := by
  rw [strip, dropBlanks, List.dropWhile_eq_nil_iff.mpr blank]
  rfl

namespace Environment

/-- A variable is not set in one environment and blank in the other; all others are the same. -/
structure BlankBeside (name : String) (unset blank : Environment) : Prop where
  absent : unset.get? name = none
  spaces : ∃ s, blank.get? name = some s ∧ ∀ c ∈ s.toList, Text.isBlank c = true
  others : ∀ other, other ≠ name → blank.get? other = unset.get? other

namespace BlankBeside

variable {name : String} {unset blank : Environment}

theorem number_blank (beside : BlankBeside name unset blank) (fallback : α)
    (read : String → Except NumberError α) : blank.number name fallback read = .ok fallback := by
  obtain ⟨s, found, spaces⟩ := beside.spaces
  rw [number, found]
  exact if_pos (Text.strip_of_blank spaces)

theorem number_unset (beside : BlankBeside name unset blank) (fallback : α)
    (read : String → Except NumberError α) : unset.number name fallback read = .ok fallback := by
  rw [number, beside.absent]

/-- No getter of a number tells a blank variable from one that is not set. -/
theorem number_eq (beside : BlankBeside name unset blank) (variableName : String) (fallback : α)
    (read : String → Except NumberError α) :
    blank.number variableName fallback read = unset.number variableName fallback read := by
  by_cases own : variableName = name
  · subst own
    rw [beside.number_blank, beside.number_unset]
  · exact number_congr (beside.others _ own) _ _

theorem text_blank (beside : BlankBeside name unset blank) (fallback : α) (read : String → α) :
    blank.text name fallback read = read "" := by
  obtain ⟨s, found, spaces⟩ := beside.spaces
  rw [text, found]
  exact congrArg read (Text.strip_of_blank spaces)

theorem text_unset (beside : BlankBeside name unset blank) (fallback : α) (read : String → α) :
    unset.text name fallback read = fallback := by
  rw [text, beside.absent]

/-- A blank flag is off, like one that is not set. -/
theorem isOn_eq (beside : BlankBeside name unset blank) (variableName : String) :
    blank.isOn variableName "" = unset.isOn variableName "" := by
  by_cases own : variableName = name
  · subst own
    obtain ⟨s, found, spaces⟩ := beside.spaces
    rw [isOn, isOn, found, beside.absent, Option.getD_some, Option.getD_none, Text.isFlagOn,
      Text.isFlagOn, Text.strip_of_blank spaces]
    rfl
  · rw [isOn, isOn, beside.others _ own]

end BlankBeside

theorem blankBeside_insert {env : Environment} {name text : String} (absent : env.get? name = none)
    (spaces : ∀ c ∈ text.toList, Text.isBlank c = true) :
    BlankBeside name env (env.insert name text) where
  absent := absent
  spaces := ⟨text, (env.get?_insert name name text).trans (if_pos rfl), spaces⟩
  others := fun other different => (env.get?_insert name other text).trans (if_neg different.symm)

end Environment

namespace Settings

open Environment

variable {name : String} {unset blank : Environment}

/-! ## Reading -/

/-- Reading depends on what the getters give, and on nothing else. -/
theorem read_congr {env other : Environment} (levels : givenMaxLevels other = givenMaxLevels env)
    (named : givenExportName other = givenExportName env)
    (window : givenWindow other = givenWindow env)
    (strict : other.isOn strictVariable "" = env.isOn strictVariable "") :
    read other = read env := by
  have readLevels : readMaxLevels other = readMaxLevels env :=
    congrArg (Reading.ofResult _ _ _ _) levels
  have readName : readExportName other = readExportName env :=
    congrArg (Reading.ofResult _ _ _ _) named
  have readSpan : readWindow other = readWindow env := congrArg (Reading.ofResult _ _ _ _) window
  have rejected : rejections other = rejections env := by
    rw [rejections, rejections, readLevels, readName, readSpan]
  have settings : ofReadings other = ofReadings env := by
    funext strict
    rw [ofReadings, ofReadings, readLevels, readName, readSpan]
  unfold read
  rw [rejected, strict, settings]

theorem read_eq_of_blankBeside (beside : BlankBeside name unset blank)
    (other : exportNameVariable ≠ name) : read blank = read unset :=
  read_congr (beside.number_eq _ _ _)
    (congrArg Except.ok (text_congr (beside.others _ other) _ _)) (beside.number_eq _ _ _)
    (beside.isOn_eq _)

/-- The empty text is refused as an export name. -/
def noExportName : Rejection where
  reason := .invalid exportNameVariable (.str "")
  variableName := exportNameVariable
  fallback := .str defaultExportName

theorem readExportName_blank (beside : BlankBeside exportNameVariable unset blank) :
    readExportName blank = .error noExportName := by
  have given : givenExportName blank = .ok "" := congrArg Except.ok (beside.text_blank _ _)
  rw [readExportName, given]
  rfl

theorem readExportName_unset (beside : BlankBeside exportNameVariable unset blank) :
    readExportName unset = .ok defaultExportName := by
  have given : givenExportName unset = .ok defaultExportName :=
    congrArg Except.ok (beside.text_unset _ _)
  rw [readExportName, given, Reading.ofResult, if_pos defaultExportName_isExportName]

theorem readMaxLevels_eq (beside : BlankBeside name unset blank) :
    readMaxLevels blank = readMaxLevels unset :=
  congrArg (Reading.ofResult _ _ _ _) (beside.number_eq _ _ _)

theorem readWindow_eq (beside : BlankBeside name unset blank) :
    readWindow blank = readWindow unset :=
  congrArg (Reading.ofResult _ _ _ _) (beside.number_eq _ _ _)

/-- The default takes the place of a blank export name, as it does where none is set. -/
theorem ofReadings_exportName (beside : BlankBeside exportNameVariable unset blank)
    (strict : Bool) : ofReadings blank strict = ofReadings unset strict := by
  rw [ofReadings, ofReadings, readMaxLevels_eq beside, readWindow_eq beside,
    readExportName_blank beside, readExportName_unset beside]
  rfl

theorem rejections_blank (beside : BlankBeside exportNameVariable unset blank) :
    rejections blank =
      (readMaxLevels unset).rejections ++ noExportName :: (readWindow unset).rejections := by
  rw [rejections, readMaxLevels_eq beside, readWindow_eq beside, readExportName_blank beside,
    List.append_assoc]
  rfl

theorem rejections_unset (beside : BlankBeside exportNameVariable unset blank) :
    rejections unset = (readMaxLevels unset).rejections ++ (readWindow unset).rejections := by
  rw [rejections, readExportName_unset beside]
  exact congrArg (· ++ _) (List.append_nil _)

/-- Without strictness a blank export name adds a warning, and nothing else changes. -/
theorem read_exportName_lenient (beside : BlankBeside exportNameVariable unset blank)
    (off : unset.isOn strictVariable "" = false) :
    ∃ s before after, (read unset) = (.ok s, before ++ after) ∧
      (read blank) = (.ok s, before ++ noExportName.entry :: after) := by
  obtain ⟨s, made, ran⟩ := read_accepting off (Or.inl rfl)
  obtain ⟨s', made', ran'⟩ := read_accepting ((beside.isOn_eq _).trans off) (Or.inl rfl)
  obtain rfl := Except.ok.inj (made.symm.trans ((ofReadings_exportName beside _).symm.trans made'))
  refine ⟨s, (readMaxLevels unset).rejections.map Rejection.entry,
    (readWindow unset).rejections.map Rejection.entry ++ [loadedEntry s], ?_, ?_⟩
  · rw [ran, rejections_unset beside, List.map_append, List.append_assoc]
  · rw [ran', rejections_blank beside, List.map_append, List.append_assoc]
    rfl

/-- Under strictness refused levels come first, and then a blank export name. -/
theorem read_exportName_strict (beside : BlankBeside exportNameVariable unset blank)
    (on : unset.isOn strictVariable "" = true) :
    (∃ e, e.Names maxLevelsVariable ∧ read unset = (.error e, []) ∧ read blank = (.error e, [])) ∨
    (read blank = (.error noExportName.reason, []) ∧
      ((∃ s, read unset = (.ok s, [loadedEntry s])) ∨
        ∃ e, e.Names windowVariable ∧ read unset = (.error e, []))) := by
  have onBlank := (beside.isOn_eq strictVariable).trans on
  have blankRejected := rejections_blank beside
  have unsetRejected := rejections_unset beside
  obtain ⟨-, none⟩ | ⟨r, -, -, names, one⟩ :=
    Reading.rejections_ofResult maxLevelsVariable (.int defaultMaxLevels) .int isLevelCount
      (givenMaxLevels unset)
  · have levels : (readMaxLevels unset).rejections = [] := none
    rw [levels, List.nil_append] at blankRejected unsetRejected
    refine Or.inr ⟨read_refusing onBlank blankRejected, ?_⟩
    obtain ⟨-, noneLeft⟩ | ⟨r, -, -, names, one⟩ :=
      Reading.rejections_ofResult windowVariable (.float defaultWindowSeconds) .float isWindow
        (givenWindow unset)
    · obtain ⟨s, -, ran⟩ := read_accepting on (Or.inr (unsetRejected.trans noneLeft))
      refine Or.inl ⟨s, ?_⟩
      rw [ran, unsetRejected]
      exact congrArg (fun rs => (_, List.map Rejection.entry rs ++ _)) noneLeft
    · exact Or.inr ⟨r.reason, names, read_refusing on (unsetRejected.trans one)⟩
  · have levels : (readMaxLevels unset).rejections = [r] := one
    rw [levels] at blankRejected unsetRejected
    exact Or.inl ⟨r.reason, names, read_refusing on unsetRejected, read_refusing onBlank blankRejected⟩

/-! ## Loading -/

/-- Two runs of loading that come to read their variables, where one variable is not set for the one
run and blank for the other. -/
structure Loading.BlankBeside (name : String) (unset blank : Loading) : Prop where
  unsetWent : unset.prepared.outcome = .ok ()
  blankWent : blank.prepared.outcome = .ok ()
  beside : Environment.BlankBeside name unset.prepared.environment blank.prepared.environment

theorem Loading.loaded_of_read {l : Loading} (went : l.prepared.outcome = .ok ())
    {outcome : Except SettingError Settings} {reports : Journal}
    (ran : read l.prepared.environment = (outcome, reports)) :
    l.loaded.outcome = outcome.mapError .setting ∧
      l.loaded.journal = l.prepared.journal ++ reports := by
  rw [Loading.loaded_eq went, ran]
  exact ⟨rfl, rfl⟩

/-- Getters of numbers give their default for a blank variable, as for one that is not set; getters
of texts give the empty text. Loading has the same outcome and the same reports for a blank variable
as for one that is not set, unless the variable is the export name's. A blank export name adds one
warning where settings are not strict. Where they are, it is refused, unless the levels are refused
before it. -/
theorem blank_counts_as_unset_unless_exportName (name : String) (unset blank : Loading)
    (runs : Loading.BlankBeside name unset blank) :
    (∀ (α : Type) (fallback : α) (read : String → Except NumberError α),
      unset.prepared.environment.number name fallback read = .ok fallback ∧
        blank.prepared.environment.number name fallback read = .ok fallback) ∧
    (∀ (α : Type) (fallback : α) (read : String → α),
      unset.prepared.environment.text name fallback read = fallback ∧
        blank.prepared.environment.text name fallback read = read "") ∧
    (name ≠ exportNameVariable → blank.loaded.outcome = unset.loaded.outcome ∧
      ∃ reports, unset.loaded.journal = unset.prepared.journal ++ reports ∧
        blank.loaded.journal = blank.prepared.journal ++ reports) ∧
    (name = exportNameVariable →
      (unset.prepared.environment.isOn strictVariable "" = false →
        ∃ s before warning after, warning.WarnsOf exportNameVariable ∧
          unset.loaded.outcome = .ok s ∧ blank.loaded.outcome = .ok s ∧
          unset.loaded.journal = unset.prepared.journal ++ (before ++ after) ∧
          blank.loaded.journal = blank.prepared.journal ++ (before ++ warning :: after)) ∧
      (unset.prepared.environment.isOn strictVariable "" = true →
        (∃ e, e.Names maxLevelsVariable ∧ unset.loaded.outcome = .error (.setting e) ∧
          blank.loaded.outcome = .error (.setting e)) ∨
        (∃ e, e.message = some "ROCKSMETRICS_NAMESPACE: invalid value ''" ∧
          blank.loaded.outcome = .error (.setting e) ∧
          ((∃ s, unset.loaded.outcome = .ok s) ∨
            ∃ e', e'.Names windowVariable ∧ unset.loaded.outcome = .error (.setting e'))))) := by
  obtain ⟨unsetWent, blankWent, beside⟩ := runs
  refine ⟨?_, ?_, ?_, ?_⟩
  · exact fun _ fallback read => ⟨beside.number_unset fallback read, beside.number_blank fallback read⟩
  · exact fun _ fallback read => ⟨beside.text_unset fallback read, beside.text_blank fallback read⟩
  · intro other
    have same := read_eq_of_blankBeside beside other.symm
    obtain ⟨unsetOutcome, unsetJournal⟩ := Loading.loaded_of_read unsetWent (Prod.eta _).symm
    obtain ⟨blankOutcome, blankJournal⟩ :=
      Loading.loaded_of_read blankWent (same.trans (Prod.eta _).symm)
    exact ⟨blankOutcome.trans unsetOutcome.symm, _, unsetJournal, blankJournal⟩
  · rintro rfl
    constructor
    · intro off
      obtain ⟨s, before, after, unsetRan, blankRan⟩ := read_exportName_lenient beside off
      obtain ⟨unsetOutcome, unsetJournal⟩ := Loading.loaded_of_read unsetWent unsetRan
      obtain ⟨blankOutcome, blankJournal⟩ := Loading.loaded_of_read blankWent blankRan
      exact ⟨s, before, noExportName.entry, after, warnsOf_entry noExportName, unsetOutcome,
        blankOutcome, unsetJournal, blankJournal⟩
    · intro on
      obtain ⟨e, names, unsetRan, blankRan⟩ | ⟨blankRan, unsetRan⟩ := read_exportName_strict beside on
      · exact Or.inl ⟨e, names, (Loading.loaded_of_read unsetWent unsetRan).1,
          (Loading.loaded_of_read blankWent blankRan).1⟩
      · refine Or.inr ⟨noExportName.reason, by decide +kernel,
          (Loading.loaded_of_read blankWent blankRan).1, ?_⟩
        obtain ⟨s, ran⟩ | ⟨e, names, ran⟩ := unsetRan
        · exact Or.inl ⟨s, (Loading.loaded_of_read unsetWent ran).1⟩
        · exact Or.inr ⟨e, names, (Loading.loaded_of_read unsetWent ran).1⟩

/-- Nothing but strictness is set. -/
def strictOnly : Environment := .ofList [(strictVariable, "1")]

/-- A run without an env file. -/
def Loading.plain (env : Environment) : Loading := ⟨env, {}, .none⟩

/-- Without an env file the variables are read as the environment has them. -/
theorem Loading.plain_blankBeside (beside : Environment.BlankBeside name unset blank) :
    Loading.BlankBeside name (.plain unset) (.plain blank) := ⟨rfl, rfl, beside⟩

/-- And an export name of blanks. -/
def strictUnnamed : Environment := strictOnly.insert exportNameVariable " \t"

theorem strictOnly_beside : Environment.BlankBeside exportNameVariable strictOnly strictUnnamed :=
  blankBeside_insert (by decide +kernel) (List.all_eq_true.mp (by decide +kernel))

theorem strictOnly_isOn : strictOnly.isOn strictVariable "" = true := by decide +kernel

theorem blank_counts_as_unset_unless_exportName_strictUnnamed :
    Loading.BlankBeside exportNameVariable (.plain strictOnly) (.plain strictUnnamed) ∧
      ∃ e, (Loading.plain strictUnnamed).loaded.outcome = .error (.setting e) := by
  have runs := Loading.plain_blankBeside strictOnly_beside
  obtain ⟨-, -, -, exportNames⟩ := blank_counts_as_unset_unless_exportName _ _ _ runs
  obtain ⟨e, -, -, failed⟩ | ⟨e, -, failed, -⟩ := (exportNames rfl).2 strictOnly_isOn
  · exact ⟨runs, e, failed⟩
  · exact ⟨runs, e, failed⟩

/-- With strictness alone settings load, and with a blank export name beside it they are refused. -/
theorem blank_exportName_refused :
    (∃ s, (Loading.plain strictOnly).loaded.outcome = .ok s) ∧
      (Loading.plain strictUnnamed).loaded.outcome =
        .error (.setting (.invalid exportNameVariable (.str ""))) := by
  have reads : (Loading.plain strictOnly).Reads strictOnly true :=
    ⟨rfl, fun _ _ => rfl, strictOnly_isOn⟩
  obtain ⟨s, loaded, -⟩ := reads.strict_accepts (by decide +kernel)
  obtain ⟨e, -, unsetRan, -⟩ | ⟨blankRan, -⟩ :=
    read_exportName_strict strictOnly_beside strictOnly_isOn
  · have failed := (Loading.loaded_of_read (l := .plain strictOnly) rfl unsetRan).1
    cases loaded.symm.trans failed
  · exact ⟨⟨s, loaded⟩, (Loading.loaded_of_read (l := .plain strictUnnamed) rfl blankRan).1⟩

end Settings

end StorageMetrics
