import StorageMetrics.Proofs.OrderedMap
import StorageMetrics.Proofs.Settings
import Mathlib

/-
  Env files and the environment they are put into. A variable that is there already stays as it is,
  and a file that goes through sets all others that it gives a value to (`get?_setMissing`). Which
  ones these are does not depend on the environment, although their values may, since they are
  expanded in it (`resolve_alike`). So the second time there is nothing left to set, also where the
  file has switched the reading of env files off (`prepare_again`). Loading reads its variables and
  its strictness from the environment that the file was put into, and from nothing else: it comes to
  what loading without a file comes to there, and the second time to the same
  (`envFile_fills_environment`).
-/

namespace StorageMetrics

namespace EnvFile

/-! ## What a file gives -/

/-- Two files give values to the same variables. -/
def GiveAlike (given other : OrderedMap String (Option String)) : Prop :=
  ∀ name, (other.get? name).map Option.isSome = (given.get? name).map Option.isSome

variable {given other : OrderedMap String (Option String)} {env : Environment}

theorem GiveAlike.insert (alike : GiveAlike given other) (name : String)
    {value value' : Option String} (same : value'.isSome = value.isSome) :
    GiveAlike (given.insert name value) (other.insert name value') := by
  intro key
  rw [OrderedMap.get?_insert, OrderedMap.get?_insert]
  by_cases own : name = key
  · rw [if_pos own, if_pos own]
    exact congrArg some same
  · rw [if_neg own, if_neg own]
    exact alike key

/-- Assignments give values to the same variables in whatever environment they are expanded. -/
theorem resolve_alike (env env' : Environment) (assignments : List Assignment) :
    GiveAlike (resolve env assignments) (resolve env' assignments) := by
  have step (given other : OrderedMap String (Option String)) (alike : GiveAlike given other) :
      GiveAlike
        (assignments.foldl (fun sofar a => sofar.insert a.key (a.value.map (expand env sofar))) given)
        (assignments.foldl (fun sofar a => sofar.insert a.key (a.value.map (expand env' sofar)))
          other) := by
    induction assignments generalizing given other with
    | nil => exact alike
    | cons a rest ih =>
      refine ih _ _ (alike.insert a.key ?_)
      rw [Option.isSome_map, Option.isSome_map]
  exact step ⟨[]⟩ ⟨[]⟩ fun _ => rfl

theorem nodup_keys_resolve (env : Environment) (assignments : List Assignment) :
    (resolve env assignments).keys.Nodup := by
  have step (given : OrderedMap String (Option String)) (nodup : given.keys.Nodup) :
      (assignments.foldl (fun sofar a => sofar.insert a.key (a.value.map (expand env sofar)))
        given).keys.Nodup := by
    induction assignments generalizing given with
    | nil => exact nodup
    | cons a rest ih => exact ih _ (OrderedMap.nodup_keys_insert nodup)
  exact step ⟨[]⟩ List.nodup_nil

/-! ## Setting what is missing -/

theorem setVariable_eq_ok {name value : String} {env' : Environment}
    (set_ : setVariable env name value = .ok env') : env' = env.insert name value := by
  unfold setVariable at set_
  split at set_
  · cases set_
  · split at set_
    · cases set_
    · exact (Except.ok.inj set_).symm

/-- An entry that goes through sets its variable, unless there is one or it has no value. -/
theorem setMissing_cons {e : String × Option String} {rest : List (String × Option String)}
    (went : (setMissing (e :: rest) env).1 = .ok ()) :
    ∃ env', (∀ name, env'.get? name = (env.get? name).or (if e.1 = name then e.2 else none)) ∧
      setMissing (e :: rest) env = setMissing rest env' := by
  obtain ⟨key, value⟩ := e
  cases value with
  | none => exact ⟨env, fun name => by simp, rfl⟩
  | some value =>
    cases found : env.get? key with
    | some text =>
      have there : env.contains key = true := by rw [OrderedMap.contains, found]; rfl
      refine ⟨env, fun name => ?_, by rw [setMissing, if_pos there]⟩
      split
      case isTrue own => rw [← own, found]; rfl
      case isFalse => rw [Option.or_none]
    | none =>
      have missing : ¬ env.contains key = true := by rw [OrderedMap.contains, found]; decide
      rw [setMissing, if_neg missing] at went ⊢
      cases set_ : setVariable env key value with
      | error e => rw [set_] at went; cases went
      | ok env' =>
        obtain rfl := setVariable_eq_ok set_
        refine ⟨_, fun name => ?_, rfl⟩
        rw [OrderedMap.get?_insert]
        split
        case isTrue own => rw [← own, found]; rfl
        case isFalse => rw [Option.or_none]

/-- A file that goes through leaves every variable that there was, and sets the others that it gives
a value to. -/
theorem get?_setMissing {entries : List (String × Option String)}
    (nodup : (entries.map (·.1)).Nodup) (went : (setMissing entries env).1 = .ok ())
    (name : String) :
    (setMissing entries env).2.get? name =
      (env.get? name).or (OrderedMap.find name entries).join := by
  induction entries generalizing env with
  | nil => exact (Option.or_none).symm
  | cons e rest ih =>
    obtain ⟨first, later⟩ := List.nodup_cons.mp nodup
    obtain ⟨env', set_, same⟩ := setMissing_cons went
    rw [same] at went ⊢
    rw [ih later went, set_, Option.or_assoc, OrderedMap.find]
    split
    case isTrue own =>
      have absent := (OrderedMap.find_eq_none_iff name rest).mpr (own ▸ first)
      rw [absent, Option.join_none, Option.or_none]
      rfl
    case isFalse => rw [Option.none_or]

/-- Where all that a file gives values to is there, it changes nothing. -/
theorem setMissing_of_covered {entries : List (String × Option String)}
    (covered : ∀ e ∈ entries, e.2.isSome → env.contains e.1) :
    setMissing entries env = (.ok (), env) := by
  induction entries with
  | nil => rfl
  | cons e rest ih =>
    obtain ⟨key, value⟩ := e
    have later := ih fun e mem => covered e (List.mem_cons_of_mem _ mem)
    cases value with
    | none => rw [setMissing, later]
    | some value => rw [setMissing, if_pos (covered _ List.mem_cons_self rfl), later]

end EnvFile

namespace Settings

open EnvFile

variable {env : Environment} {files : Files} {path : Value}

/-! ## Preparing -/

/-- What the env file at a path gives in an environment: the assignments in its text, and nothing
where the path stands for no file or env files are switched off. -/
inductive Gives (env : Environment) (files : Files) (path : Value) :
    OrderedMap String (Option String) → Prop where
  | absent (absent : path.isPresent = false) : Gives env files path {}
  | switchedOff (off : isSwitchedOff env = true) : Gives env files path {}
  | text {text : String} (present : path.isPresent = true) (on : isSwitchedOff env = false)
      (read : fileText files path = .ok text) : Gives env files path (resolve env (parse text))

variable {given : OrderedMap String (Option String)}

theorem prepare_of_absent (absent : path.isPresent = false) :
    prepare env files path = ⟨.ok (), env, []⟩ := by
  rw [prepare, if_pos (by rw [absent]; rfl)]

theorem prepare_of_assigned (present : path.isPresent = true)
    (assigns : assigned env files path = .ok given) :
    (prepare env files path).outcome = (setMissing given.entries env).1.mapError .envFile ∧
      (prepare env files path).environment = (setMissing given.entries env).2 := by
  rw [prepare, if_neg (by rw [present]; decide), assigns]
  exact ⟨rfl, rfl⟩

theorem assigned_cases (env : Environment) (files : Files) (present : path.isPresent = true) :
    (∃ e, assigned env files path = .error e) ∨
      ∃ given, assigned env files path = .ok given ∧ Gives env files path given := by
  unfold assigned
  cases off : isSwitchedOff env with
  | true => exact Or.inr ⟨{}, if_pos rfl, .switchedOff off⟩
  | false =>
    rw [if_neg (by decide)]
    cases read : fileText files path with
    | error e => exact Or.inl ⟨e, rfl⟩
    | ok text => exact Or.inr ⟨_, rfl, .text present off read⟩

theorem went_of_mapError {outcome : Except SetError Unit}
    (went : outcome.mapError Fault.envFile = .ok ()) : outcome = .ok () := by
  cases outcome with
  | error e => cases went
  | ok u => rfl

/-- A file that goes through gives something, and this is set where it is missing. -/
theorem gives_of_went (went : (prepare env files path).outcome = .ok ()) :
    ∃ given, Gives env files path given ∧ (setMissing given.entries env).1 = .ok () ∧
      (prepare env files path).environment = (setMissing given.entries env).2 := by
  cases present : path.isPresent with
  | false =>
    rw [prepare_of_absent present]
    exact ⟨{}, .absent present, rfl, rfl⟩
  | true =>
    obtain ⟨e, failed⟩ | ⟨given, assigns, gives⟩ := assigned_cases env files present
    · rw [prepare, if_neg (by rw [present]; decide), failed] at went
      cases went
    · obtain ⟨outcome, environment⟩ := prepare_of_assigned present assigns
      exact ⟨given, gives, went_of_mapError (outcome.symm.trans went), environment⟩

theorem prepare_of_gives (gives : Gives env files path given)
    (set_ : setMissing given.entries env = (.ok (), env)) :
    (prepare env files path).outcome = .ok () ∧ (prepare env files path).environment = env := by
  cases present : path.isPresent with
  | false =>
    rw [prepare_of_absent present]
    exact ⟨rfl, rfl⟩
  | true =>
    have assigns : assigned env files path = .ok given := by
      unfold assigned
      cases gives with
      | absent absent => cases absent.symm.trans present
      | switchedOff off => exact if_pos off
      | text _ on read => rw [on, if_neg (by decide), read]; rfl
    obtain ⟨outcome, environment⟩ := prepare_of_assigned present assigns
    rw [set_] at outcome environment
    exact ⟨outcome, environment⟩

theorem Gives.nodup (gives : Gives env files path given) : given.keys.Nodup := by
  cases gives with
  | absent | switchedOff => exact List.nodup_nil
  | text => exact nodup_keys_resolve _ _

/-- A file that is read again gives values to the same variables, or to none because it is switched
off by now. -/
theorem Gives.again (gives : Gives env files path given) {env' : Environment}
    (stays : isSwitchedOff env = true → isSwitchedOff env' = true) :
    ∃ given', Gives env' files path given' ∧ (given' = {} ∨ GiveAlike given given') := by
  cases gives with
  | absent absent => exact ⟨{}, .absent absent, Or.inl rfl⟩
  | switchedOff off => exact ⟨{}, .switchedOff (stays off), Or.inl rfl⟩
  | text present on read =>
    cases off : isSwitchedOff env' with
    | true => exact ⟨{}, .switchedOff off, Or.inl rfl⟩
    | false => exact ⟨_, .text present off read, Or.inr (resolve_alike _ _ _)⟩

/-- What the environment is once a file went through. -/
theorem get?_prepare (went : (prepare env files path).outcome = .ok ()) :
    ∃ given, Gives env files path given ∧ ∀ name,
      (prepare env files path).environment.get? name =
        (env.get? name).or (given.get? name).join := by
  obtain ⟨given, gives, set_, environment⟩ := gives_of_went went
  refine ⟨given, gives, fun name => ?_⟩
  rw [environment]
  exact get?_setMissing gives.nodup set_ name

theorem isSwitchedOff_mono {env' : Environment}
    (kept : ∀ name text, env.get? name = some text → env'.get? name = some text)
    (off : isSwitchedOff env = true) : isSwitchedOff env' = true := by
  unfold isSwitchedOff at off ⊢
  cases found : env.get? switchVariable with
  | none => rw [found] at off; cases off
  | some word =>
    rw [found] at off
    rw [kept _ _ found]
    exact off

/-- A file that went through changes nothing the second time. -/
theorem prepare_again (went : (prepare env files path).outcome = .ok ()) :
    (prepare (prepare env files path).environment files path).outcome = .ok () ∧
      (prepare (prepare env files path).environment files path).environment =
        (prepare env files path).environment := by
  obtain ⟨given, gives, filled⟩ := get?_prepare went
  have kept (name text : String) (found : env.get? name = some text) :
      (prepare env files path).environment.get? name = some text := by
    rw [filled, found, Option.some_or]
  obtain ⟨given', gives', nothing | alike⟩ := gives.again (isSwitchedOff_mono kept)
  · subst nothing
    exact prepare_of_gives gives' rfl
  · refine prepare_of_gives gives' (setMissing_of_covered fun e mem valued => ?_)
    -- the first time gave this variable a value, so it was set then or had been there before
    have found := (OrderedMap.get?_eq_some_iff_mem gives'.nodup).mpr mem
    have before := alike e.1
    rw [found, Option.map_some, valued] at before
    obtain ⟨value, given_, some_⟩ := Option.map_eq_some_iff.mp before.symm
    obtain ⟨text, rfl⟩ := Option.isSome_iff_exists.mp some_
    rw [OrderedMap.contains, filled, given_]
    cases env.get? e.1 <;> rfl

/-! ## Loading -/

/-- Reading gives settings of the strictness that the environment has, or fails because of it. -/
theorem read_strictness (env : Environment) :
    (∃ s, (read env).1 = .ok s ∧ s.strict = .bool (env.isOn strictVariable "")) ∨
      ∃ e, (read env).1 = .error e ∧ env.isOn strictVariable "" = true := by
  have accepted (accepts : env.isOn strictVariable "" = false ∨ rejections env = []) :
      ∃ s, (read env).1 = .ok s ∧ s.strict = .bool (env.isOn strictVariable "") := by
    obtain ⟨s, made, ran⟩ := read_accepting rfl accepts
    refine ⟨s, congrArg Prod.fst ran, ?_⟩
    rw [← Except.ok.inj ((ofReadings_eq _ _).symm.trans made)]
  cases on : env.isOn strictVariable "" with
  | false => exact Or.inl (on ▸ accepted (Or.inl on))
  | true =>
    cases rejected : rejections env with
    | nil => exact Or.inl (on ▸ accepted (Or.inr rejected))
    | cons r rest => exact Or.inr ⟨_, congrArg Prod.fst (read_refusing on rejected), rfl⟩

/-- Loading comes to the same wherever reading does, whatever files there are. -/
theorem Loading.outcome_eq {l m : Loading} (went : l.prepared.outcome = .ok ())
    (went' : m.prepared.outcome = .ok ())
    (same : m.prepared.environment = l.prepared.environment) :
    m.loaded.outcome = l.loaded.outcome ∧ m.loaded.environment = l.loaded.environment := by
  rw [Loading.loaded_eq went, Loading.loaded_eq went', same]
  exact ⟨rfl, rfl⟩

/-- Loading after an env file that goes through leaves every variable that there was, and sets the
others that the file gives a value to. It comes to what loading without a file comes to in the
environment that it leaves behind: to settings of the strictness there, or, only where that is on, to
the refusal of a variable. Loading again after the same file comes to the same and changes nothing. -/
theorem envFile_fills_environment (l : Loading) (went : l.prepared.outcome = .ok ()) :
    (∀ name text, l.start.get? name = some text →
      l.loaded.environment.get? name = some text) ∧
    (∃ given, Gives l.start l.files l.path given ∧ ∀ name,
      l.loaded.environment.get? name = (l.start.get? name).or (given.get? name).join) ∧
    (∀ files path, path.isPresent = false →
      (load l.loaded.environment files path).outcome = l.loaded.outcome) ∧
    ((∃ s, l.loaded.outcome = .ok s ∧
        s.strict = .bool (l.loaded.environment.isOn strictVariable "")) ∨
      ∃ e, l.loaded.outcome = .error (.setting e) ∧
        l.loaded.environment.isOn strictVariable "" = true) ∧
    (load l.loaded.environment l.files l.path).outcome = l.loaded.outcome ∧
    (load l.loaded.environment l.files l.path).environment = l.loaded.environment := by
  obtain ⟨given, gives, filled⟩ := get?_prepare went
  obtain ⟨wentAgain, sameAgain⟩ := prepare_again went
  have left : l.loaded.environment = l.prepared.environment := by rw [Loading.loaded_eq went]
  have outcome : l.loaded.outcome = (read l.prepared.environment).1.mapError .setting := by
    rw [Loading.loaded_eq went]
  have again := Loading.outcome_eq (m := ⟨l.prepared.environment, l.files, l.path⟩) went wentAgain
    sameAgain
  rw [left]
  refine ⟨fun name text found => ?_, ⟨given, gives, filled⟩, fun files path absent => ?_, ?_, ?_, ?_⟩
  · exact (filled name).trans (by rw [found, Option.some_or])
  · have plain : (Loading.mk l.prepared.environment files path).prepared =
        ⟨.ok (), l.prepared.environment, []⟩ := prepare_of_absent absent
    exact (Loading.outcome_eq went (by rw [plain]) (by rw [plain])).1
  · rw [outcome]
    obtain ⟨s, gave, strict⟩ | ⟨e, failed, on⟩ := read_strictness l.prepared.environment
    · exact Or.inl ⟨s, by rw [gave]; rfl, strict⟩
    · exact Or.inr ⟨e, by rw [failed]; rfl, on⟩
  · exact again.1
  · exact again.2.trans left

/-- An env file that switches strictness on and env files off, and that takes the levels from the
environment. -/
def strictText : String :=
  "ROCKSMETRICS_STRICT=on\nROCKSMETRICS_NAMESPACE=db\n" ++
    "ROCKSMETRICS_MAX_LEVELS=$\x7bLEVELS:-3\x7d\nPYTHON_DOTENV_DISABLED=yes\n"

/-- A run after that file, where the environment has levels and a blank export name. -/
def overlaid : Loading where
  start := .ofList [(exportNameVariable, " \t"), ("LEVELS", "5")]
  files := { root := .directory [("tmp", .directory [("work", .directory [("e", .file strictText)])])] }
  path := .str "e"

/-- The environment that it leaves behind. -/
def overlay : Environment :=
  .ofList [(exportNameVariable, " \t"), ("LEVELS", "5"), (strictVariable, "on"),
    (maxLevelsVariable, "5"), (switchVariable, "yes")]

theorem overlaid_prepared :
    overlaid.prepared.outcome = .ok () ∧ overlaid.prepared.environment = overlay := by
  -- Paths are split by a recursion that `decide` does not open, so the parts are computed first.
  have parts : Path.parts "e" = ["e"] := by cbv
  have found : overlaid.files.find "e" = .ok (some strictText) := by
    unfold Files.find Files.read? Files.locate Files.approach
    rw [parts]
    decide +kernel
  have assigns : assigned overlaid.start overlaid.files overlaid.path =
      .ok (resolve overlaid.start (parse strictText)) := by
    have read : fileText overlaid.files overlaid.path = .ok strictText := by
      show ((overlaid.files.find "e").map (·.getD "")).mapError .file = _
      rw [found]
      rfl
    rw [assigned, if_neg (by decide +kernel), read]
    rfl
  have set_ : setMissing (resolve overlaid.start (parse strictText)).entries overlaid.start =
      (.ok (), overlay) := by decide +kernel
  have present : overlaid.path.isPresent = true := rfl
  obtain ⟨outcome, environment⟩ := prepare_of_assigned present assigns
  rw [set_] at outcome environment
  exact ⟨outcome, environment⟩

/-- The blank export name stays, beside the strictness of the file. Without the file, and after it
once more, loading comes to the same. -/
theorem envFile_fills_environment_overlaid :
    overlaid.prepared.outcome = .ok () ∧
      overlaid.loaded.environment.get? exportNameVariable = some " \t" ∧
      overlaid.loaded.environment.isOn strictVariable "" = true ∧
      (load overlaid.loaded.environment {} .none).outcome = overlaid.loaded.outcome ∧
      (load overlaid.loaded.environment overlaid.files overlaid.path).outcome =
        overlaid.loaded.outcome ∧
      (load overlaid.loaded.environment overlaid.files overlaid.path).environment =
        overlaid.loaded.environment := by
  obtain ⟨went, environment⟩ := overlaid_prepared
  obtain ⟨kept, -, plain, -, again, unchanged⟩ := envFile_fills_environment overlaid went
  refine ⟨went, kept _ _ (by decide +kernel), ?_, plain {} .none rfl, again, unchanged⟩
  rw [Loading.loaded_eq went, environment]
  decide +kernel

end Settings

end StorageMetrics
