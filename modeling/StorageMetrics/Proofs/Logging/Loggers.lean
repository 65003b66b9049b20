import StorageMetrics.Logging.Setup
import StorageMetrics.Proofs.OrderedMap

/-
  Which loggers let a level through. A logger without a level of its own follows the nearest logger
  above it, so every name is heard from the root's level on, or from the level of the suppressed
  loggers. Which of the two is told by the name alone (`levelFor_eq`), as long as no two points in
  it stand side by side: such a name passes over the logger that it seems to stand below, and
  whether another one takes its place depends on the loggers that were asked for. Decisions are
  remembered, and stay right (`Decided`).
-/

namespace StorageMetrics.Logging

/-! ## Names above a name -/

/-- The name is the logger's, or goes on with a point where the logger's ends. -/
def IsAtOrBelow (name logger : String) : Prop :=
  name = logger ∨ logger.toList ++ ['.'] <+: name.toList

instance (name logger : String) : Decidable (IsAtOrBelow name logger) :=
  inferInstanceAs (Decidable (_ ∨ _))

/-- One of the suppressed loggers, or a logger below one of them. -/
def IsSuppressed (name : String) : Prop := ∃ logger ∈ suppressedLoggers, IsAtOrBelow name logger

instance (name : String) : Decidable (IsSuppressed name) :=
  inferInstanceAs (Decidable (∃ logger ∈ suppressedLoggers, _))

/-- No two points stand side by side. -/
def HasPlainPoints (name : String) : Prop := ¬ ['.', '.'] <:+: name.toList

instance (name : String) : Decidable (HasPlainPoints name) := inferInstanceAs (Decidable (¬ _))

/-- The name goes on with a point where any of the names above it ends. -/
theorem prefix_of_mem_namesAbove {reversed : List Char} {above : String}
    (mem : above ∈ namesAbove reversed) : above.toList ++ ['.'] <+: reversed.reverse := by
  fun_induction namesAbove reversed with
  | case1 => simp at mem
  | case2 c rest ih =>
    rw [List.reverse_cons]
    obtain rfl | further := List.mem_cons.mp mem
    · exact ⟨[], by simp⟩
    · have starts := ih further
      rw [List.reverse_cons, List.append_assoc]
      exact starts.trans (List.prefix_append _ _)
  | case3 c rest _ ih =>
    rw [List.reverse_cons]
    exact (ih mem).trans (List.prefix_append _ _)

/-- Without points side by side, every part of the name up to a point is a name above it. -/
theorem mem_namesAbove {reversed after above : List Char} (plain : ¬ ['.', '.'] <:+: reversed)
    (named : above ≠ []) (parts : reversed = after ++ '.' :: above) :
    String.ofList above.reverse ∈ namesAbove reversed := by
  fun_induction namesAbove reversed generalizing after with
  | case1 => simp at parts
  | case2 c rest ih =>
    obtain - | ⟨_, - | ⟨_, after⟩⟩ := after
    · obtain rfl := (List.cons.inj parts).2
      exact List.mem_cons_self
    · -- The point after a point would stand beside it.
      have pair : c = '.' := (List.cons.inj (List.cons.inj parts).2).1
      exact absurd ⟨[], rest, by rw [pair]; rfl⟩ plain
    · have goesOn := (List.cons.inj (List.cons.inj parts).2).2
      refine List.mem_cons_of_mem _ (ih (fun pair => plain ?_) goesOn)
      exact pair.trans (List.suffix_append ['.', c] rest).isInfix
  | case3 c rest other ih =>
    cases after with
    | nil =>
      obtain ⟨rfl, rfl⟩ := List.cons.inj parts
      obtain ⟨first, others, rfl⟩ := List.exists_cons_of_ne_nil named
      exact absurd rfl (other first others rfl)
    | cons _ after =>
      have goesOn := (List.cons.inj parts).2
      exact ih (fun pair => plain (pair.trans (List.suffix_cons c rest).isInfix)) goesOn

/-- Of two names above one, the later is above the earlier. -/
theorem namesAbove_pairwise (reversed : List Char) :
    (namesAbove reversed).Pairwise fun nearer further => IsAtOrBelow nearer further := by
  fun_induction namesAbove reversed with
  | case1 => exact .nil
  | case2 c rest ih =>
    refine List.pairwise_cons.mpr ⟨fun further mem => Or.inr ?_, ih⟩
    rw [String.toList_ofList, List.reverse_cons]
    exact (prefix_of_mem_namesAbove mem).trans (List.prefix_append _ _)
  | case3 c rest _ ih => exact ih

theorem IsAtOrBelow.trans {name nearer further : String} (first : IsAtOrBelow name nearer)
    (second : IsAtOrBelow nearer further) : IsAtOrBelow name further := by
  obtain rfl | goesOn := first
  · exact second
  obtain rfl | goesOn' := second
  · exact Or.inr goesOn
  · exact Or.inr ((goesOn'.trans (List.prefix_append _ _)).trans goesOn)

theorem IsSuppressed.of_above {name logger : String} (below : IsAtOrBelow name logger)
    (suppressed : IsSuppressed logger) : IsSuppressed name := by
  obtain ⟨other, mem, above⟩ := suppressed
  exact ⟨other, mem, below.trans above⟩

/-! ## The nearest logger above -/

variable {s : State} {name : String}

theorem State.isBelow_of_loggerAbove? {logger : String}
    (found : s.loggerAbove? name = some logger) : IsAtOrBelow name logger := by
  have starts := prefix_of_mem_namesAbove (List.mem_of_find?_eq_some found)
  rw [List.reverse_reverse] at starts
  exact Or.inr starts

/-- The nearest logger above a name is at or below every other one above it. -/
theorem State.isAtOrBelow_of_nearest {nearest other : String}
    (found : s.loggerAbove? name = some nearest) (above : other ∈ namesAbove name.toList.reverse)
    (asked : other ∈ s.loggers) : IsAtOrBelow nearest other := by
  obtain ⟨-, nearer, further, names, passed⟩ := List.find?_eq_some_iff_append.mp found
  have ordered := namesAbove_pairwise name.toList.reverse
  rw [names, List.pairwise_append, List.pairwise_cons] at ordered
  rw [names] at above
  obtain before | here := List.mem_append.mp above
  · exact absurd asked (by simpa using passed other before)
  · obtain rfl | after := List.mem_cons.mp here
    · exact Or.inl rfl
    · exact ordered.2.1.1 other after

theorem HasPlainPoints.above {logger : String} (plain : HasPlainPoints name)
    (below : IsAtOrBelow name logger) : HasPlainPoints logger := by
  obtain rfl | starts := below
  · exact plain
  · intro pair
    exact plain ((pair.trans (List.prefix_append _ _).isInfix).trans starts.isInfix)

/-- The suppressed loggers are known, and are heard from warnings on. -/
structure State.Suppresses (s : State) : Prop where
  asked : ∀ logger ∈ suppressedLoggers, logger ∈ s.loggers
  level : s.suppressed = warningLevel

/-- A suppressed logger that a name stands below is among the names above it. -/
theorem mem_namesAbove_of_isSuppressed {logger : String} (plain : HasPlainPoints name)
    (mem : logger ∈ suppressedLoggers) (starts : logger.toList ++ ['.'] <+: name.toList) :
    logger ∈ namesAbove name.toList.reverse := by
  obtain ⟨rest, whole⟩ := starts
  have named : logger.toList.reverse ≠ [] := by
    obtain rfl | rfl := by simpa [suppressedLoggers] using mem
    all_goals decide
  have parts : name.toList.reverse = rest.reverse ++ '.' :: logger.toList.reverse := by
    rw [← whole]
    simp
  have plainReversed : ¬ ['.', '.'] <:+: name.toList.reverse := by
    intro pair
    exact plain (by simpa using List.reverse_infix.mpr pair)
  simpa using mem_namesAbove plainReversed named parts

/-- A name that does not have the level of the suppressed loggers is none of theirs. -/
theorem State.Suppresses.not_mem (suppresses : s.Suppresses)
    (other : ¬ (name ∈ suppressedLoggers && s.suppressed ≠ 0) = true) :
    name ∉ suppressedLoggers := by
  rw [suppresses.level] at other
  intro mem
  exact other (Bool.and_eq_true _ _ ▸ ⟨decide_eq_true mem, by decide⟩)

/-- A name without points side by side is heard from warnings on where it is suppressed, and from
the root's level on where it is not. -/
theorem State.Suppresses.levelFor_eq (suppresses : s.Suppresses) (plain : HasPlainPoints name) :
    s.levelFor name = if IsSuppressed name then warningLevel else s.level := by
  fun_induction State.levelFor s name with
  | case1 name own =>
    have listed : name ∈ suppressedLoggers := by
      rw [Bool.and_eq_true, decide_eq_true_eq] at own
      exact own.1
    rw [if_pos ⟨name, listed, Or.inl rfl⟩, suppresses.level]
  | case2 name other nearest found ih =>
    -- The level is the nearest logger's, so both names have to be suppressed or neither.
    have below := State.isBelow_of_loggerAbove? found
    rw [ih (plain.above below)]
    congr 1
    refine propext ⟨IsSuppressed.of_above below, ?_⟩
    rintro ⟨logger, mem, rfl | starts⟩
    · exact absurd mem (suppresses.not_mem other)
    · exact ⟨logger, mem, State.isAtOrBelow_of_nearest found
        (mem_namesAbove_of_isSuppressed plain mem starts) (suppresses.asked logger mem)⟩
  | case3 name other none_ =>
    refine (if_neg ?_).symm
    rintro ⟨logger, mem, rfl | starts⟩
    · exact absurd mem (suppresses.not_mem other)
    · have passed := List.find?_eq_none.mp none_ logger
        (mem_namesAbove_of_isSuppressed plain mem starts)
      exact passed (by simpa using suppresses.asked logger mem)

/-- Every name is heard from the root's level on, or from that of the suppressed loggers. -/
theorem State.levelFor_cases (s : State) (name : String) :
    s.levelFor name = s.level ∨ s.levelFor name = s.suppressed := by
  fun_induction State.levelFor s name with
  | case1 => exact Or.inr rfl
  | case2 _ _ _ _ ih => exact ih
  | case3 => exact Or.inl rfl

/-! ## What loggers decide -/

/-- Name and level alone decide: points do not stand side by side in the name, or the level is one
that suppressed loggers let through too. -/
def IsRegular (name : String) (level : Int) : Prop := HasPlainPoints name ∨ warningLevel ≤ level

/-- A level from the root's on is heard, by suppressed loggers from warnings on. -/
theorem State.Suppresses.isHeard_iff (suppresses : s.Suppresses) {level : Int}
    (regular : IsRegular name level) (enough : s.level ≤ level) :
    s.isHeard name level = true ↔ 0 < level ∧ (IsSuppressed name → warningLevel ≤ level) := by
  unfold State.isHeard
  rw [Bool.and_eq_true, decide_eq_true_eq, decide_eq_true_eq]
  refine and_congr_right fun _ => ?_
  obtain plain | loud := regular
  · rw [suppresses.levelFor_eq plain]
    by_cases suppressed : IsSuppressed name <;> simp [suppressed, enough]
  · -- Which of the two levels the name has does not matter: the record is at or above both.
    refine iff_of_true ?_ fun _ => loud
    obtain same | same := s.levelFor_cases name <;> rw [same]
    · exact enough
    · exact suppresses.level ▸ loud

/-- What loggers remember is what they would decide. -/
def State.Decided (s : State) : Prop :=
  ∀ name level heard, s.decisions.get? (name, level) = some heard → IsRegular name level →
    s.level ≤ level → (heard = true ↔ 0 < level ∧ (IsSuppressed name → warningLevel ≤ level))

/-- The loggers that were asked for stay among them. -/
theorem State.mem_asked {logger : String} (mem : logger ∈ s.loggers) :
    logger ∈ if name ∈ s.loggers then s.loggers else name :: s.loggers := by
  split
  · exact mem
  · exact List.mem_cons_of_mem _ mem

/-- What a logger decides is remembered, and nothing else changes but that the logger was asked
for. -/
theorem State.ask_eq (s : State) (name : String) (level : Int) :
    ∃ loggers decisions, (∀ logger ∈ s.loggers, logger ∈ loggers) ∧
      (s.ask name level).2 = { s with loggers := loggers, decisions := decisions } := by
  unfold State.ask
  dsimp only
  split
  · exact ⟨_, _, fun _ => State.mem_asked, rfl⟩
  · exact ⟨_, _, fun _ => State.mem_asked, rfl⟩

/-- A record is let through by its own level and name, whatever was asked before. -/
theorem State.Suppresses.ask (suppresses : s.Suppresses) (decided : s.Decided) (name : String)
    (level : Int) :
    (IsRegular name level → s.level ≤ level → ((s.ask name level).1 = true ↔
      0 < level ∧ (IsSuppressed name → warningLevel ≤ level))) ∧
    (s.ask name level).2.Suppresses ∧ (s.ask name level).2.Decided := by
  have asked : State.Suppresses
      { s with loggers := if name ∈ s.loggers then s.loggers else name :: s.loggers } :=
    ⟨fun logger mem => State.mem_asked (suppresses.asked logger mem), suppresses.level⟩
  unfold State.ask
  dsimp only
  split
  case h_1 heard found =>
    exact ⟨decided name level heard found, asked, decided⟩
  case h_2 =>
    -- Of what is remembered now, one decision is new and was just made.
    refine ⟨asked.isHeard_iff, ⟨asked.asked, asked.level⟩, ?_⟩
    intro other level' heard found regular enough
    rw [OrderedMap.get?_insert] at found
    split at found
    case isTrue same =>
      obtain ⟨rfl, rfl⟩ := Prod.mk.inj same
      rw [← Option.some.inj found]
      exact asked.isHeard_iff regular enough
    case isFalse => exact decided other level' heard found regular enough

end StorageMetrics.Logging
