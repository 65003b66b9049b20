import StorageMetrics.Host.Basic

/-
  Runs of actions: how single steps run, the host after an action, however it ended, and the parts
  of a host that an action leaves alone. What each step leaves alone, their sequence does.
-/

namespace StorageMetrics.Action

/-! ## Single steps -/

theorem get_run (h : Host) : (get : Action Host) h = .ok h h := rfl

/-- What is known under a number is found there. -/
theorem look_run {find : Host → Option α} {h : Host} {a : α} (found : find h = some a) :
    (do Action.known (find (← get)) : Action α) h = .ok a h := by
  rw [bind_of_ok (get_run h), found]
  rfl

theorem report_run (h : Host) (e : JournalEntry) :
    report e h = .ok () { h with journal := h.journal ++ [e] } := rfl

/-- A step that fails ends the steps after it. -/
theorem bind_of_error {x : Action α} {h h' : Host} {e : Fault} (ran : x h = .error e h')
    (f : α → Action β) : (x >>= f) h = .error e h' := by
  simp [bind, EStateM.bind, ran]

/-- An action of two steps came to its end by way of both of them. -/
theorem ok_of_bind {x : Action α} {f : α → Action β} {h h' : Host} {b : β}
    (ran : (x >>= f) h = .ok b h') : ∃ a g, x h = .ok a g ∧ f a g = .ok b h' := by
  cases hx : x h with
  | ok a g => exact ⟨a, g, rfl, (bind_of_ok hx f).symm.trans ran⟩
  | error e g =>
    rw [bind_of_error hx f] at ran
    cases ran

theorem ok_of_ofExcept {x : Except Fault α} {h h' : Host} {a : α}
    (ran : Action.ofExcept x h = .ok a h') : x = .ok a := by
  cases x with
  | ok b => cases ran; rfl
  | error e => cases ran

/-! ## The host afterwards -/

/-- The host after an action, however it ended. -/
def after (t : Action α) (h : Host) : Host :=
  match t h with
  | .ok _ h => h
  | .error _ h => h

theorem after_of_ok {t : Action α} {a : α} {h h' : Host} (ran : t h = .ok a h') :
    t.after h = h' := by
  rw [after, ran]

theorem after_of_error {t : Action α} {e : Fault} {h h' : Host} (ran : t h = .error e h') :
    t.after h = h' := by
  rw [after, ran]

/-- After a step that succeeds the steps after it go on. -/
theorem after_bind_of_ok {x : Action α} {h h' : Host} {a : α} (ran : x h = .ok a h')
    (f : α → Action β) : (x >>= f).after h = (f a).after h' := by
  rw [after, after, bind_of_ok ran]

/-- The answer of an action, or why it has none. -/
def answer (t : Action α) (h : Host) : Except Fault α :=
  match t h with
  | .ok a _ => .ok a
  | .error e _ => .error e

theorem answer_of_ok {t : Action α} {a : α} {h h' : Host} (ran : t h = .ok a h') :
    t.answer h = .ok a := by
  rw [answer, ran]

theorem answer_of_error {t : Action α} {e : Fault} {h h' : Host} (ran : t h = .error e h') :
    t.answer h = .error e := by
  rw [answer, ran]

theorem ok_of_answer {t : Action α} {a : α} {h : Host} (answered : t.answer h = .ok a) :
    ∃ h', t h = .ok a h' := by
  cases ran : t h with
  | ok b h' =>
    rw [answer_of_ok ran] at answered
    cases answered
    exact ⟨h', rfl⟩
  | error e h' =>
    rw [answer_of_error ran] at answered
    cases answered

/-- What an action gives does not matter for the host after it. -/
theorem after_discard (t : Action α) (h : Host) :
    (do let _ ← t : Action Unit).after h = t.after h := by
  cases ht : t h with
  | ok a h' => rw [after_of_ok ht]; exact after_of_ok (bind_of_ok ht _)
  | error e h' => rw [after_of_error ht]; exact after_of_error (bind_of_error ht _)

theorem outcome_of_ok {t : Action α} {a : α} {h h' : Host} (ran : t h = .ok a h') :
    t.outcome h = .ok (.ok a) h' := by
  rw [outcome, ran]

theorem outcome_of_error {t : Action α} {e : Fault} {h h' : Host} (ran : t h = .error e h') :
    t.outcome h = .ok (.error e) h' := by
  rw [outcome, ran]

/-! ## What an action leaves alone -/

/-- The action changes nothing that this view of the host shows. -/
def Leaves (view : Host → ω) (t : Action α) : Prop := ∀ h, view (t.after h) = view h

namespace Leaves

variable {view : Host → ω} {t : Action α}

theorem pure (a : α) : Leaves view (Pure.pure a : Action α) := fun _ => rfl

theorem throw (e : Fault) : Leaves view (MonadExcept.throw e : Action α) := fun _ => rfl

theorem get : Leaves view (MonadState.get : Action Host) := fun _ => rfl

theorem modify {f : Host → Host} (same : ∀ h, view (f h) = view h) :
    Leaves view (modify f : Action PUnit) := same

theorem bind {f : α → Action β} (first : Leaves view t) (rest : ∀ a, Leaves view (f a)) :
    Leaves view (t >>= f) := by
  intro h
  have before := first h
  cases ran : t h with
  | ok a h' =>
    rw [after_of_ok ran] at before
    rw [after_bind_of_ok ran, rest a h', before]
  | error e h' =>
    rw [after_of_error ran] at before
    rw [after_of_error (bind_of_error ran f), before]

/-- What goes on from the host itself. -/
theorem here {f : Host → Action β} (rest : ∀ h, view ((f h).after h) = view h) :
    Leaves view (MonadState.get >>= f) := by
  intro h
  rw [after_bind_of_ok (get_run h), rest h]

theorem outcome (leaves : Leaves view t) : Leaves view t.outcome := by
  intro h
  have before := leaves h
  cases ran : t h with
  | ok a h' => rwa [after_of_ok (outcome_of_ok ran), ← after_of_ok ran]
  | error e h' => rwa [after_of_ok (outcome_of_error ran), ← after_of_error ran]

theorem ofExcept (x : Except Fault α) : Leaves view (Action.ofExcept x) := by
  cases x with
  | ok a => exact pure a
  | error e => exact throw e

theorem known (x : Option α) : Leaves view (Action.known x) := by
  cases x with
  | some a => exact pure a
  | none => exact throw .unknown

/-- Looking something up by its number. -/
theorem look (find : Host → Option α) :
    Leaves view (do Action.known (find (← MonadState.get)) : Action α) :=
  bind get fun _ => known _

/-- A step that depends on a condition. -/
theorem ite {c : Prop} [Decidable c] {s : Action α} (yes : Leaves view t) (no : Leaves view s) :
    Leaves view (if c then t else s) := by
  split
  · exact yes
  · exact no

/-- Steps behind a condition that ends the action. -/
theorem guard {c : Prop} [Decidable c] {e : Fault} {f : Unit → Action α}
    (rest : ∀ u, Leaves view (f u)) :
    Leaves view (if c then MonadExcept.throw e >>= f else f ()) :=
  ite (bind (throw e) rest) (rest ())

/-- A check that is only made under a condition, and what comes after it. -/
theorem check {c : Prop} [Decidable c] {s : Action PUnit} {f : PUnit → Action α}
    (made : Leaves view s) (rest : ∀ u, Leaves view (f u)) :
    Leaves view (if c then s >>= f else f ⟨⟩) :=
  ite (bind made rest) (rest ⟨⟩)

theorem forM {f : α → Action PUnit} (each : ∀ a, Leaves view (f a)) (xs : List α) :
    Leaves view (xs.forM f) := by
  induction xs with
  | nil => exact pure _
  | cons x rest ih => exact bind (each x) fun _ => ih

theorem mapM {f : α → Action β} (each : ∀ a, Leaves view (f a)) (xs : List α) :
    Leaves view (xs.mapM f) := by
  induction xs with
  | nil => exact pure _
  | cons x rest ih =>
    rw [List.mapM_cons]
    exact bind (each x) fun _ => bind ih fun _ => pure _

/-- What a view does not show, a coarser one does not show either. -/
theorem coarsen {coarse : Host → ω'} (leaves : Leaves view t)
    (coarser : ∀ h h', view h = view h' → coarse h = coarse h') : Leaves coarse t :=
  fun h => coarser _ _ (leaves h)

end Leaves

/-- Steps that change nothing do not show in the host afterwards. -/
theorem after_bind_of_leaves {t : Action α} {f : α → Action β} (still : ∀ a, Leaves id (f a))
    (h : Host) : (t >>= f).after h = t.after h := by
  cases ran : t h with
  | ok a g => rw [after_bind_of_ok ran, after_of_ok ran]; exact still a g
  | error e g => rw [after_of_error (bind_of_error ran f), after_of_error ran]

end StorageMetrics.Action
