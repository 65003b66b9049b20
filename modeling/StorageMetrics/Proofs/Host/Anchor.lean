import StorageMetrics.Proofs.Host.Founding

/-
  Programs over the anchor of the process: calls that publish, read or clear a context, work that
  has nothing to do with the anchor, and isolated blocks, one inside the other to any depth. A
  program goes on as it likes after what a call told it and after what a block ended with, so it may
  catch a failure or let it end the blocks around it.

  A run is told moment by moment. `Moment.first` keeps the context of the first publication since
  the anchor was last cleared, by what the calls told alone; what is published is this context at
  every moment of every run (`Follows`, by induction on the program), so that
  * a call after that publication tells its context, and leaves the whole host as it was;
  * a factory runs only where nothing is published, and one that fails publishes nothing;
  * a block, however it is left, leaves behind the context that it found
  (`anchor_keeps_first`).
-/

namespace StorageMetrics

open StorageMetrics.Action

namespace Host

/-! ## Calls -/

/-- What makes a context, or fails, and does not touch the anchor. -/
structure Factory where
  make : Action Item
  leaves : Leaves Host.anchor make

/-- The factory of the contexts that the process asks for. -/
def ContextRequest.factory (r : ContextRequest) (engine : Item) : Factory where
  make := Host.createContext { r with engine := engine }
  leaves := Host.createContext_leaves _

/-- The calls on the anchor. -/
inductive AnchorCall where
  | publish (context : Item)
  | create (factory : Factory)
  | ask (engine : Option Item) (request : ContextRequest)
  | read
  | clear

namespace AnchorCall

/-- The calls that publish or read, and tell what is published. -/
def tells : AnchorCall → Bool
  | clear => false
  | _ => true

/-- The factory that a call may have to run. -/
def factory? : AnchorCall → Option Factory
  | create f => some f
  | ask (some engine) r => some (r.factory engine)
  | _ => none

theorem tells_of_factory {c : AnchorCall} {f : Factory} (runs : c.factory? = some f) : c.tells := by
  cases c with
  | clear => cases runs
  | _ => rfl

def run : AnchorCall → Action Anchor
  | publish context => Host.publish context
  | create f => Host.createIfAbsent f.make
  | ask engine r => Host.processContext engine fun e => (r.factory e).make
  | read => Host.published
  | clear => do
      Host.clearAnchor
      return none

theorem published_run {h : Host} {a : Anchor} (found : h.anchor = a) : published h = .ok a h := by
  rw [← found]
  rfl

theorem publish_run (context : Item) {h : Host} {a : Anchor} (found : h.anchor = a) :
    (publish context).run h = .ok (Anchor.publish a (Anchor.ofItem context))
      { h with anchor := Anchor.publish a (Anchor.ofItem context) } := by
  rw [← found]
  rfl

/-- Where a context is published, a call tells it, and does nothing else. -/
theorem run_published {c : AnchorCall} (tells : c.tells) {h : Host} {x : Item}
    (found : h.anchor = some x) : c.run h = .ok (some x) h := by
  cases c with
  | publish context =>
    rw [publish_run context found, Anchor.publish, ← found]
  | create f => exact bind_of_ok (published_run found) _
  | ask engine r => exact bind_of_ok (published_run found) _
  | read => exact published_run found
  | clear => cases tells

/-- Where nothing is published, a call with a factory goes to work with it. -/
theorem run_of_factory {c : AnchorCall} {f : Factory} (runs : c.factory? = some f) {h : Host}
    (free : h.anchor = none) : c.run h = (do
      let made := Anchor.ofItem (← f.make)
      modify fun h => { h with anchor := made }
      return made : Action Anchor) h := by
  have created (f : Factory) : createIfAbsent f.make h = (do
      let made := Anchor.ofItem (← f.make)
      modify fun h => { h with anchor := made }
      return made : Action Anchor) h := bind_of_ok (published_run free) _
  cases c with
  | create => cases runs; exact created f
  | ask engine r =>
    cases engine with
    | none => cases runs
    | some e => cases runs; exact (bind_of_ok (published_run free) _).trans (created _)
  | publish | read | clear => cases runs

/-- What the factory makes is published, and told. -/
theorem run_makes {c : AnchorCall} {f : Factory} (runs : c.factory? = some f) {h made : Host}
    {item : Item} (free : h.anchor = none) (ran : f.make h = .ok item made) :
    c.run h = .ok (Anchor.ofItem item) { made with anchor := Anchor.ofItem item } :=
  (run_of_factory runs free).trans (bind_of_ok ran _)

/-- A call fails with its factory. -/
theorem run_fails {c : AnchorCall} {f : Factory} (runs : c.factory? = some f) {h failed : Host}
    {e : Fault} (free : h.anchor = none) (ran : f.make h = .error e failed) :
    c.run h = .error e failed :=
  (run_of_factory runs free).trans (bind_of_error ran _)

/-- Where nothing is published, a call leaves published what it tells, and nothing if it fails. -/
theorem told_of_free {c : AnchorCall} (tells : c.tells) {h : Host} (free : h.anchor = none) :
    (after c.run h).anchor = (answer c.run h).toOption.join := by
  have makes {f : Factory} (runs : c.factory? = some f) :
      (after c.run h).anchor = (answer c.run h).toOption.join := by
    cases ran : f.make h with
    | ok item made =>
      rw [after_of_ok (run_makes runs free ran), answer_of_ok (run_makes runs free ran)]
      rfl
    | error e failed =>
      have same := f.leaves h
      rw [after_of_error ran] at same
      rw [after_of_error (run_fails runs free ran), answer_of_error (run_fails runs free ran), same,
        free]
      rfl
  cases c with
  | publish context => rfl
  | create f => exact makes rfl
  | ask engine r =>
    cases engine with
    | some e => exact makes rfl
    | none =>
      have failed : (ask none r).run h = .error .noContext h := bind_of_ok (published_run free) _
      rw [after_of_error failed, answer_of_error failed]
      exact free
  | read =>
    have told : AnchorCall.read.run h = .ok none h := published_run free
    rw [after_of_ok told, answer_of_ok told]
    exact free
  | clear => cases tells

end AnchorCall

/-! ## Programs -/

/-- Work that does not touch the anchor. -/
structure Work where
  run : Host → Host
  leaves : ∀ h, (run h).anchor = h.anchor

/-- Owners at work. -/
def Write.work (w : Write) : Work := ⟨w.after, w.anchor_eq⟩

/-- Programs over the anchor. -/
inductive Program where
  | done (outcome : Except Fault Unit)
  | work (w : Work) (next : Host → Program)
  | call (c : AnchorCall) (next : Except Fault Anchor → Program)
  | isolated (exportName : Value) (body : Nat → Program) (next : Except Fault Unit → Program)

/-- What happens to the anchor in a run: calls, with the hosts around them, and blocks entered and
left. -/
inductive Moment where
  | called (c : AnchorCall) (start : Host) (told : Except Fault Anchor) (finish : Host)
  | entered (start : Host)
  | left (start finish : Host)

/-- A run of a program: its moments in turn, how it ended, and the host afterwards. -/
structure Run where
  moments : List Moment
  outcome : Except Fault Unit
  host : Host

/-- The run with these moments before it. -/
def Run.past (ms : List Moment) (r : Run) : Run := { r with moments := ms ++ r.moments }

/-- What a block gives that runs so, and the host afterwards. -/
def Run.ended (r : Run) : (List Moment × Except Fault Unit) × Host :=
  ((r.moments, r.outcome), r.host)

def Program.run : Program → Host → Run
  | .done outcome, h => ⟨[], outcome, h⟩
  | .work w next, h => (next (w.run h)).run (w.run h)
  | .call c next, h =>
    Run.past [.called c h (answer c.run h) (after c.run h)] <|
      (next (answer c.run h)).run (after c.run h)
  | .isolated exportName body next, h =>
    match Host.isolated exportName (fun registry g => ((body registry).run g).ended) h with
    | .ok (inner, outcome) g =>
      Run.past (.entered h :: (inner ++ [.left h g])) ((next outcome).run g)
    | .error e g => Run.past [.entered h, .left h g] ((next (.error e)).run g)

namespace Moment

/-- The context of the first publication since the anchor was last cleared, after one more moment.
To enter a block is to clear the anchor; to leave it is to clear the anchor and to publish what was
published when the block was entered. -/
def first : Anchor → Moment → Anchor
  | _, called .clear _ _ _ => none
  | some x, called _ _ _ _ => some x
  | none, called _ _ told _ => told.toOption.join
  | _, entered _ => none
  | _, left start _ => start.anchor

/-- What a moment tells about the anchor is so, if this is the first publication before it. -/
def Holds (a : Anchor) : Moment → Prop
  | called c start told finish =>
    start.anchor = a ∧ told = answer c.run start ∧ finish = after c.run start
  | entered start => start.anchor = a
  | left start finish => finish.anchor = start.anchor

theorem first_of_free {c : AnchorCall} (tells : c.tells) (start : Host)
    (told : Except Fault Anchor) (finish : Host) :
    first none (called c start told finish) = told.toOption.join := by
  cases c with
  | clear => cases tells
  | _ => rfl

theorem holds_called (c : AnchorCall) (h : Host) :
    (called c h (answer c.run h) (after c.run h)).Holds h.anchor := ⟨rfl, rfl, rfl⟩

/-- What is published after a call is the first publication, counted on by what the call told. -/
theorem first_called (c : AnchorCall) (h : Host) :
    first h.anchor (called c h (answer c.run h) (after c.run h)) = (after c.run h).anchor := by
  by_cases tells : c.tells
  · cases found : h.anchor with
    | some x =>
      have ran := AnchorCall.run_published tells found
      rw [answer_of_ok ran, after_of_ok ran, found]
      cases c <;> first | rfl | cases tells
    | none =>
      rw [first_of_free tells]
      exact (AnchorCall.told_of_free tells found).symm
  · cases c with
    | clear => rfl
    | _ => exact absurd rfl tells

end Moment

/-- These moments follow each other from one first publication to another. -/
inductive Follows : Anchor → List Moment → Anchor → Prop where
  | nil (a : Anchor) : Follows a [] a
  | cons {m : Moment} {ms : List Moment} {a b : Anchor} (holds : m.Holds a)
      (rest : Follows (m.first a) ms b) : Follows a (m :: ms) b

namespace Follows

variable {a b c : Anchor} {ms ns : List Moment}

theorem append (before : Follows a ms b) (rest : Follows b ns c) : Follows a (ms ++ ns) c := by
  induction before with
  | nil => exact rest
  | cons holds _ ih => exact .cons holds (ih rest)

/-- Each moment holds of the first publication before it. -/
theorem holds_at (follows : Follows a ms b) {earlier later : List Moment} {m : Moment}
    (split : ms = earlier ++ m :: later) : m.Holds (earlier.foldl Moment.first a) := by
  induction earlier generalizing a ms with
  | nil =>
    subst split
    cases follows with
    | cons holds _ => exact holds
  | cons n earlier ih =>
    subst split
    cases follows with
    | cons _ rest => exact ih rest rfl

theorem holds_of_mem (follows : Follows a ms b) {m : Moment} (mem : m ∈ ms) :
    ∃ first, m.Holds first := by
  obtain ⟨earlier, later, split⟩ := List.append_of_mem mem
  exact ⟨_, follows.holds_at split⟩

end Follows

/-- A block runs without a published context, if it comes to run, and leaves behind the one that it
found. -/
theorem isolated_run (exportName : Value) (body : Nat → Host → α × Host) (h : Host) :
    ∃ left, left.anchor = h.anchor ∧
      ((∃ e, isolated exportName body h = .error e left) ∨
        ∃ registry g, g.anchor = none ∧
          isolated exportName body h = .ok (body registry g).1 left) := by
  have cleared := addPrivateRegistry_anchor exportName { h with anchor := none }
  cases ran : addPrivateRegistry exportName { h with anchor := none } with
  | error e g =>
    refine ⟨{ g with anchor := h.anchor }, rfl, .inl ⟨e, ?_⟩⟩
    simp only [isolated, ran, Anchor.leave_eq]
  | ok registry g =>
    rw [after_of_ok ran] at cleared
    refine ⟨{ (body registry g).2 with anchor := h.anchor }, rfl, .inr ⟨registry, g, cleared, ?_⟩⟩
    simp only [isolated, ran, Anchor.leave_eq]

/-- Whatever a program does, what is published is the first publication since the anchor was last
cleared. -/
theorem Program.follows (p : Program) (h : Host) :
    Follows h.anchor (p.run h).moments (p.run h).host.anchor := by
  induction p generalizing h with
  | done outcome => exact .nil _
  | work w next ih =>
    have rest := ih (w.run h) (w.run h)
    rwa [w.leaves h] at rest
  | call c next ih =>
    refine .cons (Moment.holds_called c h) ?_
    rw [Moment.first_called]
    exact ih _ _
  | isolated exportName body next inner rest =>
    obtain ⟨left, same, ran⟩ := isolated_run exportName
      (fun registry g => ((body registry).run g).ended) h
    have goesOn (outcome : Except Fault Unit) {a : Anchor} :
        Follows a (.left h left :: ((next outcome).run left).moments)
          ((next outcome).run left).host.anchor := by
      have after := rest outcome left
      rw [same] at after
      exact .cons same after
    obtain ⟨e, ran⟩ | ⟨registry, g, cleared, ran⟩ := ran
    · simp only [Program.run, ran]
      exact .cons rfl (goesOn _)
    · have within := inner registry g
      rw [cleared] at within
      simp only [Program.run, ran]
      simp only [Run.past, Run.ended, List.cons_append, List.append_assoc, List.nil_append]
      exact .cons rfl (within.append (goesOn _))

/-- In every run of every program over the anchor, what is published is the first publication since
the anchor was last cleared, and a call that publishes or reads tells it once there is one; where
nothing is published, a context that is offered gets published; a factory runs nowhere else, and
what it makes gets published, or nothing if it fails; and whoever leaves a block finds what was
published when it was entered. -/
theorem anchor_keeps_first (p : Program) (h : Host) :
    (∀ earlier c start told finish later,
      (p.run h).moments = earlier ++ .called c start told finish :: later →
      start.anchor = earlier.foldl Moment.first h.anchor ∧
        ∀ x, earlier.foldl Moment.first h.anchor = some x → c.tells → told = .ok (some x)) ∧
    (∀ context start told finish, .called (.publish context) start told finish ∈ (p.run h).moments →
      start.anchor = none →
      told = .ok (Anchor.ofItem context) ∧ finish.anchor = Anchor.ofItem context) ∧
    (∀ c start told finish f, .called c start told finish ∈ (p.run h).moments →
      c.factory? = some f →
      (start.anchor ≠ none → finish = start) ∧
      (start.anchor = none →
        (∀ item made, f.make start = .ok item made → told = .ok (Anchor.ofItem item) ∧
          finish = { made with anchor := Anchor.ofItem item }) ∧
        ∀ e failed, f.make start = .error e failed →
          told = .error e ∧ finish = failed ∧ finish.anchor = none)) ∧
    ∀ start finish, .left start finish ∈ (p.run h).moments → finish.anchor = start.anchor := by
  have follows := p.follows h
  refine ⟨?_, ?_, ?_, ?_⟩
  · intro earlier c start told finish later split
    obtain ⟨published, rfl, -⟩ := follows.holds_at split
    refine ⟨published, fun x first tells => ?_⟩
    exact answer_of_ok (AnchorCall.run_published tells (published.trans first))
  · intro context start told finish mem free
    obtain ⟨_, -, rfl, rfl⟩ := follows.holds_of_mem mem
    have ended := AnchorCall.publish_run context free
    exact ⟨answer_of_ok ended, congrArg Host.anchor (after_of_ok ended)⟩
  · intro c start told finish f mem runs
    obtain ⟨_, -, rfl, rfl⟩ := follows.holds_of_mem mem
    refine ⟨fun taken => ?_, fun free => ⟨fun item made ran => ?_, fun e failed ran => ?_⟩⟩
    · obtain ⟨x, found⟩ := Option.ne_none_iff_exists'.mp taken
      exact after_of_ok (AnchorCall.run_published (AnchorCall.tells_of_factory runs) found)
    · have ended := AnchorCall.run_makes runs free ran
      exact ⟨answer_of_ok ended, after_of_ok ended⟩
    · have ended := AnchorCall.run_fails runs free ran
      have same := f.leaves start
      rw [after_of_error ran, free] at same
      exact ⟨answer_of_error ended, after_of_error ended, (after_of_error ended).symm ▸ same⟩
  · intro start finish mem
    obtain ⟨_, same⟩ := follows.holds_of_mem mem
    exact same

/-- A context is published, an owner writes, and then a block publishes another context. -/
def publishTwice : Program :=
  .call (.publish (.context 0)) fun _ =>
    .work (Write.increase ⟨0, .counter⟩ (.int 1)).work fun _ =>
      .isolated (.str "db") (fun _ => .call (.publish (.context 1)) fun _ => .done (.ok ()))
        fun _ => .call .read fun _ => .done (.ok ())

/-- The block is told its own context, and whoever reads after it the one that was published first. -/
theorem anchor_keeps_first_publishTwice :
    ∃ start inner finish start' told finish' before between,
      (publishTwice.run {}).moments =
        before ++ .called (.publish (.context 1)) start inner finish :: between ++
          [.called .read start' told finish'] ∧
      inner = .ok (some (.context 1)) ∧ told = .ok (some (.context 0)) := by
  obtain ⟨tells, publishes, -⟩ := anchor_keeps_first publishTwice {}
  refine ⟨_, _, _, _, _, _, [_, _], [_], rfl, ?_, ?_⟩
  · have within : .called (.publish (.context 1)) _ _ _ ∈ (publishTwice.run {}).moments :=
      List.mem_cons_of_mem _ (List.mem_cons_of_mem _ List.mem_cons_self)
    exact (publishes (.context 1) _ _ _ within rfl).1
  · exact (tells [_, _, _, _] .read _ _ _ [] rfl).2 (.context 0) rfl rfl

end Host

end StorageMetrics
