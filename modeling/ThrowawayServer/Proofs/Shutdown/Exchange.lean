import ThrowawayServer.Shutdown.Escalation

/-!
# What an escalation asks and does

A log of a run holds its exchanges with the world in order: the answers to its checks, and its
actions with what became of them. Keeping a log does not change a run. A wait leaves nothing but
checks behind, of which only the last one can find the process gone.
-/

set_option autoImplicit false

namespace ThrowawayServer

/-- An action on a process with its receiver. -/
inductive ProcessEffect where
  | send (address : SocketAddress) (payload : Message.Bytes)
  | signal (pid : UInt32) (signal : Signal)
  deriving DecidableEq, Repr

def ProcessEffect.payload? : ProcessEffect → Option Message.Bytes
  | .send _ payload => some payload
  | .signal _ _ => none

/-- A check with its answer, or an action with the states before and after it. -/
inductive Exchange (σ : Type) where
  | checked (alive : Bool)
  | acted (effect : ProcessEffect) (delivered : Bool) (before after : σ)
  deriving DecidableEq, Repr

namespace Exchange

variable {σ : Type}

def effect? : Exchange σ → Option ProcessEffect
  | .checked _ => none
  | .acted effect _ _ _ => some effect

def answer? : Exchange σ → Option Bool
  | .checked alive => some alive
  | .acted _ _ _ _ => none

def isEffect (exchange : Exchange σ) : Bool := exchange.effect?.isSome

@[simp] theorem isEffect_checked (alive : Bool) :
    (checked alive : Exchange σ).isEffect = false := rfl

def effects (log : List (Exchange σ)) : List ProcessEffect := log.filterMap effect?

def answers (log : List (Exchange σ)) : List Bool := log.filterMap answer?

@[simp] theorem effects_nil : effects ([] : List (Exchange σ)) = [] := rfl

@[simp] theorem effects_checked (alive : Bool) (log : List (Exchange σ)) :
    effects (.checked alive :: log) = effects log := rfl

@[simp] theorem effects_acted (effect : ProcessEffect) (delivered : Bool) (before after : σ)
    (log : List (Exchange σ)) :
    effects (.acted effect delivered before after :: log) = effect :: effects log := rfl

@[simp] theorem effects_checks_append (replies : List Bool) (log : List (Exchange σ)) :
    effects (replies.map .checked ++ log) = effects log := by
  induction replies with
  | nil => rfl
  | cons reply replies ih => exact ih

/-- What a wait leaves behind. The last of its checks tells whether the process has exited. -/
def ofWait (answers : List Bool) (exited : Bool) : List (Exchange σ) :=
  (answers ++ [!exited]).map .checked

@[simp] theorem effects_ofWait_append (answers : List Bool) (exited : Bool)
    (log : List (Exchange σ)) : effects (ofWait answers exited ++ log) = effects log :=
  effects_checks_append _ log

@[simp] theorem effects_ofWait (answers : List Bool) (exited : Bool) :
    effects (ofWait answers exited : List (Exchange σ)) = [] := by
  simpa using effects_ofWait_append answers exited ([] : List (Exchange σ))

end Exchange

/-- How a wait can go that begins in a state: the answers to its checks before the last one, whether the
process exited, and the state at the end. -/
abbrev WaitRule (σ : Type) := σ → List Bool → Bool → σ → Prop

/-- What a step does under a plan, if the plan names a receiver for it. -/
def ShutdownPlan.effect? (plan : ShutdownPlan) (step : ShutdownStep) : Option ProcessEffect :=
  match step.action with
  | .send payload => some (.send plan.address payload)
  | .signal signal => plan.pid.map fun pid => .signal pid signal

namespace ProcessWorld

variable {σ ε : Type}

/-- The world with a note of each exchange written down in order beside its state. -/
def noted (world : ProcessWorld σ) (note : Exchange σ → ε) : ProcessWorld (σ × List ε) where
  now := fun (state, _) => world.now state
  sleep := fun time (state, log) => (world.sleep time state, log)
  isAlive := fun (state, log) =>
    let (alive, next) := world.isAlive state
    (alive, next, log ++ [note (.checked alive)])
  send := fun address payload (state, log) =>
    let (result, next) := world.send address payload state
    (result, next, log ++ [note (.acted (.send address payload) result.isOk state next)])
  signal := fun pid signal (state, log) =>
    let (result, next) := world.signal pid signal state
    (result, next, log ++ [note (.acted (.signal pid signal) result.isOk state next)])
  spareChecks := fun (state, _) => world.spareChecks state

abbrev logged (world : ProcessWorld σ) : ProcessWorld (σ × List (Exchange σ)) := world.noted id

/-- The exchanges of a wait. -/
def waitLog (world : ProcessWorld σ) (plan : ShutdownPlan) (state : σ) : List (Exchange σ) :=
  (world.logged.waitForExit plan (state, [])).2.2

@[simp] theorem noted_now (world : ProcessWorld σ) (note : Exchange σ → ε) (state : σ)
    (log : List ε) : (world.noted note).now (state, log) = world.now state := rfl

@[simp] theorem noted_sleep (world : ProcessWorld σ) (note : Exchange σ → ε) (time : Nat)
    (state : σ) (log : List ε) :
    (world.noted note).sleep time (state, log) = (world.sleep time state, log) := rfl

@[simp] theorem noted_isAlive (world : ProcessWorld σ) (note : Exchange σ → ε) (state : σ)
    (log : List ε) :
    (world.noted note).isAlive (state, log) =
      ((world.isAlive state).1, (world.isAlive state).2,
        log ++ [note (.checked (world.isAlive state).1)]) := rfl

private theorem noted_pollUntil (world : ProcessWorld σ) (note : Exchange σ → ε)
    (interval deadline polls : Nat) (state : σ) (log : List ε) :
    (world.noted note).pollUntil interval deadline polls (state, log) =
      ((world.pollUntil interval deadline polls state).1,
        (world.pollUntil interval deadline polls state).2,
        log ++ (world.logged.pollUntil interval deadline polls (state, [])).2.2.map note) := by
  induction polls generalizing ε note state log with
  | zero => simp [pollUntil]
  | succ polls ih =>
      cases checked : world.isAlive state with
      | mk alive next =>
          cases alive with
          | false => simp [pollUntil, checked]
          | true =>
              by_cases late : deadline ≤ world.now next
              · simp [pollUntil, checked, late]
              · have step := ih note (world.sleep interval next) (log ++ [note (.checked true)])
                have logStep := ih id (world.sleep interval next) [Exchange.checked true]
                simp [pollUntil, checked, late, step, logStep]

theorem noted_waitForExit (world : ProcessWorld σ) (note : Exchange σ → ε) (plan : ShutdownPlan)
    (state : σ) (log : List ε) :
    (world.noted note).waitForExit plan (state, log) =
      ((world.waitForExit plan state).1, (world.waitForExit plan state).2,
        log ++ (world.waitLog plan state).map note) :=
  noted_pollUntil world note _ _ _ state log

private theorem logged_pollUntil_checks (world : ProcessWorld σ) (interval deadline polls : Nat)
    (state : σ) :
    ∃ answers, (world.logged.pollUntil interval deadline polls (state, [])).2.2 =
      Exchange.ofWait answers (world.pollUntil interval deadline polls state).1 := by
  induction polls generalizing state with
  | zero => exact ⟨[], by simp [pollUntil, Exchange.ofWait]⟩
  | succ polls ih =>
      cases checked : world.isAlive state with
      | mk alive next =>
          cases alive with
          | false => exact ⟨[], by simp [pollUntil, checked, Exchange.ofWait]⟩
          | true =>
              by_cases late : deadline ≤ world.now next
              · exact ⟨[], by simp [pollUntil, checked, late, Exchange.ofWait]⟩
              · obtain ⟨answers, rest⟩ := ih (world.sleep interval next)
                refine ⟨true :: answers, ?_⟩
                have step := noted_pollUntil world id interval deadline polls
                  (world.sleep interval next) [Exchange.checked true]
                simp [pollUntil, checked, late, step, rest, Exchange.ofWait]

/-- A wait consists of checks, and its last answer is what it comes back with. -/
theorem exists_waitLog_eq (world : ProcessWorld σ) (plan : ShutdownPlan) (state : σ) :
    ∃ answers, world.waitLog plan state =
      Exchange.ofWait answers (world.waitForExit plan state).1 :=
  logged_pollUntil_checks world _ _ _ state

/-- How the waits of an escalation go. -/
def WaitsLimited (world : ProcessWorld σ) (plan : ShutdownPlan) : WaitRule σ :=
  fun state answers exited final =>
    world.waitForExit plan state = (exited, final) ∧
      world.waitLog plan state = Exchange.ofWait answers exited

theorem exists_waitsLimited (world : ProcessWorld σ) (plan : ShutdownPlan) (state : σ) :
    ∃ answers exited final, world.WaitsLimited plan state answers exited final := by
  obtain ⟨answers, log⟩ := exists_waitLog_eq world plan state
  exact ⟨answers, _, _, rfl, log⟩

theorem noted_deliver (world : ProcessWorld σ) (note : Exchange σ → ε) (plan : ShutdownPlan)
    (step : ShutdownStep) (effect : ProcessEffect) (act : plan.effect? step = some effect)
    (state : σ) (log : List ε) :
    (world.noted note).deliver plan step (state, log) =
      ((world.deliver plan step state).1, (world.deliver plan step state).2,
        log ++ [note (.acted effect (world.deliver plan step state).1 state
          (world.deliver plan step state).2)]) := by
  unfold ShutdownPlan.effect? at act
  cases action : step.action with
  | send payload =>
      simp only [action, Option.some.injEq] at act
      subst act
      simp [deliver, action, noted]
  | signal signal =>
      cases known : plan.pid with
      | none => simp [action, known] at act
      | some pid =>
          simp only [action, known, Option.map_some, Option.some.injEq] at act
          subst act
          simp [deliver, action, known, noted]

theorem exists_effect_of_skip?_eq_none (plan : ShutdownPlan) (step : ShutdownStep)
    (tried : plan.skip? step = none) : ∃ effect, plan.effect? step = some effect := by
  cases action : step.action with
  | send payload => exact ⟨_, by simp only [ShutdownPlan.effect?, action]; rfl⟩
  | signal signal =>
      cases known : plan.pid with
      | none => simp [ShutdownPlan.skip?, action, known] at tried
      | some pid => exact ⟨_, by simp only [ShutdownPlan.effect?, action, known]; rfl⟩

end ProcessWorld

end ThrowawayServer
