import ThrowawayServer.Proofs.Supervisor.History

/-!
# What a single call can do

`Performs` has one rule for each way in which a call on a supervisor can go, with everything that
it does to the process. Every record of a history is one of these, and what holds of all histories
is shown by going through the rules.
-/

set_option autoImplicit false

namespace ThrowawayServer

/-- How a process whose start has failed is brought to its end. -/
inductive StartupEnd : List HostEvent → Prop where
  | exited (reaped : Bool) : StartupEnd [.terminated, .reaped reaped]
  | destroyed (reaped : Bool) : StartupEnd [.terminated, .killed true, .reaped reaped]
  | unkillable : StartupEnd [.terminated, .killed false]

/-- How a process is taken leave of after an escalation: by force if it has survived. -/
inductive ShutdownEnd (reaped : Bool) : List HostEvent → Prop where
  | exited : ShutdownEnd reaped [.reaped reaped]
  | survived (killed : Bool) : ShutdownEnd reaped [.killed killed, .reaped reaped]

/-- What an escalation leaves in a history. -/
structure EscalationEvents (plan : ShutdownPlan) (events : List HostEvent) : Prop where
  actions : ∃ reached, reached <+: ShutdownStep.escalation ∧
    HostEvent.effects events = plan.actions reached
  checks : events.any HostEvent.isCheck = true
  kinds : ∀ event ∈ events, (∃ alive, event = .checked alive) ∨ ∃ effect, event = .acted effect

/-- A call on a supervisor with all that it does. -/
inductive Performs {σ : Type} : CallRecord σ → Prop where
  | startRefused {supervisor : Supervisor} {state : σ} (begun : supervisor.state ≠ .notStarted) :
      Performs
        { call := .start, before := supervisor, stateBefore := state
          answer := .started (.error (.alreadyStarted supervisor.name))
          after := supervisor, stateAfter := state, events := [] }
  | spawnFailed {supervisor : Supervisor} {state next : σ} {error : OsError}
      (fresh : supervisor.state = .notStarted) :
      Performs
        { call := .start, before := supervisor, stateBefore := state
          answer := .started (.error (.spawnFailed supervisor.name error))
          after := { supervisor with state := .startupFailed }, stateAfter := next
          events := [.spawned false] }
  | ready {supervisor : Supervisor} {state next : σ} {process : RunningProcess}
      (fresh : supervisor.state = .notStarted) :
      Performs
        { call := .start, before := supervisor, stateBefore := state
          answer := .started (.ok process)
          after := supervisor.withProcess process, stateAfter := next
          events := [.spawned true] }
  | aborted {supervisor : Supervisor} {state next : σ} {error : SuperviseError}
      {ending : List HostEvent} (fresh : supervisor.state = .notStarted)
      (ends : StartupEnd ending) :
      Performs
        { call := .start, before := supervisor, stateBefore := state
          answer := .started (.error error)
          after := { supervisor with state := .startupFailed }, stateAfter := next
          events := .spawned true :: ending }
  | stopRefused {supervisor : Supervisor} {state : σ}
      (unstopped : ∀ code, supervisor.state ≠ .stopped code)
      (idle : supervisor.state = .running → supervisor.process = none) :
      Performs
        { call := .stop, before := supervisor, stateBefore := state
          answer := .stopped (.error (.notRunning supervisor.name))
          after := supervisor, stateAfter := state, events := [] }
  | stopRepeated {supervisor : Supervisor} {state : σ} {code : Option Int}
      (ended : supervisor.state = .stopped code) :
      Performs
        { call := .stop, before := supervisor, stateBefore := state
          answer := .stopped (.ok code)
          after := supervisor, stateAfter := state, events := [] }
  | stopped {supervisor : Supervisor} {state next : σ} {process : RunningProcess}
      {code : Option Int} {events ending : List HostEvent}
      (running : supervisor.state = .running) (has : supervisor.process = some process)
      (escalation : EscalationEvents (supervisor.shutdownPlan process) events)
      (ends : ShutdownEnd true ending) :
      Performs
        { call := .stop, before := supervisor, stateBefore := state
          answer := .stopped (.ok code)
          after := { supervisor with state := .stopped code, process := none }
          stateAfter := next, events := events ++ ending }
  | unreaped {supervisor : Supervisor} {state next : σ} {process : RunningProcess}
      {error : OsError} {events ending : List HostEvent}
      (running : supervisor.state = .running) (has : supervisor.process = some process)
      (escalation : EscalationEvents (supervisor.shutdownPlan process) events)
      (ends : ShutdownEnd false ending) :
      Performs
        { call := .stop, before := supervisor, stateBefore := state
          answer := .stopped (.error (.unreaped supervisor.name error))
          after := { supervisor with state := .stopped none, process := none }
          stateAfter := next, events := events ++ ending }
  | checkedAbsent {supervisor : Supervisor} {state : σ} (absent : supervisor.process = none) :
      Performs
        { call := .checkAlive, before := supervisor, stateBefore := state
          answer := .alive false
          after := supervisor, stateAfter := state, events := [] }
  | checked {supervisor : Supervisor} {state next : σ} {process : RunningProcess} {alive : Bool}
      (has : supervisor.process = some process) :
      Performs
        { call := .checkAlive, before := supervisor, stateBefore := state
          answer := .alive alive
          after := supervisor, stateAfter := next, events := [.checked alive] }
  | markedAbsent {supervisor : Supervisor} {state : σ} (absent : supervisor.flag = none) :
      Performs
        { call := .mark, before := supervisor, stateBefore := state
          answer := .marked none
          after := supervisor, stateAfter := state, events := [] }
  | marked {supervisor : Supervisor} {state : σ} {flag : ShutdownFlag}
      (has : supervisor.flag = some flag) :
      Performs
        { call := .mark, before := supervisor, stateBefore := state
          answer := .marked (some !flag.isMarked)
          after := { supervisor with flag := some { isMarked := true } }
          stateAfter := state, events := [] }

private theorem Hearing.listen_map {σ τ : Type} (hearing : Hearing σ) (f : σ → τ)
    (classifier : Classifier) (state : σ) :
    (hearing.map f).listen classifier (f state) =
      ((hearing.listen classifier state).1, f (hearing.listen classifier state).2) := by
  induction hearing generalizing classifier state with
  | silent last => by_cases settled : classifier.verdict.isSome <;> simp [map, listen, settled]
  | heard event next later ih =>
      by_cases settled : classifier.verdict.isSome
      · simp [map, listen, settled]
      · simp [map, listen, settled, ih]

namespace ProcessHost

variable {σ : Type}

private theorem logged_attachReaders (host : ProcessHost σ) (classifier : Classifier) (state : σ)
    (log : List HostEvent) :
    host.logged.attachReaders classifier (state, log) =
      ((host.attachReaders classifier state).1, (host.attachReaders classifier state).2, log) :=
  rfl

private theorem logged_awaitVerdict (host : ProcessHost σ) (deadline : Nat)
    (classifier : Classifier) (state : σ) (log : List HostEvent) :
    host.logged.awaitVerdict deadline classifier (state, log) =
      ((host.awaitVerdict deadline classifier state).1,
        (host.awaitVerdict deadline classifier state).2, log) :=
  (host.hearing deadline state).listen_map (·, log) classifier state

private theorem logged_abort (host : ProcessHost σ) (settings : SupervisorSettings)
    (classifier : Classifier) (state : σ) :
    ∃ ending, StartupEnd ending ∧ ∀ log : List HostEvent,
      host.logged.abort settings classifier (state, log) =
        ((host.abort settings classifier state).1, (host.abort settings classifier state).2,
          log ++ ending) := by
  cases waiting : host.awaitExit settings.stepTimeout (host.terminate state).2 with
  | mk exited next =>
      cases exited with
      | true =>
          refine ⟨_, .exited (host.reap next).1.isOk, fun log => ?_⟩
          simp [abort, waiting]
      | false =>
          cases killing : host.kill next with
          | mk result after =>
              cases result with
              | ok =>
                  refine ⟨_, .destroyed (host.reap after).1.isOk, fun log => ?_⟩
                  simp [abort, destroy, waiting, killing, Except.isOk, Except.toBool]
              | error error =>
                  refine ⟨_, .unkillable, fun log => ?_⟩
                  simp [abort, destroy, waiting, killing, Except.isOk, Except.toBool]

private theorem logged_escalate (host : ProcessHost σ) (plan : ShutdownPlan) (state : σ) :
    ∃ events, EscalationEvents plan events ∧ ∀ log : List HostEvent,
      host.logged.escalate plan (state, log) =
        ((host.escalate plan state).1, (host.escalate plan state).2, log ++ events) := by
  obtain ⟨report, log, final, run⟩ := host.toProcessWorld.exists_escalates plan state
  refine ⟨log.map HostEvent.ofExchange, ?_, fun prior => ?_⟩
  · obtain ⟨answers, start, climbed, rfl, climbs⟩ := run.exists_climbs
    constructor
    case actions =>
      rw [HostEvent.effects_ofExchange, Exchange.effects_checks_append]
      exact climbs.effects_eq_actions
    case checks =>
      obtain ⟨earlier, last⟩ := climbs.last_check
      simp [last, HostEvent.ofExchange, HostEvent.isCheck]
    case kinds =>
      intro event member
      obtain ⟨exchange, -, rfl⟩ := List.mem_map.mp member
      cases exchange with
      | checked alive => exact .inl ⟨alive, rfl⟩
      | acted effect delivered before after => exact .inr ⟨effect, rfl⟩
  · rw [run.escalate_eq]
    exact run.noted_escalate_eq HostEvent.ofExchange prior

private theorem logged_bringDown (host : ProcessHost σ) (supervisor : Supervisor)
    (process : RunningProcess) (state : σ) :
    ∃ events ending, EscalationEvents (supervisor.shutdownPlan process) events ∧
      ShutdownEnd (supervisor.bringDown host process state).1.isOk ending ∧
      ∀ log : List HostEvent,
        supervisor.bringDown host.logged process (state, log) =
          ((supervisor.bringDown host process state).1,
            (supervisor.bringDown host process state).2, log ++ (events ++ ending)) := by
  obtain ⟨events, escalation, logged⟩ :=
    logged_escalate host (supervisor.shutdownPlan process) state
  cases plain : host.escalate (supervisor.shutdownPlan process) state with
  | mk report next =>
      rw [plain] at logged
      cases exited : report.exited with
      | true =>
          have same : (supervisor.bringDown host process state).1 = (host.reap next).1 := by
            simp [Supervisor.bringDown, plain, exited]
          refine ⟨events, [.reaped _], escalation, by rw [same]; exact .exited, fun log => ?_⟩
          simp [Supervisor.bringDown, logged, plain, exited]
      | false =>
          have same : (supervisor.bringDown host process state).1 =
              (host.reap (host.kill next).2).1 := by
            simp [Supervisor.bringDown, plain, exited]
          refine ⟨events, [.killed (host.kill next).1.isOk, .reaped _], escalation,
            by rw [same]; exact .survived _, fun log => ?_⟩
          simp [Supervisor.bringDown, logged, plain, exited]

end ProcessHost

namespace Supervisor

variable {σ : Type}

private theorem record_eq {host : ProcessHost σ} {supervisor after : Supervisor}
    {call : SupervisorCall} {state final : σ} {answer : CallAnswer} {events : List HostEvent}
    (plain : supervisor.perform host call state = (answer, after, final))
    (logged : (supervisor.perform host.logged call (state, [])).2.2.2 = events) :
    supervisor.record host call state =
      { call, before := supervisor, stateBefore := state, answer, after, stateAfter := final
        events } := by
  simp [record, plain, logged]

private theorem spawned_start_performs (host : ProcessHost σ) (supervisor : Supervisor)
    {state next : σ} (fresh : supervisor.state = .notStarted)
    (spawning : host.spawn supervisor.settings state = (.ok (), next)) :
    Performs (supervisor.record host .start state) := by
  cases attaching : host.attachReaders { patterns := supervisor.settings.patterns } next with
  | mk attached connected =>
      cases hearing : host.awaitVerdict
          (host.now connected + supervisor.settings.startupTimeout) attached connected with
      | mk heard later =>
          cases outcome : heard.outcome with
          | ready =>
              have plain : ∃ process, supervisor.perform host .start state =
                  (.started (.ok process), supervisor.withProcess process, later) := by
                simp [perform, start, fresh, spawning, attaching, hearing, outcome, withProcess]
              have logged :
                  (supervisor.perform host.logged .start (state, [])).2.2.2 = [.spawned true] := by
                simp [perform, start, fresh, spawning, attaching, hearing, outcome,
                  ProcessHost.logged_attachReaders, ProcessHost.logged_awaitVerdict,
                  Except.isOk, Except.toBool]
              obtain ⟨process, plain⟩ := plain
              rw [record_eq plain logged]
              exact .ready fresh
          | failed _ | closed | notFound =>
              obtain ⟨ending, ends, aborted⟩ :=
                ProcessHost.logged_abort host supervisor.settings heard later
              have plain : ∃ error final, supervisor.perform host .start state =
                  (.started (.error error), { supervisor with state := .startupFailed },
                    final) := by
                simp [perform, start, fresh, spawning, attaching, hearing, outcome]
              have logged :
                  (supervisor.perform host.logged .start (state, [])).2.2.2 =
                    .spawned true :: ending := by
                simp [perform, start, fresh, spawning, attaching, hearing, outcome, aborted,
                  ProcessHost.logged_attachReaders, ProcessHost.logged_awaitVerdict,
                  Except.isOk, Except.toBool]
              obtain ⟨error, final, plain⟩ := plain
              rw [record_eq plain logged]
              exact .aborted fresh ends

private theorem start_performs (host : ProcessHost σ) (supervisor : Supervisor) (state : σ) :
    Performs (supervisor.record host .start state) := by
  by_cases fresh : supervisor.state = .notStarted
  · cases spawning : host.spawn supervisor.settings state with
    | mk result next =>
        cases result with
        | ok => exact spawned_start_performs host supervisor fresh spawning
        | error error =>
            have plain : supervisor.perform host .start state =
                (.started (.error (.spawnFailed supervisor.name error)),
                  { supervisor with state := .startupFailed }, next) := by
              simp [perform, start, fresh, spawning, name]
            have logged : (supervisor.perform host.logged .start (state, [])).2.2.2 =
                [.spawned false] := by
              simp [perform, start, fresh, spawning, Except.isOk, Except.toBool]
            rw [record_eq plain logged]
            exact .spawnFailed fresh
  · have plain : supervisor.perform host .start state =
        (.started (.error (.alreadyStarted supervisor.name)), supervisor, state) := by
      simp [perform, start, fresh, name]
    have logged : (supervisor.perform host.logged .start (state, [])).2.2.2 = [] := by
      simp [perform, start, fresh]
    rw [record_eq plain logged]
    exact .startRefused fresh

private theorem refused_stop_performs (host : ProcessHost σ) (supervisor : Supervisor) (state : σ)
    (unstopped : ∀ code, supervisor.state ≠ .stopped code)
    (idle : supervisor.state = .running → supervisor.process = none) :
    Performs (supervisor.record host .stop state) := by
  have refused : ∀ {τ : Type} (host : ProcessHost τ) (state : τ),
      supervisor.stop host state =
        (.error (.notRunning supervisor.name), supervisor, state) := by
    intro τ host state
    unfold stop
    split
    · next code ended => exact absurd ended (unstopped code)
    · next process running has => rw [idle running] at has; cases has
    · rfl
  have plain : supervisor.perform host .stop state =
      (.stopped (.error (.notRunning supervisor.name)), supervisor, state) := by
    simp [perform, refused]
  have logged : (supervisor.perform host.logged .stop (state, [])).2.2.2 = [] := by
    simp [perform, refused]
  rw [record_eq plain logged]
  exact .stopRefused unstopped idle

private theorem running_stop_performs (host : ProcessHost σ) (supervisor : Supervisor) (state : σ)
    {process : RunningProcess} (running : supervisor.state = .running)
    (has : supervisor.process = some process) :
    Performs (supervisor.record host .stop state) := by
  let stopping := { supervisor with state := .stopping, process := none }
  obtain ⟨events, ending, escalation, ends, broughtDown⟩ :=
    ProcessHost.logged_bringDown host stopping process state
  cases bringing : stopping.bringDown host process state with
  | mk result next =>
      rw [bringing] at ends broughtDown
      have logged : (supervisor.perform host.logged .stop (state, [])).2.2.2 =
          events ++ ending := by
        cases result <;> simp [perform, stop, running, has, stopping, broughtDown]
      cases result with
      | ok code =>
          have plain : supervisor.perform host .stop state =
              (.stopped (.ok code), { supervisor with state := .stopped code, process := none },
                next) := by
            simp [perform, stop, running, has, stopping, bringing]
          rw [record_eq plain logged]
          exact .stopped running has escalation ends
      | error error =>
          have plain : supervisor.perform host .stop state =
              (.stopped (.error (.unreaped supervisor.name error)),
                { supervisor with state := .stopped none, process := none }, next) := by
            simp [perform, stop, running, has, stopping, bringing, name]
          rw [record_eq plain logged]
          exact .unreaped running has escalation ends

private theorem stop_performs (host : ProcessHost σ) (supervisor : Supervisor) (state : σ) :
    Performs (supervisor.record host .stop state) := by
  cases reached : supervisor.state with
  | notStarted | starting | startupFailed | stopping =>
      exact refused_stop_performs host supervisor state (by simp [reached]) (by simp [reached])
  | running =>
      cases has : supervisor.process with
      | none =>
          exact refused_stop_performs host supervisor state (by simp [reached]) (by simp [has])
      | some process => exact running_stop_performs host supervisor state reached has
  | stopped code =>
      have plain : supervisor.perform host .stop state =
          (.stopped (.ok code), supervisor, state) := by
        simp [perform, stop, reached]
      have logged : (supervisor.perform host.logged .stop (state, [])).2.2.2 = [] := by
        simp [perform, stop, reached]
      rw [record_eq plain logged]
      exact .stopRepeated reached

private theorem checkAlive_performs (host : ProcessHost σ) (supervisor : Supervisor) (state : σ) :
    Performs (supervisor.record host .checkAlive state) := by
  cases has : supervisor.process with
  | none =>
      have plain : supervisor.perform host .checkAlive state =
          (.alive false, supervisor, state) := by
        simp [perform, checkAlive, has]
      have logged : (supervisor.perform host.logged .checkAlive (state, [])).2.2.2 = [] := by
        simp [perform, checkAlive, has]
      rw [record_eq plain logged]
      exact .checkedAbsent has
  | some process =>
      have plain : supervisor.perform host .checkAlive state =
          (.alive (host.isAlive state).1, supervisor, (host.isAlive state).2) := by
        simp [perform, checkAlive, has]
      have logged : (supervisor.perform host.logged .checkAlive (state, [])).2.2.2 =
          [.checked (host.isAlive state).1] := by
        simp [perform, checkAlive, has]
      rw [record_eq plain logged]
      exact .checked has

private theorem mark_performs (host : ProcessHost σ) (supervisor : Supervisor) (state : σ) :
    Performs (supervisor.record host .mark state) := by
  cases has : supervisor.flag with
  | none =>
      have plain : supervisor.perform host .mark state = (.marked none, supervisor, state) := by
        simp [perform, mark, has]
      have logged : (supervisor.perform host.logged .mark (state, [])).2.2.2 = [] := by
        simp [perform, mark, has]
      rw [record_eq plain logged]
      exact .markedAbsent has
  | some flag =>
      have plain : supervisor.perform host .mark state =
          (.marked (some !flag.isMarked),
            { supervisor with flag := some { isMarked := true } }, state) := by
        simp [perform, mark, has, ShutdownFlag.mark]
      have logged : (supervisor.perform host.logged .mark (state, [])).2.2.2 = [] := by
        simp [perform, mark, has]
      rw [record_eq plain logged]
      exact .marked has

theorem record_performs (host : ProcessHost σ) (supervisor : Supervisor) (call : SupervisorCall)
    (state : σ) : Performs (supervisor.record host call state) := by
  cases call with
  | start => exact start_performs host supervisor state
  | stop => exact stop_performs host supervisor state
  | checkAlive => exact checkAlive_performs host supervisor state
  | mark => exact mark_performs host supervisor state

end Supervisor

end ThrowawayServer
