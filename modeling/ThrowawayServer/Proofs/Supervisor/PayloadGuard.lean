import ThrowawayServer.Proofs.Supervisor.Course

/-!
# Guarding the shutdown commands

A shutdown command is not authenticated: whoever can reach the port could send one, and a server
on another machine would obey it. Over the whole life of a supervisor such commands go nowhere but
to the configured address, and only if that is the host itself; there are at most two of them, and
none once somebody has marked the flag. Signals go only to the process number that was read at the
start.
-/

set_option autoImplicit false

namespace ThrowawayServer

theorem IpAddress.isLoopback_iff (ip : IpAddress) :
    ip.isLoopback ↔
      (∃ b c d, ip = .v4 ⟨127, b, c, d⟩) ∨
        ip = .v6 ⟨#v[0, 0, 0, 0, 0, 0, 0, 1]⟩ := by
  cases ip with
  | v4 address =>
      cases address with
      | mk a b c d => simp [isLoopback]
  | v6 address =>
      cases address with
      | mk groups =>
          constructor
          · intro loopback
            have same : groups.toList = (#v[0, 0, 0, 0, 0, 0, 0, 1] : Vector UInt16 8).toList := by
              simpa [isLoopback] using loopback
            exact .inr (by rw [Vector.toList_inj.mp same])
          · intro known
            rcases known with ⟨b, c, d, same⟩ | same
            · cases same
            · cases same
              rfl

namespace ShutdownPlan

variable {plan : ShutdownPlan} {reached : List ShutdownStep}

theorem mem_actions {effect : ProcessEffect} (member : effect ∈ plan.actions reached) :
    ∃ step, plan.skip? step = none ∧ plan.effect? step = some effect := by
  obtain ⟨step, kept, act⟩ := List.mem_filterMap.mp member
  exact ⟨step, Option.isNone_iff_eq_none.mp (List.mem_filter.mp kept).2, act⟩

theorem send_mem_actions {address : SocketAddress} {payload : Message.Bytes}
    (member : .send address payload ∈ plan.actions reached) :
    address = plan.address ∧ plan.commandSkip? = none := by
  obtain ⟨step, tried, act⟩ := mem_actions member
  cases action : step.action with
  | send known =>
      simp only [effect?, action, Option.some.injEq, ProcessEffect.send.injEq] at act
      refine ⟨act.1.symm, ?_⟩
      simpa only [skip?, action] using tried
  | signal known =>
      cases pid : plan.pid <;> simp [effect?, action, pid] at act

theorem signal_mem_actions {pid : UInt32} {signal : Signal}
    (member : .signal pid signal ∈ plan.actions reached) : plan.pid = some pid := by
  obtain ⟨step, -, act⟩ := mem_actions member
  cases action : step.action with
  | send known => simp [effect?, action] at act
  | signal known =>
      cases pid : plan.pid with
      | none => simp [effect?, action, pid] at act
      | some number =>
          simp only [effect?, action, pid, Option.map_some, Option.some.injEq,
            ProcessEffect.signal.injEq] at act
          rw [act.1]

theorem payloads_actions_escalation (plan : ShutdownPlan) :
    (plan.actions ShutdownStep.escalation).filterMap ProcessEffect.payload? <+:
      [Message.legacyShutdown, Message.shutdown] := by
  cases skip : plan.commandSkip? with
  | none =>
      have commands : (plan.actions ShutdownStep.escalation).filterMap ProcessEffect.payload? =
          [Message.legacyShutdown, Message.shutdown] := by
        cases pid : plan.pid <;>
          simp [actions, ShutdownStep.escalation, skip?, effect?, ShutdownStep.action, skip, pid,
            ProcessEffect.payload?, List.filterMap_cons]
      exact ⟨[], by rw [commands, List.append_nil]⟩
  | some reason =>
      have commands : (plan.actions ShutdownStep.escalation).filterMap ProcessEffect.payload? =
          [] := by
        cases pid : plan.pid <;>
          simp [actions, ShutdownStep.escalation, skip?, effect?, ShutdownStep.action, skip, pid,
            ProcessEffect.payload?]
      rw [commands]
      exact List.nil_prefix

theorem payloads_actions (before : reached <+: ShutdownStep.escalation) :
    (plan.actions reached).filterMap ProcessEffect.payload? <+:
      [Message.legacyShutdown, Message.shutdown] :=
  (((before.filter _).filterMap _).filterMap _).trans plan.payloads_actions_escalation

end ShutdownPlan

variable {σ : Type}

def CallRecord.started? (record : CallRecord σ) : Option RunningProcess :=
  match record.answer with
  | .started (.ok process) => some process
  | _ => none

/-- Whether a call marked the flag of a process. -/
def CallRecord.marks (record : CallRecord σ) : Bool :=
  match record.answer with
  | .marked (some _) => true
  | _ => false

theorem StartupEnd.effects_eq_nil {events : List HostEvent} (ends : StartupEnd events) :
    HostEvent.effects events = [] := by
  cases ends <;> rfl

theorem ShutdownEnd.effects_eq_nil {reaped : Bool} {events : List HostEvent}
    (ends : ShutdownEnd reaped events) : HostEvent.effects events = [] := by
  cases ends <;> rfl

namespace Performs

variable {record : CallRecord σ}

/-- Only the stop of a running process acts on it, and that is the last stop that does. -/
theorem effects_cases (performs : Performs record) :
    record.effects = [] ∨
      ∃ process reached, record.call = .stop ∧ record.before.state = .running ∧
        record.before.process = some process ∧ record.after.state.isTerminal ∧
        reached <+: ShutdownStep.escalation ∧
        record.effects = (record.before.shutdownPlan process).actions reached := by
  cases performs with
  | startRefused | spawnFailed | ready | stopRefused | stopRepeated | checkedAbsent | checked
  | markedAbsent | marked => exact .inl rfl
  | aborted _ ends => exact .inl ends.effects_eq_nil
  | stopped running has escalation ends | unreaped running has escalation ends =>
      obtain ⟨reached, before, actions⟩ := escalation.actions
      refine .inr ⟨_, reached, rfl, running, has, rfl, before, ?_⟩
      rw [CallRecord.effects, HostEvent.effects_append, ends.effects_eq_nil, List.append_nil,
        actions]

theorem idle_when_ended (performs : Performs record)
    (terminal : record.before.state.isTerminal) : record.effects = [] := by
  rcases performs.effects_cases with none | ⟨_, _, _, running, _⟩
  · exact none
  · rw [running] at terminal
    cases terminal

theorem started?_eq_none (performs : Performs record)
    (begun : record.before.state ≠ .notStarted) : record.started? = none := by
  cases performs with
  | ready fresh => exact absurd fresh begun
  | startRefused | spawnFailed | aborted | stopRefused | stopRepeated | stopped | unreaped
  | checkedAbsent | checked | markedAbsent | marked => rfl

theorem stays_marked {settings : SupervisorSettings} (performs : Performs record)
    (steady : Supervisor.Steady settings record.before)
    (shutDown : record.before.isShutDown) : record.after.isShutDown := by
  cases performs with
  | startRefused | spawnFailed | aborted | stopRefused | stopRepeated | stopped | unreaped
  | checkedAbsent | checked | markedAbsent => exact shutDown
  | marked => rfl
  | ready fresh =>
      -- A supervisor that has not started its process has no flag that could be marked.
      cases steady with
      | fresh => cases shutDown
      | startupFailed | running | stopped => cases fresh

theorem marked_after (performs : Performs record) (marks : record.marks) :
    record.after.isShutDown := by
  cases performs with
  | startRefused | spawnFailed | ready | aborted | stopRefused | stopRepeated | stopped | unreaped
  | checkedAbsent | checked | markedAbsent => cases marks
  | marked => rfl

end Performs

namespace Course

variable {settings : SupervisorSettings} {first last : Supervisor} {records : List (CallRecord σ)}

theorem marked_last (course : Course first records last)
    (steady : Supervisor.Steady settings first)
    (marked : first.isShutDown ∨ ∃ record ∈ records, record.marks) : last.isShutDown := by
  induction course with
  | rest =>
      rcases marked with marked | ⟨record, member, _⟩
      · exact marked
      · cases member
  | call begins performs _ ih =>
      subst begins
      refine ih (performs.steady steady) ?_
      rcases marked with marked | ⟨marking, member, marks⟩
      · exact .inl (performs.stays_marked steady marked)
      · rcases List.mem_cons.mp member with rfl | member
        · exact .inl (performs.marked_after marks)
        · exact .inr ⟨marking, member, marks⟩

theorem started_eq_nil (course : Course first records last) (begun : first.state ≠ .notStarted) :
    records.filterMap CallRecord.started? = [] := by
  induction course with
  | rest => rfl
  | call begins performs _ ih =>
      subst begins
      rw [List.filterMap_cons_none (performs.started?_eq_none begun)]
      exact ih (performs.stays_begun begun)

theorem started_at_most_once (course : Course first records last) :
    ∃ captured : Option RunningProcess,
      records.filterMap CallRecord.started? = captured.toList := by
  induction course with
  | rest => exact ⟨none, rfl⟩
  | @call _ _ record _ begins performs later ih =>
      cases started : record.started? with
      | none => rwa [List.filterMap_cons_none started]
      | some process =>
          have begun : record.after.state ≠ .notStarted := by
            cases performs <;> cases started
            exact SupervisorState.noConfusion
          refine ⟨some process, ?_⟩
          rw [List.filterMap_cons_some started, later.started_eq_nil begun]
          rfl

theorem process_captured (course : Course first records last) {process : RunningProcess}
    (has : last.process = some process) :
    first.process = some process ∨ process ∈ records.filterMap CallRecord.started? := by
  induction course with
  | rest => exact .inl has
  | call begins performs _ ih =>
      subst begins
      rcases ih has with has | member
      · cases performs with
        | startRefused | spawnFailed | aborted | stopRefused | stopRepeated | checkedAbsent
        | checked | markedAbsent | marked => exact .inl has
        | ready =>
            obtain rfl := Option.some.inj has
            exact .inr (List.mem_cons_self ..)
        | stopped | unreaped => cases has
      · refine .inr ?_
        rw [List.mem_filterMap] at member ⊢
        obtain ⟨record, member, started⟩ := member
        exact ⟨record, List.mem_cons_of_mem _ member, started⟩

theorem payloads_when_ended (course : Course first records last)
    (terminal : first.state.isTerminal) : records.flatMap CallRecord.payloads = [] := by
  induction course with
  | rest => rfl
  | call begins performs _ ih =>
      subst begins
      have none := performs.idle_when_ended terminal
      rw [← performs.terminal_kept terminal] at terminal
      rw [List.flatMap_cons, CallRecord.payloads, none, ih terminal]
      rfl

theorem payloads_prefix (course : Course first records last) :
    records.flatMap CallRecord.payloads <+: [Message.legacyShutdown, Message.shutdown] := by
  induction course with
  | rest => exact List.nil_prefix
  | call begins performs later ih =>
      rw [List.flatMap_cons, CallRecord.payloads]
      rcases performs.effects_cases with
        none | ⟨process, reached, -, -, -, ended, before, actions⟩
      · rw [none]
        exact ih
      · rw [later.payloads_when_ended ended, actions, List.append_nil]
        exact ShutdownPlan.payloads_actions before

end Course

/-- What keeps the shutdown commands of a supervisor, which anybody could send, on the host itself.
-/
structure PayloadGuarded (settings : SupervisorSettings) (life : List (CallRecord σ)) : Prop where
  sends : ∀ record ∈ life, ∀ address payload, .send address payload ∈ record.effects →
    record.call = .stop ∧ address = settings.address ∧
      ((∃ b c d, address.ip = .v4 ⟨127, b, c, d⟩) ∨ address.ip = .v6 ⟨#v[0, 0, 0, 0, 0, 0, 0, 1]⟩)
  silent_once_marked : ∀ earlier record later, life = earlier ++ record :: later →
    (∃ marking ∈ earlier, marking.marks) → record.payloads = []
  payloads : life.flatMap CallRecord.payloads <+: [Message.legacyShutdown, Message.shutdown]
  signals : ∀ earlier record later, life = earlier ++ record :: later →
    ∀ pid signal, .signal pid signal ∈ record.effects →
      record.call = .stop ∧ ∃ process, earlier.filterMap CallRecord.started? = [process] ∧
        process.pid = some pid
  no_signals : ∀ process ∈ life.filterMap CallRecord.started?, process.pid = none →
    ∀ record ∈ life, ∀ pid signal, .signal pid signal ∉ record.effects

namespace Course

variable {settings : SupervisorSettings} {last : Supervisor} {life : List (CallRecord σ)}

theorem send_guarded (course : Course { settings } life last) {record : CallRecord σ}
    (member : record ∈ life) {address : SocketAddress} {payload : Message.Bytes}
    (sent : .send address payload ∈ record.effects) :
    record.call = .stop ∧ address = settings.address ∧ address.ip.isLoopback ∧
      record.before.isShutDown = false := by
  obtain ⟨steady, performs⟩ := course.of_mem .fresh member
  rcases performs.effects_cases with none | ⟨process, reached, stop, -, -, -, -, actions⟩
  · rw [none] at sent
    cases sent
  · rw [actions] at sent
    obtain ⟨same, tried⟩ := ShutdownPlan.send_mem_actions sent
    have configured : address = settings.address := by
      rw [same, Supervisor.shutdownPlan, steady.settings_eq]
    refine ⟨stop, configured, ?_⟩
    simp only [ShutdownPlan.commandSkip?, ← same] at tried
    split at tried
    · cases tried
    · next unmarked =>
        split at tried
        · cases tried
        · next loopback =>
            refine ⟨by simpa using loopback, ?_⟩
            simpa [Supervisor.shutdownPlan] using unmarked

theorem signal_captured {earlier later : List (CallRecord σ)} {record : CallRecord σ}
    (course : Course { settings } (earlier ++ record :: later) last) {pid : UInt32}
    {signal : Signal} (signalled : .signal pid signal ∈ record.effects) :
    record.call = .stop ∧ ∃ process, earlier.filterMap CallRecord.started? = [process] ∧
      process.pid = some pid := by
  obtain ⟨before, -, performs, -⟩ := course.at_call .fresh
  rcases performs.effects_cases with none | ⟨process, reached, stop, -, has, -, -, actions⟩
  · rw [none] at signalled
    cases signalled
  · rw [actions] at signalled
    have pid := ShutdownPlan.signal_mem_actions signalled
    refine ⟨stop, process, ?_, pid⟩
    rcases before.process_captured has with impossible | member
    · cases impossible
    · obtain ⟨captured, once⟩ := before.started_at_most_once
      rw [once, Option.mem_toList] at member
      rw [once, member]
      rfl

theorem silent_once_marked {earlier later : List (CallRecord σ)} {record : CallRecord σ}
    (course : Course { settings } (earlier ++ record :: later) last)
    (marked : ∃ marking ∈ earlier, marking.marks) : record.payloads = [] := by
  obtain ⟨before, -, -, -⟩ := course.at_call .fresh
  have shutDown := before.marked_last .fresh (.inr marked)
  refine List.filterMap_eq_nil_iff.mpr fun effect acted => ?_
  cases effect with
  | signal pid signal => rfl
  | send address payload =>
      have member : record ∈ earlier ++ record :: later :=
        List.mem_append_right _ (List.mem_cons_self ..)
      obtain ⟨-, -, -, unmarked⟩ := course.send_guarded member acted
      rw [shutDown] at unmarked
      cases unmarked

end Course

theorem Supervisor.history_payloadGuarded (host : ProcessHost σ) (settings : SupervisorSettings)
    (calls : List SupervisorCall) (state : σ) :
    PayloadGuarded settings (({ settings } : Supervisor).history host calls state) := by
  obtain ⟨last, course⟩ := Supervisor.history_course host calls { settings } state
  constructor
  case sends =>
    intro record member address payload sent
    obtain ⟨stop, configured, loopback, -⟩ := course.send_guarded member sent
    exact ⟨stop, configured, address.ip.isLoopback_iff.mp loopback⟩
  case silent_once_marked =>
    intro earlier record later split marked
    rw [split] at course
    exact course.silent_once_marked marked
  case payloads => exact course.payloads_prefix
  case signals =>
    intro earlier record later split pid signal signalled
    rw [split] at course
    exact course.signal_captured signalled
  case no_signals =>
    intro process started unknown record member pid signal signalled
    obtain ⟨captured, once⟩ := course.started_at_most_once
    obtain ⟨earlier, later, split⟩ := List.append_of_mem member
    rw [split] at course
    obtain ⟨-, known, earlierOnce, same⟩ := course.signal_captured signalled
    have knownStarted : known ∈ captured.toList := by
      rw [← once, split, List.filterMap_append, earlierOnce]
      exact List.mem_cons_self ..
    rw [once, Option.mem_toList] at started
    rw [Option.mem_toList, started] at knownStarted
    rw [← Option.some.inj knownStarted, unknown] at same
    cases same

end ThrowawayServer
