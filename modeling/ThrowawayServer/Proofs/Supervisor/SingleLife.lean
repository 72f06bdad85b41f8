import ThrowawayServer.Proofs.Supervisor.Course
import ThrowawayServer.Rehearsal.ScriptedProcess

/-!
# A single life

A supervisor leads one process through one life: it is started once, brought down once and waited
for at its end, and whatever is called afterwards finds everything as it was. How often something
can still happen is counted by a credit that each call either keeps or spends.
-/

set_option autoImplicit false

namespace ThrowawayServer

variable {σ : Type}

/-- How many starts a supervisor has left. -/
def SupervisorState.startsLeft : SupervisorState → Nat
  | .notStarted => 1
  | _ => 0

/-- How many escalations a supervisor has left. -/
def SupervisorState.escalationsLeft (state : SupervisorState) : Nat :=
  if state.isTerminal then 0 else 1

/-- Every process that was spawned has been waited for to its end. -/
def AllReaped (events : List HostEvent) : Prop :=
  ∀ later, .spawned true :: later <:+ events → .reaped true ∈ later

/-- No process withstood being killed, and none was waited for in vain. -/
def Compliant (life : List (CallRecord σ)) : Prop :=
  ∀ record ∈ life, .killed false ∉ record.events ∧ .reaped false ∉ record.events

instance (life : List (CallRecord σ)) : Decidable (Compliant life) :=
  inferInstanceAs (Decidable (∀ record ∈ life, _ ∧ _))

/-- What holds after every call on a supervisor. -/
structure Orderly (life : List (CallRecord σ)) : Prop where
  settled : ∀ record ∈ life, record.after.state ≠ .starting ∧ record.after.state ≠ .stopping
  process_iff_running : ∀ record ∈ life,
    record.after.process.isSome ↔ record.after.state = .running
  spawned_once : (life.flatMap CallRecord.events).countP HostEvent.isSpawn ≤ 1
  escalated_once : life.countP CallRecord.escalates ≤ 1
  reaped : ∀ earlier record later, life = earlier ++ record :: later →
    record.after.state.isTerminal → AllReaped ((earlier ++ [record]).flatMap CallRecord.events)
  terminal_kept : ∀ earlier record later, life = earlier ++ record :: later →
    record.after.state.isTerminal → ∀ next ∈ later, next.after.state = record.after.state
  start_refused : ∀ record ∈ life, record.call = .start → record.before.state ≠ .notStarted →
    record.answer = .started (.error (.alreadyStarted record.before.name)) ∧ record.Idle
  stop_refused : ∀ record ∈ life, record.call = .stop →
    record.before.state = .notStarted ∨ record.before.state = .startupFailed →
      record.answer = .stopped (.error (.notRunning record.before.name)) ∧ record.Idle
  stop_repeated : ∀ earlier record later code, life = earlier ++ record :: later →
    record.answer = .stopped (.ok code) → ∀ next ∈ later, next.call = .stop →
      next.answer = .stopped (.ok code) ∧ next.Idle

namespace Supervisor.Steady

variable {settings : SupervisorSettings} {supervisor : Supervisor}

theorem settled (steady : Supervisor.Steady settings supervisor) :
    supervisor.state ≠ .starting ∧ supervisor.state ≠ .stopping := by
  cases steady <;> exact ⟨SupervisorState.noConfusion, SupervisorState.noConfusion⟩

theorem process_iff_running (steady : Supervisor.Steady settings supervisor) :
    supervisor.process.isSome ↔ supervisor.state = .running := by
  cases steady <;> simp

end Supervisor.Steady

/-!
## Spending the credit
-/

theorem StartupEnd.no_spawn {events : List HostEvent} (ends : StartupEnd events) :
    events.countP HostEvent.isSpawn = 0 := by
  cases ends <;> rfl

theorem ShutdownEnd.no_spawn {reaped : Bool} {events : List HostEvent}
    (ends : ShutdownEnd reaped events) : events.countP HostEvent.isSpawn = 0 := by
  cases ends <;> rfl

theorem HostEvent.spawned_not_mem {events : List HostEvent} {started : Bool}
    (none : events.countP isSpawn = 0) : .spawned started ∉ events :=
  fun member => List.countP_eq_zero.mp none _ member rfl

theorem EscalationEvents.no_spawn {plan : ShutdownPlan} {events : List HostEvent}
    (escalation : EscalationEvents plan events) : events.countP HostEvent.isSpawn = 0 := by
  rw [List.countP_eq_zero]
  intro event member
  rcases escalation.kinds event member with ⟨alive, rfl⟩ | ⟨effect, rfl⟩
  · exact Bool.false_ne_true
  · exact Bool.false_ne_true

namespace Performs

variable {record : CallRecord σ}

theorem startsLeft_after (performs : Performs record) :
    record.events.countP HostEvent.isSpawn + record.after.state.startsLeft ≤
      record.before.state.startsLeft := by
  cases performs with
  | startRefused | stopRefused | stopRepeated | checkedAbsent | markedAbsent | marked =>
      simp
  | checked => simp [HostEvent.isSpawn]
  | spawnFailed fresh | ready fresh =>
      simp [fresh, SupervisorState.startsLeft, HostEvent.isSpawn, Supervisor.withProcess]
  | aborted fresh ends =>
      rw [List.countP_cons, ends.no_spawn]
      simp [fresh, SupervisorState.startsLeft, HostEvent.isSpawn]
  | stopped _ _ escalation ends | unreaped _ _ escalation ends =>
      rw [List.countP_append, escalation.no_spawn, ends.no_spawn]
      exact Nat.zero_le _

theorem escalationsLeft_after (performs : Performs record) :
    record.escalates.toNat + record.after.state.escalationsLeft ≤
      record.before.state.escalationsLeft := by
  cases performs with
  | startRefused | stopRefused | stopRepeated | checkedAbsent | checked | markedAbsent | marked =>
      simp [CallRecord.escalates]
  | spawnFailed fresh | ready fresh | aborted fresh =>
      simp [CallRecord.escalates, fresh, SupervisorState.escalationsLeft,
        SupervisorState.isTerminal, Supervisor.withProcess]
  | stopped running | unreaped running =>
      simp only [SupervisorState.escalationsLeft, SupervisorState.isTerminal, running]
      exact Bool.toNat_le _

end Performs

namespace Course

variable {first last : Supervisor} {records : List (CallRecord σ)}

theorem spawns_le (course : Course first records last) :
    (records.flatMap CallRecord.events).countP HostEvent.isSpawn + last.state.startsLeft ≤
      first.state.startsLeft := by
  induction course with
  | rest => simp
  | call begins performs _ ih =>
      subst begins
      have step := performs.startsLeft_after
      rw [List.flatMap_cons, List.countP_append]
      omega

theorem escalations_le (course : Course first records last) :
    records.countP CallRecord.escalates + last.state.escalationsLeft ≤
      first.state.escalationsLeft := by
  induction course with
  | rest => simp
  | @call _ _ record _ begins performs _ ih =>
      subst begins
      have step := performs.escalationsLeft_after
      have counted : (if record.escalates then 1 else 0) = record.escalates.toNat := by
        cases record.escalates <;> rfl
      rw [List.countP_cons, counted]
      omega

theorem states_kept (course : Course first records last) (terminal : first.state.isTerminal) :
    ∀ record ∈ records, record.before.state = first.state ∧ record.after.state = first.state := by
  induction course with
  | rest =>
      intro record member
      cases member
  | call begins performs _ ih =>
      subst begins
      have kept := performs.terminal_kept terminal
      intro record member
      rcases List.mem_cons.mp member with rfl | member
      · exact ⟨rfl, kept⟩
      · rw [← kept] at terminal ⊢
        exact ih terminal record member

end Course

/-!
## Waiting for every process
-/

namespace AllReaped

theorem nil : AllReaped [] := by
  intro later spawned
  simp at spawned

theorem cons {event : HostEvent} {events : List HostEvent} (reaped : .reaped true ∈ events)
    (rest : AllReaped events) : AllReaped (event :: events) := by
  intro later spawned
  rcases List.suffix_cons_iff.mp spawned with same | spawned
  · cases same
    exact reaped
  · exact rest later spawned

theorem append {earlier events : List HostEvent} (none : .spawned true ∉ earlier)
    (rest : AllReaped events) : AllReaped (earlier ++ events) := by
  induction earlier with
  | nil => exact rest
  | cons event earlier ih =>
      rw [List.mem_cons, not_or] at none
      intro later spawned
      rcases List.suffix_cons_iff.mp spawned with same | spawned
      · cases same
        exact absurd rfl none.1
      · exact ih none.2 later spawned

end AllReaped

theorem StartupEnd.reaped {events : List HostEvent} (ends : StartupEnd events)
    (compliant : .killed false ∉ events ∧ .reaped false ∉ events) : .reaped true ∈ events := by
  obtain ⟨killed, waited⟩ := compliant
  cases ends with
  | exited reaped | destroyed reaped => cases reaped <;> simp at waited ⊢
  | unkillable => simp at killed

theorem ShutdownEnd.reaped {reaped : Bool} {events : List HostEvent}
    (ends : ShutdownEnd reaped events) (compliant : .reaped false ∉ events) :
    .reaped true ∈ events := by
  cases ends with
  | exited => cases reaped <;> simp at compliant ⊢
  | survived killed => cases reaped <;> simp at compliant ⊢

namespace Course

variable {first last : Supervisor} {records : List (CallRecord σ)}

/-- A course from a running process to a terminal state waits for that process, too. -/
theorem all_reaped (course : Course first records last) (compliant : Compliant records)
    (terminal : last.state.isTerminal) :
    AllReaped (records.flatMap CallRecord.events) ∧
      (first.state = .running → .reaped true ∈ records.flatMap CallRecord.events) := by
  induction course with
  | rest =>
      refine ⟨AllReaped.nil, fun running => ?_⟩
      rw [running] at terminal
      cases terminal
  | call begins performs later ih =>
      subst begins
      rw [Compliant, List.forall_mem_cons] at compliant
      obtain ⟨now, after⟩ := compliant
      obtain ⟨rest, waits⟩ := ih after terminal
      rw [List.flatMap_cons]
      cases performs with
      | startRefused | stopRefused | stopRepeated | checkedAbsent | markedAbsent | marked =>
          exact ⟨rest, waits⟩
      | checked =>
          refine ⟨rest.append (by simp), fun running => ?_⟩
          exact List.mem_append_right _ (waits running)
      | spawnFailed fresh =>
          refine ⟨rest.append (by simp), fun running => ?_⟩
          rw [fresh] at running
          cases running
      | ready fresh =>
          refine ⟨rest.cons (waits rfl), fun running => ?_⟩
          rw [fresh] at running
          cases running
      | aborted fresh ends =>
          have reaped :=
            ends.reaped ⟨fun left => now.1 (.tail _ left), fun left => now.2 (.tail _ left)⟩
          have ended := rest.append (HostEvent.spawned_not_mem ends.no_spawn)
          refine ⟨ended.cons (List.mem_append_left _ reaped), fun running => ?_⟩
          rw [fresh] at running
          cases running
      | stopped _ _ escalation ends | unreaped _ _ escalation ends =>
          have reaped := ends.reaped fun left => now.2 (List.mem_append_right _ left)
          have ended := rest.append (HostEvent.spawned_not_mem ends.no_spawn)
          rw [List.append_assoc]
          refine ⟨ended.append (HostEvent.spawned_not_mem escalation.no_spawn), fun _ => ?_⟩
          exact List.mem_append_right _ (List.mem_append_left _ reaped)

end Course

/-!
## Calls that come too late
-/

namespace Performs

variable {record : CallRecord σ}

theorem start_refused (performs : Performs record) (start : record.call = .start)
    (begun : record.before.state ≠ .notStarted) :
    record.answer = .started (.error (.alreadyStarted record.before.name)) ∧ record.Idle := by
  cases performs with
  | startRefused => exact ⟨rfl, rfl, rfl, rfl⟩
  | spawnFailed fresh | ready fresh | aborted fresh => exact absurd fresh begun
  | stopRefused | stopRepeated | stopped | unreaped | checkedAbsent | checked | markedAbsent
  | marked => cases start

theorem stop_refused (performs : Performs record) (stop : record.call = .stop)
    (unready : record.before.state = .notStarted ∨ record.before.state = .startupFailed) :
    record.answer = .stopped (.error (.notRunning record.before.name)) ∧ record.Idle := by
  cases performs with
  | stopRefused => exact ⟨rfl, rfl, rfl, rfl⟩
  | stopRepeated ended => simp [ended] at unready
  | stopped running | unreaped running => simp [running] at unready
  | startRefused | spawnFailed | ready | aborted | checkedAbsent | checked | markedAbsent
  | marked => cases stop

theorem stop_repeated (performs : Performs record) (stop : record.call = .stop)
    {code : Option Int} (ended : record.before.state = .stopped code) :
    record.answer = .stopped (.ok code) ∧ record.Idle := by
  cases performs with
  | stopRepeated known =>
      dsimp only at ended
      rw [known] at ended
      cases ended
      exact ⟨rfl, rfl, rfl, rfl⟩
  | stopRefused unstopped => exact absurd ended (unstopped code)
  | stopped running | unreaped running => simp [running] at ended
  | startRefused | spawnFailed | ready | aborted | checkedAbsent | checked | markedAbsent
  | marked => cases stop

theorem code_recorded (performs : Performs record) {code : Option Int}
    (stopped : record.answer = .stopped (.ok code)) : record.after.state = .stopped code := by
  cases performs with
  | stopRepeated ended =>
      cases stopped
      exact ended
  | stopped =>
      cases stopped
      rfl
  | startRefused | spawnFailed | ready | aborted | stopRefused | unreaped | checkedAbsent
  | checked | markedAbsent | marked => cases stopped

end Performs

theorem Supervisor.history_orderly (host : ProcessHost σ) (settings : SupervisorSettings)
    (calls : List SupervisorCall) (state : σ)
    (compliant : Compliant (({ settings } : Supervisor).history host calls state)) :
    Orderly (({ settings } : Supervisor).history host calls state) := by
  obtain ⟨last, course⟩ := Supervisor.history_course host calls { settings } state
  generalize ({ settings } : Supervisor).history host calls state = life at course compliant ⊢
  have steady_after : ∀ record ∈ life, Supervisor.Steady settings record.after := by
    intro record member
    obtain ⟨before, performs⟩ := course.of_mem .fresh member
    exact performs.steady before
  have performs : ∀ record ∈ life, Performs record :=
    fun record member => (course.of_mem .fresh member).2
  constructor
  case settled => exact fun record member => (steady_after record member).settled
  case process_iff_running =>
    exact fun record member => (steady_after record member).process_iff_running
  case spawned_once => exact Nat.le_trans (Nat.le_add_right ..) course.spawns_le
  case escalated_once => exact Nat.le_trans (Nat.le_add_right ..) course.escalations_le
  case reaped =>
    rintro earlier record later rfl terminal
    obtain ⟨before, -, performs, -⟩ := course.at_call .fresh
    have upToHere : Course { settings } (earlier ++ [record]) record.after :=
      before.append (.call rfl performs .rest)
    refine (upToHere.all_reaped (fun known member => compliant known ?_) terminal).1
    rw [List.append_cons]
    exact List.mem_append_left _ member
  case terminal_kept =>
    rintro earlier record later rfl terminal next member
    obtain ⟨-, -, -, rest⟩ := course.at_call .fresh
    exact (rest.states_kept terminal next member).2
  case start_refused =>
    exact fun record member start begun => (performs record member).start_refused start begun
  case stop_refused =>
    exact fun record member stop unready => (performs record member).stop_refused stop unready
  case stop_repeated =>
    rintro earlier record later code rfl stopped next member stop
    obtain ⟨-, -, first, rest⟩ := course.at_call .fresh
    have recorded := first.code_recorded stopped
    have terminal : record.after.state.isTerminal := by rw [recorded]; rfl
    have kept := (rest.states_kept terminal next member).1
    have again : next ∈ earlier ++ record :: later :=
      List.mem_append_right _ (List.mem_cons_of_mem _ member)
    exact (performs next again).stop_repeated stop (kept.trans recorded)

/-- What a supervisor can do with a scripted process that prints a line and goes on running. -/
def ScriptedProcess.host (line : List Char) : ProcessHost ScriptedProcess where
  toProcessWorld := world
  spawn := fun _ process => (.ok (), process)
  pastEvents := fun process => ([.line line], process)
  hearing := fun _ process => .silent process
  terminate := fun process => (.ok (), process)
  awaitExit := fun _ process => (true, process)
  kill := fun process => (.ok (), process)
  reap := fun process => (.ok (some 0), process)
  drain := fun time process => process.sleep time

/-- A server that dies of the first command, with calls before and after its life. -/
theorem Supervisor.history_orderly_around_one_life :
    let settings : SupervisorSettings :=
      { name := "server", executable := "mongod", address := ⟨.v4 .localhost, 27017, 0⟩
        patterns := { success := [['o', 'k']] } }
    let process := ScriptedProcess.start {} [{ dies := true }] []
    let life := ({ settings } : Supervisor).history (ScriptedProcess.host ['o', 'k'])
      [.stop, .start, .start, .checkAlive, .stop, .start, .stop] process
    Compliant life ∧ Orderly life := by
  intro settings process life
  have compliant : Compliant life := by decide
  exact ⟨compliant, history_orderly (ScriptedProcess.host ['o', 'k']) settings _ process compliant⟩

end ThrowawayServer
