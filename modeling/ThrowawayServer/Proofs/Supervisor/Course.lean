import ThrowawayServer.Proofs.Supervisor.Performance

/-!
# Calls one after another

What a supervisor looks like between two calls, and what a single call cannot undo: a supervisor
that has begun stays begun, and one that has come to its end keeps its state. A `Course` is a list
of calls of which each begins where the last one ended; every history is one.
-/

set_option autoImplicit false

namespace ThrowawayServer

variable {σ : Type}

/-- A supervisor as it is found between two calls: it has a process exactly while it is running, and
a flag from then on. -/
inductive Supervisor.Steady (settings : SupervisorSettings) : Supervisor → Prop where
  | fresh : Steady settings { settings }
  | startupFailed : Steady settings { settings, state := .startupFailed }
  | running (process : RunningProcess) (flag : ShutdownFlag) :
      Steady settings { settings, state := .running, process := some process, flag := some flag }
  | stopped (code : Option Int) (flag : ShutdownFlag) :
      Steady settings { settings, state := .stopped code, flag := some flag }

theorem Supervisor.Steady.settings_eq {settings : SupervisorSettings} {supervisor : Supervisor}
    (steady : Supervisor.Steady settings supervisor) : supervisor.settings = settings := by
  cases steady <;> rfl

theorem SupervisorState.ne_notStarted_of_isTerminal {state : SupervisorState}
    (terminal : state.isTerminal) : state ≠ .notStarted := by
  rintro rfl
  cases terminal

namespace Performs

variable {record : CallRecord σ}

theorem steady {settings : SupervisorSettings} (performs : Performs record)
    (before : Supervisor.Steady settings record.before) :
    Supervisor.Steady settings record.after := by
  cases performs with
  | startRefused | stopRefused | stopRepeated | checkedAbsent | checked | markedAbsent =>
      exact before
  | spawnFailed fresh | aborted fresh =>
      cases before with
      | fresh => exact .startupFailed
      | startupFailed | running | stopped => cases fresh
  | ready fresh =>
      cases before with
      | fresh => exact .running _ _
      | startupFailed | running | stopped => cases fresh
  | stopped running | unreaped running =>
      cases before with
      | running => exact .stopped _ _
      | fresh | startupFailed | stopped => cases running
  | marked has =>
      cases before with
      | fresh | startupFailed => cases has
      | running process => exact .running process _
      | stopped code => exact .stopped code _

theorem stays_begun (performs : Performs record) (begun : record.before.state ≠ .notStarted) :
    record.after.state ≠ .notStarted := by
  cases performs with
  | startRefused | stopRefused | stopRepeated | checkedAbsent | checked | markedAbsent | marked =>
      exact begun
  | spawnFailed | ready | aborted | stopped | unreaped => exact SupervisorState.noConfusion

theorem terminal_kept (performs : Performs record)
    (terminal : record.before.state.isTerminal) : record.after.state = record.before.state := by
  cases performs with
  | startRefused | stopRefused | stopRepeated | checkedAbsent | checked | markedAbsent | marked =>
      rfl
  | spawnFailed fresh | ready fresh | aborted fresh =>
      exact absurd fresh (SupervisorState.ne_notStarted_of_isTerminal terminal)
  | stopped running | unreaped running =>
      dsimp only at terminal
      rw [running] at terminal
      cases terminal

end Performs

/-- Calls one after another, from one supervisor to another. -/
inductive Course : Supervisor → List (CallRecord σ) → Supervisor → Prop where
  | rest {supervisor : Supervisor} : Course supervisor [] supervisor
  | call {supervisor last : Supervisor} {record : CallRecord σ} {records : List (CallRecord σ)}
      (begins : record.before = supervisor) (performs : Performs record)
      (later : Course record.after records last) : Course supervisor (record :: records) last

namespace Course

variable {settings : SupervisorSettings} {first last : Supervisor} {records : List (CallRecord σ)}

theorem steady_last (course : Course first records last)
    (steady : Supervisor.Steady settings first) : Supervisor.Steady settings last := by
  induction course with
  | rest => exact steady
  | call begins performs _ ih =>
      subst begins
      exact ih (performs.steady steady)

theorem append {middle : Supervisor} {later : List (CallRecord σ)}
    (course : Course first records middle) (rest : Course middle later last) :
    Course first (records ++ later) last := by
  induction course with
  | rest => exact rest
  | call begins performs _ ih => exact .call begins performs (ih rest)

theorem split {earlier later : List (CallRecord σ)}
    (course : Course first (earlier ++ later) last) :
    ∃ middle, Course first earlier middle ∧ Course middle later last := by
  induction earlier generalizing first with
  | nil => exact ⟨first, .rest, course⟩
  | cons record earlier ih =>
      cases course with
      | call begins performs rest =>
          obtain ⟨middle, before, after⟩ := ih rest
          exact ⟨middle, .call begins performs before, after⟩

theorem at_call {earlier later : List (CallRecord σ)} {record : CallRecord σ}
    (course : Course first (earlier ++ record :: later) last)
    (steady : Supervisor.Steady settings first) :
    Course first earlier record.before ∧ Supervisor.Steady settings record.before ∧
      Performs record ∧ Course record.after later last := by
  obtain ⟨middle, before, rest⟩ := course.split
  cases rest with
  | call begins performs rest =>
      rw [begins]
      exact ⟨before, before.steady_last steady, performs, rest⟩

theorem of_mem {record : CallRecord σ} (course : Course first records last)
    (steady : Supervisor.Steady settings first) (member : record ∈ records) :
    Supervisor.Steady settings record.before ∧ Performs record := by
  obtain ⟨earlier, later, rfl⟩ := List.append_of_mem member
  obtain ⟨-, before, performs, -⟩ := course.at_call steady
  exact ⟨before, performs⟩

end Course

theorem Supervisor.history_course (host : ProcessHost σ) (calls : List SupervisorCall)
    (supervisor : Supervisor) (state : σ) :
    ∃ last, Course supervisor (supervisor.history host calls state) last := by
  induction calls generalizing supervisor state with
  | nil => exact ⟨supervisor, .rest⟩
  | cons call calls ih =>
      let record := supervisor.record host call state
      obtain ⟨last, later⟩ := ih record.after record.stateAfter
      exact ⟨last, .call rfl (record_performs host supervisor call state) later⟩

end ThrowawayServer
