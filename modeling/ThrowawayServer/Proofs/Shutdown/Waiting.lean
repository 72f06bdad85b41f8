import ThrowawayServer.Proofs.Shutdown.Exchange
import ThrowawayServer.Rehearsal.ScriptedProcess

/-!
# Waiting for a process to exit

A wait checks the process, gives up if its time is over, and sleeps before the next check. `Waits`
is this loop with one rule for each way in which a round can end and with no limit on its rounds. On
a clock that sleeping moves on, the loop comes to its end, and a wait is that loop: the limit that it
carries is never what ends it.

The time is looked at after the check and not before it, so that the last check comes when the time
is over and finds a process gone that ended during the last sleep.
-/

set_option autoImplicit false

namespace ThrowawayServer

namespace ProcessWorld

variable {σ : Type} {world : ProcessWorld σ} {plan : ShutdownPlan} {interval deadline : Nat}
  {gone : σ → Prop} {state final : σ} {checks : List σ} {exited : Bool}

/-!
## What is relied on
-/

/-- Checks take no time, and a sleep takes its length at least. -/
structure KeepsTime (world : ProcessWorld σ) (interval : Nat) : Prop where
  isAlive : ∀ state, world.now (world.isAlive state).2 = world.now state
  sleep : ∀ state, world.now state + interval ≤ world.now (world.sleep interval state)

/-- A check finds the process alive unless it is gone, and it never comes back. When it goes is left
open, so that it may also go between a check and the sleep after it. -/
structure TellsGone (world : ProcessWorld σ) (interval : Nat) (gone : σ → Prop) : Prop where
  answer : ∀ state, (world.isAlive state).1 = false ↔ gone state
  isAlive : ∀ state, gone state → gone (world.isAlive state).2
  sleep : ∀ state, gone state → gone (world.sleep interval state)

/-!
## The loop
-/

/-- A wait that begins in a state: the states in which the process is checked, whether it exited and
the state at the end. -/
inductive Waits (world : ProcessWorld σ) (interval deadline : Nat) :
    σ → List σ → Bool → σ → Prop where
  | exited {state final : σ} (checked : world.isAlive state = (false, final)) :
      Waits world interval deadline state [state] true final
  | late {state final : σ} (checked : world.isAlive state = (true, final))
      (due : deadline ≤ world.now final) :
      Waits world interval deadline state [state] false final
  | again {state next final : σ} {checks : List σ} {exited : Bool}
      (checked : world.isAlive state = (true, next)) (early : world.now next < deadline)
      (rest : Waits world interval deadline (world.sleep interval next) checks exited final) :
      Waits world interval deadline state (state :: checks) exited final

theorem KeepsTime.now_eq (clock : world.KeepsTime interval) {alive : Bool} {next : σ}
    (checked : world.isAlive state = (alive, next)) : world.now next = world.now state := by
  have still := clock.isAlive state
  rwa [checked] at still

/-- A round ends the loop, or the process is alive before the deadline. -/
theorem waits_or_early (world : ProcessWorld σ) (interval deadline : Nat) (state : σ) :
    (∃ exited final, Waits world interval deadline state [state] exited final) ∨
      ∃ next, world.isAlive state = (true, next) ∧ world.now next < deadline := by
  cases checked : world.isAlive state with
  | mk alive next =>
      cases alive with
      | false => exact .inl ⟨true, next, .exited checked⟩
      | true =>
          rcases Nat.lt_or_ge (world.now next) deadline with early | due
          · exact .inr ⟨next, rfl, early⟩
          · exact .inl ⟨false, next, .late checked due⟩

/-- The loop sleeps no more often than it takes to sleep up to the deadline. -/
theorem exists_waits (clock : world.KeepsTime interval) (sleeps : Nat) (state : σ)
    (reached : deadline ≤ world.now state + sleeps * interval) :
    ∃ checks exited final, Waits world interval deadline state checks exited final ∧
      checks.length ≤ sleeps + 1 := by
  -- Every sleep takes an interval off the time that is left.
  induction sleeps generalizing state with
  | zero =>
      rcases waits_or_early world interval deadline state with
        ⟨exited, final, loop⟩ | ⟨next, checked, early⟩
      · exact ⟨_, _, _, loop, Nat.le_refl 1⟩
      · have still := clock.now_eq checked
        omega
  | succ sleeps ih =>
      rcases waits_or_early world interval deadline state with
        ⟨exited, final, loop⟩ | ⟨next, checked, early⟩
      · exact ⟨_, _, _, loop, Nat.le_add_left 1 _⟩
      · have still := clock.now_eq checked
        have later := clock.sleep next
        rw [Nat.succ_mul] at reached
        obtain ⟨checks, exited, final, rest, few⟩ := ih (world.sleep interval next) (by omega)
        exact ⟨_, _, _, .again checked early rest, Nat.succ_le_succ few⟩

namespace Waits

/-- A poll with a limit that leaves room for all checks of a loop does what the loop does. -/
theorem logged_pollUntil_eq (loop : Waits world interval deadline state checks exited final)
    {polls : Nat} (room : checks.length ≤ polls + 1) (log : List (Exchange σ)) :
    world.logged.pollUntil interval deadline polls (state, log) =
      (exited, final, log ++ checks.map fun state => .checked (world.isAlive state).1) := by
  induction loop generalizing polls log with
  | exited checked => cases polls <;> simp [pollUntil, checked]
  | late checked due => cases polls <;> simp [pollUntil, checked, due]
  | again checked early rest ih =>
      cases polls with
      -- There is a check after the sleep, and the limit leaves no room for it.
      | zero => cases rest <;> simp at room
      | succ polls =>
          have step := ih (Nat.le_of_succ_le_succ room) (log ++ [.checked true])
          simp [pollUntil, checked, Nat.not_le.mpr early, step]

/-- What a loop comes to is settled by where it begins. -/
theorem unique (loop : Waits world interval deadline state checks exited final)
    {otherChecks : List σ} {otherExited : Bool} {otherFinal : σ}
    (other : Waits world interval deadline state otherChecks otherExited otherFinal) :
    checks = otherChecks ∧ exited = otherExited ∧ final = otherFinal := by
  induction loop generalizing otherChecks otherExited otherFinal with
  | exited checked =>
      cases other with
      | exited found => cases checked.symm.trans found; exact ⟨rfl, rfl, rfl⟩
      | late found => cases checked.symm.trans found
      | again found => cases checked.symm.trans found
  | late checked due =>
      cases other with
      | exited found => cases checked.symm.trans found
      | late found => cases checked.symm.trans found; exact ⟨rfl, rfl, rfl⟩
      | again found early =>
          cases checked.symm.trans found
          exact absurd due (Nat.not_le.mpr early)
  | again checked early rest ih =>
      cases other with
      | exited found => cases checked.symm.trans found
      | late found due =>
          cases checked.symm.trans found
          exact absurd due (Nat.not_le.mpr early)
      | again found _ otherRest =>
          cases checked.symm.trans found
          obtain ⟨rfl, same⟩ := ih otherRest
          exact ⟨rfl, same⟩

theorem length_le (loop : Waits world interval deadline state checks exited final)
    (clock : world.KeepsTime interval) {sleeps : Nat}
    (reached : deadline ≤ world.now state + sleeps * interval) : checks.length ≤ sleeps + 1 := by
  obtain ⟨others, _, _, other, few⟩ := exists_waits clock sleeps state reached
  obtain ⟨rfl, -⟩ := loop.unique other
  exact few

/-- The states before all checks of a loop but the last one, and the state before that one. -/
structure LeftAt (world : ProcessWorld σ) (interval deadline : Nat) (earlier : List σ) (last : σ)
    (exited : Bool) (final : σ) : Prop where
  checked : world.isAlive last = (!exited, final)
  due : exited = false → deadline ≤ world.now final
  /-- After every check but the last one the loop sleeps, and then it checks again. -/
  slept : ∀ passed ∈ earlier, ∃ next, world.isAlive passed = (true, next) ∧
    world.now next < deadline ∧ world.sleep interval next ∈ earlier ++ [last]

namespace LeftAt

variable {earlier : List σ} {last : σ}

theorem early (left : LeftAt world interval deadline earlier last exited final)
    (clock : world.KeepsTime interval) (member : state ∈ earlier) : world.now state < deadline := by
  obtain ⟨next, found, early, -⟩ := left.slept state member
  rwa [clock.now_eq found] at early

theorem exited_iff (left : LeftAt world interval deadline earlier last exited final)
    (tells : world.TellsGone interval gone) : exited = true ↔ gone last := by
  rw [← tells.answer, left.checked]
  simp

theorem survived (left : LeftAt world interval deadline earlier last exited final)
    (clock : world.KeepsTime interval) (tells : world.TellsGone interval gone)
    (still : exited = false) : ¬ gone last ∧ deadline ≤ world.now last := by
  have due := left.due still
  rw [clock.now_eq left.checked] at due
  rw [← left.exited_iff tells, still]
  exact ⟨Bool.false_ne_true, due⟩

end LeftAt

end Waits

/-!
## Waits
-/

/-- When the time of a wait is over. -/
def waitDeadline (world : ProcessWorld σ) (plan : ShutdownPlan) (start : σ) : Nat :=
  world.now start + plan.stepTimeout

/-- A wait is a loop, and its log holds the checks of the loop. -/
theorem waitForExit_waits (clock : world.KeepsTime plan.pollInterval)
    (positive : 0 < plan.pollInterval) (start : σ) :
    ∃ checks, Waits world plan.pollInterval (world.waitDeadline plan start) start checks
        (world.waitForExit plan start).1 (world.waitForExit plan start).2 ∧
      world.waitLog plan start = checks.map fun state => .checked (world.isAlive state).1 := by
  have enough : plan.stepTimeout ≤ plan.polls * plan.pollInterval :=
    Nat.le_of_lt (Nat.lt_mul_of_div_lt (Nat.lt_succ_self _) positive)
  obtain ⟨checks, exited, final, loop, few⟩ :=
    exists_waits clock plan.polls start (Nat.add_le_add_left enough _)
  have room : checks.length ≤ plan.polls + world.spareChecks start + 1 := by omega
  have run : world.logged.waitForExit plan (start, []) =
      (exited, final, checks.map fun state => .checked (world.isAlive state).1) :=
    loop.logged_pollUntil_eq room []
  have plain := noted_waitForExit world id plan start []
  rw [run] at plain
  simp only [Prod.mk.injEq] at plain
  obtain ⟨answer, left, -⟩ := plain
  exact ⟨checks, answer ▸ left ▸ loop, by rw [waitLog, run]⟩

/-- How waits go that have no limit. -/
def WaitsUnlimited (world : ProcessWorld σ) (plan : ShutdownPlan) : WaitRule σ :=
  fun start answers exited final => ∃ checks,
    Waits world plan.pollInterval (world.waitDeadline plan start) start checks exited final ∧
      checks.map (fun state => (world.isAlive state).1) = answers ++ [!exited]

/-- The limit that a wait carries changes nothing. -/
theorem waitsUnlimited_eq (clock : world.KeepsTime plan.pollInterval)
    (positive : 0 < plan.pollInterval) : world.WaitsUnlimited plan = world.WaitsLimited plan := by
  funext start answers exited final
  obtain ⟨checks, loop, log⟩ := waitForExit_waits clock positive start
  refine propext ⟨?_, ?_⟩
  · rintro ⟨others, other, answered⟩
    obtain ⟨rfl, rfl, rfl⟩ := other.unique loop
    refine ⟨rfl, ?_⟩
    rw [log, Exchange.ofWait, ← answered, List.map_map]
    rfl
  · rintro ⟨waited, answered⟩
    rw [waited] at loop
    rw [log, Exchange.ofWait, ← Function.comp_def, ← List.map_map] at answered
    exact ⟨checks, loop, (List.map_inj_right fun _ _ => Exchange.checked.inj).mp answered⟩

end ProcessWorld

/-!
## Scripted processes
-/

namespace ScriptedProcess

variable {process : ScriptedProcess}

theorem world_keepsTime (interval : Nat) : world.KeepsTime interval where
  isAlive := fun _ => rfl
  sleep := fun _ => Nat.le_refl _

end ScriptedProcess

end ThrowawayServer
