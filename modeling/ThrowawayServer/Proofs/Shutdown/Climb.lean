import ThrowawayServer.Proofs.Shutdown.Exchange

/-!
# Runs of the escalation

`Climbs` says what a run through some steps can be, with one rule for each way in which a step can
end, and `Escalates` what a whole escalation can be. How the waits in between go is left open. Every run
of `escalate` is one of these, with or without a log; what holds of all runs is shown by induction on
the rules and never by opening `climb` again.
-/

set_option autoImplicit false

namespace ThrowawayServer

/-- The report of a run that goes on after another one. -/
def EscalationReport.followedBy (earlier later : EscalationReport) : EscalationReport where
  attempted := earlier.attempted ++ later.attempted
  skipped := earlier.skipped ++ later.skipped
  stoppedAfter := later.stoppedAfter <|> earlier.stoppedAfter
  exited := later.exited

/-- What is done under a plan for the steps up to some point: nothing for those that are skipped. -/
def ShutdownPlan.actions (plan : ShutdownPlan) (reached : List ShutdownStep) :
    List ProcessEffect :=
  (reached.filter fun step => (plan.skip? step).isNone).filterMap plan.effect?

/-- A report deals with the steps up to some point, and with all of them if the process survives. -/
structure EscalationReport.DealsWith (report : EscalationReport) (plan : ShutdownPlan)
    (steps reached : List ShutdownStep) : Prop where
  before : reached <+: steps
  attempted : report.attempted = reached.filter fun step => (plan.skip? step).isNone
  skipped : report.skipped.map Prod.fst = reached.filter fun step => (plan.skip? step).isSome
  all : report.exited = false → reached = steps

namespace EscalationReport.DealsWith

variable {report : EscalationReport} {plan : ShutdownPlan} {step : ShutdownStep}
  {steps reached : List ShutdownStep}

theorem skipped_first {reason : SkipReason} (deals : report.DealsWith plan steps reached)
    (skip : plan.skip? step = some reason) :
    { report with skipped := (step, reason) :: report.skipped }.DealsWith plan (step :: steps)
      (step :: reached) where
  before := List.cons_prefix_cons.mpr ⟨rfl, deals.before⟩
  attempted := by simpa [skip] using deals.attempted
  skipped := by simpa [skip] using deals.skipped
  all := fun survived => congrArg _ (deals.all survived)

theorem attempted_first (deals : report.DealsWith plan steps reached)
    (tried : plan.skip? step = none) :
    { report with attempted := step :: report.attempted }.DealsWith plan (step :: steps)
      (step :: reached) where
  before := List.cons_prefix_cons.mpr ⟨rfl, deals.before⟩
  attempted := by simpa [tried] using deals.attempted
  skipped := by simpa [tried] using deals.skipped
  all := fun survived => congrArg _ (deals.all survived)

end EscalationReport.DealsWith

namespace ProcessWorld

variable {σ ε : Type} {world : ProcessWorld σ} {plan : ShutdownPlan} {waits : WaitRule σ}

/-- A run through steps from a state: its report, its log and the state at its end. -/
inductive Climbs (world : ProcessWorld σ) (plan : ShutdownPlan) (waits : WaitRule σ) :
    List ShutdownStep → σ → EscalationReport → List (Exchange σ) → σ → Prop where
  | finished {state final : σ} {alive : Bool} (checked : world.isAlive state = (alive, final)) :
      Climbs world plan waits [] state { exited := !alive } [.checked alive] final
  | gone {step : ShutdownStep} {steps : List ShutdownStep} {state final : σ}
      (checked : world.isAlive state = (false, final)) :
      Climbs world plan waits (step :: steps) state { exited := true } [.checked false] final
  | skipped {step : ShutdownStep} {steps : List ShutdownStep} {state next final : σ}
      {reason : SkipReason} {report : EscalationReport} {log : List (Exchange σ)}
      (checked : world.isAlive state = (true, next)) (skip : plan.skip? step = some reason)
      (rest : Climbs world plan waits steps next report log final) :
      Climbs world plan waits (step :: steps) state
        { report with skipped := (step, reason) :: report.skipped } (.checked true :: log) final
  | undelivered {step : ShutdownStep} {steps : List ShutdownStep} {state next after final : σ}
      {effect : ProcessEffect} {report : EscalationReport} {log : List (Exchange σ)}
      (checked : world.isAlive state = (true, next)) (tried : plan.skip? step = none)
      (act : plan.effect? step = some effect)
      (failed : world.deliver plan step next = (false, after))
      (rest : Climbs world plan waits steps after report log final) :
      Climbs world plan waits (step :: steps) state
        { report with attempted := step :: report.attempted }
        (.checked true :: .acted effect false next after :: log) final
  | stopped {step : ShutdownStep} {steps : List ShutdownStep} {state next after final : σ}
      {effect : ProcessEffect} {answers : List Bool}
      (checked : world.isAlive state = (true, next)) (tried : plan.skip? step = none)
      (act : plan.effect? step = some effect)
      (delivered : world.deliver plan step next = (true, after))
      (waited : waits after answers true final) :
      Climbs world plan waits (step :: steps) state
        { attempted := [step], stoppedAfter := some step, exited := true }
        (.checked true :: .acted effect true next after :: Exchange.ofWait answers true) final
  | survived {step : ShutdownStep} {steps : List ShutdownStep} {state next after later final : σ}
      {effect : ProcessEffect} {answers : List Bool} {report : EscalationReport}
      {log : List (Exchange σ)}
      (checked : world.isAlive state = (true, next)) (tried : plan.skip? step = none)
      (act : plan.effect? step = some effect)
      (delivered : world.deliver plan step next = (true, after))
      (waited : waits after answers false later)
      (rest : Climbs world plan waits steps later report log final) :
      Climbs world plan waits (step :: steps) state
        { report with attempted := step :: report.attempted }
        (.checked true :: .acted effect true next after :: (Exchange.ofWait answers false ++ log))
        final

/-- A run of a whole escalation. It begins with a wait if a command was sent on another way and has
not ended the process yet. -/
inductive Escalates (world : ProcessWorld σ) (plan : ShutdownPlan) (waits : WaitRule σ)
    (state : σ) : EscalationReport → List (Exchange σ) → σ → Prop where
  | atOnce {final : σ} {report : EscalationReport} {log : List (Exchange σ)}
      (unsent : plan.alreadyShutDown = false)
      (run : Climbs world plan waits ShutdownStep.escalation state report log final) :
      Escalates world plan waits state report log final
  | gone {next final : σ} {report : EscalationReport} {log : List (Exchange σ)}
      (sent : plan.alreadyShutDown = true) (checked : world.isAlive state = (false, next))
      (run : Climbs world plan waits ShutdownStep.escalation next report log final) :
      Escalates world plan waits state report (.checked false :: log) final
  | awaited {next later final : σ} {answers : List Bool} {exited : Bool}
      {report : EscalationReport} {log : List (Exchange σ)}
      (sent : plan.alreadyShutDown = true) (checked : world.isAlive state = (true, next))
      (waited : waits next answers exited later)
      (run : Climbs world plan waits ShutdownStep.escalation later report log final) :
      Escalates world plan waits state report
        (.checked true :: (Exchange.ofWait answers exited ++ log)) final

/-!
## What holds of all runs
-/

namespace Climbs

variable {steps : List ShutdownStep} {state final : σ} {report : EscalationReport}
  {log : List (Exchange σ)}

theorem effects (run : Climbs world plan waits steps state report log final) :
    (Exchange.effects log).map some = report.attempted.map plan.effect? := by
  induction run with
  | finished => rfl
  | gone => rfl
  | skipped _ _ _ ih => exact ih
  | undelivered _ _ act _ _ ih => simpa [act] using ih
  | stopped _ _ act => simp [act]
  | survived _ _ act _ _ _ ih => simpa [act] using ih

/-- A run deals with the steps up to some point. -/
theorem reached (run : Climbs world plan waits steps state report log final) :
    ∃ reached, report.DealsWith plan steps reached := by
  induction run with
  | finished => exact ⟨[], List.prefix_refl [], rfl, rfl, fun _ => rfl⟩
  | gone => exact ⟨[], List.nil_prefix, rfl, rfl, nofun⟩
  | skipped _ skip _ ih =>
      obtain ⟨reached, deals⟩ := ih
      exact ⟨_, deals.skipped_first skip⟩
  | undelivered _ tried _ _ _ ih =>
      obtain ⟨reached, deals⟩ := ih
      exact ⟨_, deals.attempted_first tried⟩
  | @stopped step _ _ _ _ _ _ _ _ tried =>
      refine ⟨[step], List.cons_prefix_cons.mpr ⟨rfl, List.nil_prefix⟩, ?_, ?_, nofun⟩
      · simp [tried]
      · simp [tried]
  | survived _ tried _ _ _ _ ih =>
      obtain ⟨reached, deals⟩ := ih
      exact ⟨_, deals.attempted_first tried⟩

theorem effects_eq_actions (run : Climbs world plan waits steps state report log final) :
    ∃ reached, reached <+: steps ∧ Exchange.effects log = plan.actions reached := by
  obtain ⟨reached, deals⟩ := run.reached
  refine ⟨reached, deals.before, ?_⟩
  have same := congrArg (List.filterMap id) run.effects
  simpa [List.filterMap_map, deals.attempted, ShutdownPlan.actions] using same

theorem last_check (run : Climbs world plan waits steps state report log final) :
    ∃ earlier, log = earlier ++ [.checked (!report.exited)] := by
  induction run with
  | finished => exact ⟨[], by simp⟩
  | gone => exact ⟨[], rfl⟩
  | skipped _ _ _ ih =>
      obtain ⟨earlier, rfl⟩ := ih
      exact ⟨_ :: earlier, rfl⟩
  | undelivered _ _ _ _ _ ih =>
      obtain ⟨earlier, rfl⟩ := ih
      exact ⟨_ :: _ :: earlier, rfl⟩
  | @stopped _ _ _ _ _ _ _ answers =>
      exact ⟨_ :: _ :: answers.map .checked, by rw [Exchange.ofWait, List.map_append]; rfl⟩
  | survived _ _ _ _ _ _ ih =>
      obtain ⟨earlier, rfl⟩ := ih
      exact ⟨_ :: _ :: (_ ++ earlier), by rw [← List.append_assoc]; rfl⟩

theorem stopped_last (run : Climbs world plan waits steps state report log final)
    {step : ShutdownStep} (stopped : report.stoppedAfter = some step) :
    report.exited = true ∧ report.attempted.getLast? = some step := by
  induction run with
  | finished => cases stopped
  | gone => cases stopped
  | skipped _ _ _ ih => exact ih stopped
  | undelivered _ _ _ _ _ ih =>
      obtain ⟨exited, last⟩ := ih stopped
      exact ⟨exited, by simp [List.getLast?_cons, last]⟩
  | stopped => exact ⟨rfl, stopped⟩
  | survived _ _ _ _ _ _ ih =>
      obtain ⟨exited, last⟩ := ih stopped
      exact ⟨exited, by simp [List.getLast?_cons, last]⟩

end Climbs

/-- An escalation is a run through all steps after some checks. -/
theorem Escalates.exists_climbs {state final : σ} {report : EscalationReport}
    {log : List (Exchange σ)} (run : Escalates world plan waits state report log final) :
    ∃ (answers : List Bool) (start : σ) (climbed : List (Exchange σ)),
      log = answers.map .checked ++ climbed ∧
        Climbs world plan waits ShutdownStep.escalation start report climbed final := by
  cases run with
  | atOnce _ run => exact ⟨[], _, _, rfl, run⟩
  | gone _ _ run => exact ⟨[false], _, _, rfl, run⟩
  | @awaited _ _ _ answers exited _ _ _ _ _ run =>
      exact ⟨true :: (answers ++ [!exited]), _, _, rfl, run⟩

/-!
## What `escalate` does
-/

theorem exists_climbs (world : ProcessWorld σ) (plan : ShutdownPlan) (steps : List ShutdownStep)
    (state : σ) :
    ∃ report log final,
      Climbs world plan (world.WaitsLimited plan) steps state report log final := by
  induction steps generalizing state with
  | nil => exact ⟨_, _, _, .finished rfl⟩
  | cons step steps ih =>
      cases checked : world.isAlive state with
      | mk alive next =>
          cases alive with
          | false => exact ⟨_, _, _, .gone checked⟩
          | true =>
              cases skip : plan.skip? step with
              | some reason =>
                  obtain ⟨report, log, final, rest⟩ := ih next
                  exact ⟨_, _, _, .skipped checked skip rest⟩
              | none =>
                  obtain ⟨effect, act⟩ := exists_effect_of_skip?_eq_none plan step skip
                  cases delivery : world.deliver plan step next with
                  | mk delivered after =>
                      cases delivered with
                      | false =>
                          obtain ⟨report, log, final, rest⟩ := ih after
                          exact ⟨_, _, _, .undelivered checked skip act delivery rest⟩
                      | true =>
                          obtain ⟨answers, exited, later, waited⟩ :=
                            world.exists_waitsLimited plan after
                          cases exited with
                          | true => exact ⟨_, _, _, .stopped checked skip act delivery waited⟩
                          | false =>
                              obtain ⟨report, log, final, rest⟩ := ih later
                              exact ⟨_, _, _, .survived checked skip act delivery waited rest⟩

namespace Climbs

variable {steps : List ShutdownStep} {state final : σ} {report : EscalationReport}
  {log : List (Exchange σ)}

theorem climb_eq (run : Climbs world plan (world.WaitsLimited plan) steps state report log final)
    (earlier : EscalationReport) :
    world.climb plan steps earlier state = (earlier.followedBy report, final) := by
  induction run generalizing earlier with
  | finished checked => simp [climb, checked, EscalationReport.followedBy]
  | gone checked => simp [climb, checked, EscalationReport.followedBy]
  | skipped checked skip _ ih => simp [climb, checked, skip, ih, EscalationReport.followedBy]
  | undelivered checked tried _ failed _ ih =>
      simp [climb, checked, tried, failed, ih, EscalationReport.followedBy]
  | stopped checked tried _ delivered waited =>
      simp [climb, checked, tried, delivered, waited.1, EscalationReport.followedBy]
  | survived checked tried _ delivered waited _ ih =>
      simp [climb, checked, tried, delivered, waited.1, ih, EscalationReport.followedBy]

/-- In the world with notes a run goes the same way and notes its log. -/
theorem noted_climb_eq
    (run : Climbs world plan (world.WaitsLimited plan) steps state report log final)
    (note : Exchange σ → ε) (earlier : EscalationReport) (prior : List ε) :
    (world.noted note).climb plan steps earlier (state, prior) =
      (earlier.followedBy report, final, prior ++ log.map note) := by
  induction run generalizing earlier prior with
  | finished checked => simp [climb, checked, EscalationReport.followedBy]
  | gone checked => simp [climb, checked, EscalationReport.followedBy]
  | skipped checked skip _ ih => simp [climb, checked, skip, ih, EscalationReport.followedBy]
  | undelivered checked tried act failed _ ih =>
      have delivery := noted_deliver world note plan _ _ act
      simp [climb, checked, tried, delivery, failed, ih, EscalationReport.followedBy]
  | stopped checked tried act delivered waited =>
      have delivery := noted_deliver world note plan _ _ act
      simp [climb, checked, tried, delivery, delivered, noted_waitForExit, waited.1, waited.2,
        EscalationReport.followedBy]
  | survived checked tried act delivered waited _ ih =>
      have delivery := noted_deliver world note plan _ _ act
      simp [climb, checked, tried, delivery, delivered, noted_waitForExit, waited.1, waited.2, ih,
        EscalationReport.followedBy]

end Climbs

theorem exists_escalates (world : ProcessWorld σ) (plan : ShutdownPlan) (state : σ) :
    ∃ report log final, Escalates world plan (world.WaitsLimited plan) state report log final := by
  cases sent : plan.alreadyShutDown with
  | false =>
      obtain ⟨report, log, final, run⟩ := exists_climbs world plan ShutdownStep.escalation state
      exact ⟨_, _, _, .atOnce sent run⟩
  | true =>
      cases checked : world.isAlive state with
      | mk alive next =>
          cases alive with
          | false =>
              obtain ⟨report, log, final, run⟩ := exists_climbs world plan ShutdownStep.escalation next
              exact ⟨_, _, _, .gone sent checked run⟩
          | true =>
              obtain ⟨answers, exited, later, waited⟩ := world.exists_waitsLimited plan next
              obtain ⟨report, log, final, run⟩ := exists_climbs world plan ShutdownStep.escalation later
              exact ⟨_, _, _, .awaited sent checked waited run⟩

namespace Escalates

variable {state final : σ} {report : EscalationReport} {log : List (Exchange σ)}

private theorem first_report (report : EscalationReport) :
    ({} : EscalationReport).followedBy report = report := by
  simp [EscalationReport.followedBy]

theorem escalate_eq (run : Escalates world plan (world.WaitsLimited plan) state report log final) :
    world.escalate plan state = (report, final) := by
  cases run with
  | atOnce unsent run => simp [escalate, awaitEarlierCommand, unsent, run.climb_eq, first_report]
  | gone sent checked run =>
      simp [escalate, awaitEarlierCommand, sent, checked, run.climb_eq, first_report]
  | awaited sent checked waited run =>
      simp [escalate, awaitEarlierCommand, sent, checked, waited.1, run.climb_eq, first_report]

/-- Keeping a log does not change an escalation. -/
theorem noted_escalate_eq
    (run : Escalates world plan (world.WaitsLimited plan) state report log final)
    (note : Exchange σ → ε) (prior : List ε) :
    (world.noted note).escalate plan (state, prior) = (report, final, prior ++ log.map note) := by
  cases run with
  | atOnce unsent run =>
      simp [escalate, awaitEarlierCommand, unsent, run.noted_climb_eq, first_report]
  | gone sent checked run =>
      simp [escalate, awaitEarlierCommand, sent, checked, run.noted_climb_eq, first_report]
  | awaited sent checked waited run =>
      simp [escalate, awaitEarlierCommand, sent, checked, noted_waitForExit, waited.1, waited.2,
        run.noted_climb_eq, first_report]

end Escalates

/-- The log of an escalation is that of its run. -/
theorem logged_escalate_eq_iff {state final : σ} {report : EscalationReport}
    {log : List (Exchange σ)} :
    world.logged.escalate plan (state, []) = (report, final, log) ↔
      Escalates world plan (world.WaitsLimited plan) state report log final := by
  constructor
  · intro escalated
    obtain ⟨_, _, _, run⟩ := world.exists_escalates plan state
    have same := run.noted_escalate_eq id []
    rw [List.map_id, List.nil_append, escalated] at same
    cases same
    exact run
  · intro run
    have escalated := run.noted_escalate_eq id []
    rwa [List.map_id] at escalated

end ProcessWorld

end ThrowawayServer
