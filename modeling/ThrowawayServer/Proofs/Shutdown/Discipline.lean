import ThrowawayServer.Proofs.Shutdown.Climb
import ThrowawayServer.Proofs.Shutdown.Waiting

/-!
# The discipline of an escalation

What every escalation keeps to, whatever its world answers: steps act in their order and only on a
process that was just seen alive, a step that was delivered is waited out before the next one
acts, and the report accounts for every step that was reached. This holds with a limit on the checks
of a wait and without one.
-/

set_option autoImplicit false

namespace ThrowawayServer

def EscalationReport.skippedSteps (report : EscalationReport) : List ShutdownStep :=
  report.skipped.map Prod.fst

/-- A process that was once found gone is not found alive later. -/
def StaysDead {σ : Type} (log : List (Exchange σ)) : Prop :=
  log.Pairwise fun earlier later => earlier = .checked false → later ≠ .checked true

instance {σ : Type} [DecidableEq σ] (log : List (Exchange σ)) : Decidable (StaysDead log) :=
  inferInstanceAs (Decidable (log.Pairwise _))

/-- A log in which every action stands directly after a check that found the process alive. -/
inductive Guarded {σ : Type} : List (Exchange σ) → Prop where
  | nil : Guarded []
  | check {log : List (Exchange σ)} (alive : Bool) (rest : Guarded log) :
      Guarded (.checked alive :: log)
  | act {log : List (Exchange σ)} (effect : ProcessEffect) (delivered : Bool) (before after : σ)
      (rest : Guarded log) :
      Guarded (.checked true :: .acted effect delivered before after :: log)

/-- What an escalation keeps to: its log and its report agree with each other and with the order of
the steps. -/
structure Disciplined {σ : Type} (plan : ShutdownPlan) (waits : WaitRule σ)
    (report : EscalationReport) (log : List (Exchange σ)) : Prop where
  /-- The actions are those of the steps that were tried, one each and in the same order. -/
  effects : (Exchange.effects log).map some = report.attempted.map plan.effect?
  attempted_ordered : report.attempted.Sublist ShutdownStep.escalation
  /-- Directly before every action the process was seen alive. -/
  acts_on_the_living : ∀ earlier exchange, earlier ++ [exchange] <+: log → exchange.isEffect →
    earlier.getLast? = some (.checked true)
  /-- After a step that was delivered there is a wait, and no further action unless that wait came
  back without the exit of the process. -/
  waits_after_delivery : ∀ effect before after later,
    .acted effect true before after :: later <:+ log →
      ∃ answers exited final, waits after answers exited final ∧
        Exchange.ofWait answers exited <+: later ∧
        ((∃ next ∈ later, next.isEffect) → exited = false)
  quiet_after_death : ∀ later, .checked false :: later <:+ log → ∀ next ∈ later, ¬ next.isEffect
  skipped_ordered : report.skippedSteps.Sublist ShutdownStep.escalation
  disjoint : ∀ step ∈ report.attempted, step ∉ report.skippedSteps
  /-- Every step up to some point was either tried or skipped, and all steps were if the process
  survived. -/
  accounts : ∃ reached, reached <+: ShutdownStep.escalation ∧
    (report.attempted ++ report.skippedSteps).Perm reached ∧
    (report.exited = false → reached = ShutdownStep.escalation)
  /-- The process is reported gone exactly if the last check found it gone. -/
  exited_last : (Exchange.answers log).getLast? = some (!report.exited)
  stopped_last : ∀ step, report.stoppedAfter = some step →
    report.exited = true ∧ report.attempted.getLast? = some step

namespace Guarded

variable {σ : Type} {log : List (Exchange σ)}

theorem checks (answers : List Bool) (rest : Guarded log) :
    Guarded (answers.map .checked ++ log) := by
  induction answers with
  | nil => exact rest
  | cons answer answers ih => exact .check answer ih

theorem getLast?_before_effect (guarded : Guarded log) {earlier : List (Exchange σ)}
    {exchange : Exchange σ} (reached : earlier ++ [exchange] <+: log) (acts : exchange.isEffect) :
    earlier.getLast? = some (.checked true) := by
  induction guarded generalizing earlier with
  | nil => simp at reached
  | check alive rest ih =>
      cases earlier with
      | nil =>
          obtain ⟨same, -⟩ := List.cons_prefix_cons.mp reached
          simp [same] at acts
      | cons first earlier =>
          have last := ih (List.cons_prefix_cons.mp reached).2
          cases earlier with
          | nil => simp at last
          | cons second earlier => simpa using last
  | act effect delivered before after rest ih =>
      cases earlier with
      | nil =>
          obtain ⟨same, -⟩ := List.cons_prefix_cons.mp reached
          simp [same] at acts
      | cons first earlier =>
          obtain ⟨rfl, behind⟩ := List.cons_prefix_cons.mp reached
          cases earlier with
          | nil => rfl
          | cons second earlier =>
              have last := ih (List.cons_prefix_cons.mp behind).2
              cases earlier with
              | nil => simp at last
              | cons third earlier => simpa using last

theorem quiet_after_death (guarded : Guarded log) (lasting : StaysDead log)
    {later : List (Exchange σ)} (dead : .checked false :: later <:+ log) :
    ∀ next ∈ later, ¬ next.isEffect := by
  intro next member acts
  obtain ⟨earlier, split⟩ := dead
  obtain ⟨between, rest, rfl⟩ := List.append_of_mem member
  have reached : (earlier ++ .checked false :: between) ++ [next] <+: log :=
    ⟨rest, by simp [← split]⟩
  have last := guarded.getLast?_before_effect reached acts
  rw [← split, StaysDead, List.pairwise_append] at lasting
  have lasting := (List.pairwise_cons.mp lasting.2.1).1
  cases between with
  | nil => simp at last
  | cons first between =>
      have seen : Exchange.checked true ∈ first :: between :=
        List.mem_of_getLast? (by simpa using last)
      exact lasting _ (List.mem_append_left _ seen) rfl rfl

end Guarded

namespace ProcessWorld

variable {σ : Type} {world : ProcessWorld σ} {plan : ShutdownPlan} {waits : WaitRule σ}

theorem Climbs.guarded {steps : List ShutdownStep} {state final : σ} {report : EscalationReport}
    {log : List (Exchange σ)} (run : Climbs world plan waits steps state report log final) :
    Guarded log := by
  induction run with
  | finished => exact .check _ .nil
  | gone => exact .check _ .nil
  | skipped _ _ _ ih => exact .check _ ih
  | undelivered _ _ _ _ _ ih => exact .act _ _ _ _ ih
  | @stopped _ _ _ _ _ _ _ answers =>
      have wait := Guarded.checks (answers ++ [!true]) (@Guarded.nil σ)
      rw [List.append_nil] at wait
      exact .act _ _ _ _ wait
  | survived _ _ _ _ _ _ ih => exact .act _ _ _ _ (Guarded.checks _ ih)

private theorem acted_suffix_of_checks {effect : ProcessEffect} {delivered : Bool}
    {before after : σ} {later log : List (Exchange σ)} (answers : List Bool)
    (behind : .acted effect delivered before after :: later <:+ answers.map .checked ++ log) :
    .acted effect delivered before after :: later <:+ log := by
  induction answers with
  | nil => exact behind
  | cons answer answers ih =>
      rcases List.suffix_cons_iff.mp behind with same | behind
      · cases same
      · exact ih behind

theorem Climbs.waits_after_delivery {steps : List ShutdownStep} {state final : σ}
    {report : EscalationReport} {log : List (Exchange σ)}
    (run : Climbs world plan waits steps state report log final) {effect : ProcessEffect}
    {before after : σ} {later : List (Exchange σ)}
    (delivery : .acted effect true before after :: later <:+ log) :
    ∃ answers exited final, waits after answers exited final ∧
      Exchange.ofWait answers exited <+: later ∧
      ((∃ next ∈ later, next.isEffect) → exited = false) := by
  induction run with
  | finished => exact absurd delivery (by simp [List.suffix_cons_iff])
  | gone => exact absurd delivery (by simp [List.suffix_cons_iff])
  | skipped _ _ _ ih => exact ih (acted_suffix_of_checks [true] delivery)
  | undelivered _ _ _ _ _ ih =>
      rcases List.suffix_cons_iff.mp (acted_suffix_of_checks [true] delivery) with same | behind
      · cases same
      · exact ih behind
  | @stopped _ _ _ _ _ _ _ answers _ _ _ _ waited =>
      rcases List.suffix_cons_iff.mp (acted_suffix_of_checks [true] delivery) with same | behind
      · cases same
        refine ⟨answers, true, _, waited, List.prefix_refl _, ?_⟩
        rintro ⟨next, member, acts⟩
        obtain ⟨answer, -, rfl⟩ := List.mem_map.mp member
        cases acts
      · rw [← List.append_nil (Exchange.ofWait _ _)] at behind
        exact absurd (acted_suffix_of_checks _ behind) (by simp)
  | @survived _ _ _ _ _ _ _ _ answers _ _ _ _ _ _ waited _ ih =>
      rcases List.suffix_cons_iff.mp (acted_suffix_of_checks [true] delivery) with same | behind
      · cases same
        exact ⟨answers, false, _, waited, List.prefix_append _ _, fun _ => rfl⟩
      · exact ih (acted_suffix_of_checks _ behind)

theorem Escalates.disciplined {state final : σ} {report : EscalationReport}
    {log : List (Exchange σ)} (run : Escalates world plan waits state report log final)
    (lasting : StaysDead log) : Disciplined plan waits report log := by
  obtain ⟨answers, start, climbed, rfl, climbs⟩ := run.exists_climbs
  have guarded : Guarded (answers.map .checked ++ climbed) := .checks answers climbs.guarded
  obtain ⟨reached, before, attempted, skipped, all⟩ := climbs.reached
  obtain ⟨earlier, last⟩ := climbs.last_check
  constructor
  case effects => rw [Exchange.effects_checks_append]; exact climbs.effects
  case attempted_ordered =>
    rw [attempted]
    exact List.filter_sublist.trans before.sublist
  case acts_on_the_living =>
    exact fun _ _ reached acts => guarded.getLast?_before_effect reached acts
  case waits_after_delivery =>
    exact fun _ _ _ _ delivery =>
      climbs.waits_after_delivery (acted_suffix_of_checks answers delivery)
  case quiet_after_death => exact fun _ dead => guarded.quiet_after_death lasting dead
  case skipped_ordered =>
    rw [EscalationReport.skippedSteps, skipped]
    exact List.filter_sublist.trans before.sublist
  case disjoint =>
    intro step tried passed
    rw [attempted, List.mem_filter] at tried
    rw [EscalationReport.skippedSteps, skipped, List.mem_filter] at passed
    rw [Option.isNone_iff_eq_none.mp tried.2] at passed
    cases passed.2
  case accounts =>
    refine ⟨reached, before, ?_, all⟩
    rw [attempted, EscalationReport.skippedSteps, skipped]
    have parts := List.filter_append_perm (fun step => (plan.skip? step).isNone) reached
    simpa using parts
  case exited_last => simp [Exchange.answers, last, List.filterMap_append, Exchange.answer?]
  case stopped_last => exact fun _ stopped => climbs.stopped_last stopped

/-- Escalations without a limit on their waits are disciplined, and so is what `escalate` does, which is
the same where sleeping moves the clock on. -/
theorem escalate_disciplined {σ : Type} (world : ProcessWorld σ) (plan : ShutdownPlan)
    (state final : σ) (report : EscalationReport) (log : List (Exchange σ))
    (lasting : StaysDead log) :
    (Escalates world plan (world.WaitsUnlimited plan) state report log final →
      Disciplined plan (world.WaitsUnlimited plan) report log) ∧
    (world.logged.escalate plan (state, []) = (report, final, log) →
      world.escalate plan state = (report, final) ∧
        Disciplined plan (world.WaitsLimited plan) report log) ∧
    (0 < plan.pollInterval → world.KeepsTime plan.pollInterval →
      (Escalates world plan (world.WaitsUnlimited plan) state report log final ↔
        world.logged.escalate plan (state, []) = (report, final, log))) := by
  refine ⟨fun run => run.disciplined lasting, fun escalated => ?_, fun positive clock => ?_⟩
  · have run := logged_escalate_eq_iff.mp escalated
    exact ⟨run.escalate_eq, run.disciplined lasting⟩
  · rw [waitsUnlimited_eq clock positive]
    exact logged_escalate_eq_iff.symm

/-- A server that takes no notice of the first command, outlives the second one and dies of the
kill. -/
theorem escalate_disciplined_until_killed :
    let plan : ShutdownPlan :=
      { address := ⟨.v4 .localhost, 27017, 0⟩, pid := some 42
        stepTimeout := 12, pollInterval := 5 }
    let process := ScriptedProcess.start {} [{ fails := true }] [{ dies := true }]
    let world := ScriptedProcess.world
    let (report, final, log) := world.logged.escalate plan (process, [])
    StaysDead log ∧ 0 < plan.pollInterval ∧ world.KeepsTime plan.pollInterval ∧
      Escalates world plan (world.WaitsUnlimited plan) process report log final ∧
      Disciplined plan (world.WaitsUnlimited plan) report log ∧
      Disciplined plan (world.WaitsLimited plan) report log := by
  intro plan process world
  have lasting : StaysDead (world.logged.escalate plan (process, [])).2.2 := by decide
  have positive : 0 < plan.pollInterval := by decide
  have clock := ScriptedProcess.world_keepsTime plan.pollInterval
  obtain ⟨unlimited, limited, same⟩ := escalate_disciplined world plan process _ _ _ lasting
  have run := (same positive clock).mpr rfl
  exact ⟨lasting, positive, clock, run, unlimited run, (limited rfl).2⟩

end ProcessWorld

end ThrowawayServer
