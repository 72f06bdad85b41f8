import ThrowawayServer.Proofs.Shutdown.Climb
import ThrowawayServer.Proofs.Text.Numeral
import ThrowawayServer.Rehearsal.ScriptedProcess

/-!
# Who gets a signal

A number that a server printed goes from the line through the plan to the kernel without a change,
or the kernel is not asked at all. As long as it is not zero, the kernel sends the signal to that
one process. Zero comes through as well, and to the kernel it means all processes of the group that
the sender is in.
-/

set_option autoImplicit false

namespace ThrowawayServer

/-!
## What the kernel is asked for
-/

/-- A receiver and what it is to get. -/
abbrev KernelCall := Int × Signal

/-- What a kernel does with a signal. -/
abbrev Kernel (σ : Type) := Int → Signal → σ → Except OsError Unit × σ

/-- The kernel with all that it is asked for written down beside its state. -/
def Kernel.recorded {σ : Type} (kernel : Kernel σ) : Kernel (σ × List KernelCall) :=
  fun target signal (state, calls) =>
    let (result, next) := kernel target signal state
    (result, next, calls ++ [(target, signal)])

/-- The world with signals that take the way through a kernel. -/
def ProcessWorld.over {σ : Type} (world : ProcessWorld σ) (kernel : Kernel σ) :
    ProcessWorld (σ × List KernelCall) where
  now := fun (state, _) => world.now state
  sleep := fun time (state, calls) => (world.sleep time state, calls)
  isAlive := fun (state, calls) =>
    let (alive, next) := world.isAlive state
    (alive, next, calls)
  send := fun address payload (state, calls) =>
    let (result, next) := world.send address payload state
    (result, next, calls)
  signal := sendSignal kernel.recorded
  spareChecks := fun (state, _) => world.spareChecks state

theorem ProcessWorld.over_signal {σ : Type} (world : ProcessWorld σ) (kernel : Kernel σ) :
    (world.over kernel).signal = sendSignal kernel.recorded := rfl

section

variable {σ : Type} {kernel : Kernel σ} {pid : UInt32} {signal : Signal} {state : σ}
  {calls : List KernelCall}

theorem sendSignal_of_large (large : 0x80000000 ≤ pid.toNat) :
    sendSignal kernel pid signal state = (.error .pidOutOfRange, state) := by
  rw [sendSignal, signalTarget, if_neg (Nat.not_lt.mpr large)]

theorem sendSignal_of_small (small : pid.toNat < 0x80000000) :
    sendSignal kernel pid signal state = kernel pid.toNat signal state := by
  rw [sendSignal, signalTarget, if_pos small]

theorem sendSignal_recorded (small : pid.toNat < 0x80000000) :
    sendSignal kernel.recorded pid signal (state, calls) =
      ((kernel pid.toNat signal state).1, (kernel pid.toNat signal state).2,
        calls ++ [((pid.toNat : Int), signal)]) := by
  rw [sendSignal_of_small small]
  rfl

end

/-!
## What a whole escalation keeps
-/

namespace ProcessWorld

variable {σ : Type} {world : ProcessWorld σ} {plan : ShutdownPlan} {holds : σ → Prop}

/-- Nothing that an escalation does to the world breaks a property of its states. -/
structure Preserves (world : ProcessWorld σ) (plan : ShutdownPlan) (holds : σ → Prop) : Prop where
  isAlive : ∀ state, holds state → holds (world.isAlive state).2
  sleep : ∀ time state, holds state → holds (world.sleep time state)
  send : ∀ payload state, holds state → holds (world.send plan.address payload state).2
  signal : ∀ pid signal state, plan.pid = some pid → holds state →
    holds (world.signal pid signal state).2

namespace Preserves

theorem pollUntil (preserves : world.Preserves plan holds) (interval deadline polls : Nat)
    (state : σ) (start : holds state) :
    holds (world.pollUntil interval deadline polls state).2 := by
  induction polls generalizing state with
  | zero => exact preserves.isAlive state start
  | succ polls ih =>
      have after := preserves.isAlive state start
      cases checked : world.isAlive state with
      | mk alive next =>
          rw [checked] at after
          cases alive with
          | false => simpa [ProcessWorld.pollUntil, checked] using after
          | true =>
              by_cases late : deadline ≤ world.now next
              · simpa [ProcessWorld.pollUntil, checked, late] using after
              · have later := ih _ (preserves.sleep interval next after)
                simpa [ProcessWorld.pollUntil, checked, late] using later

theorem waitForExit (preserves : world.Preserves plan holds) (state : σ) (start : holds state) :
    holds (world.waitForExit plan state).2 :=
  preserves.pollUntil _ _ _ state start

theorem deliver (preserves : world.Preserves plan holds) (step : ShutdownStep) (state : σ)
    (start : holds state) : holds (world.deliver plan step state).2 := by
  rw [ProcessWorld.deliver]
  split
  · exact preserves.send _ state start
  · next known => exact preserves.signal _ _ state known start
  · exact start

theorem waits (preserves : world.Preserves plan holds) {state final : σ} {answers : List Bool}
    {exited : Bool} (waited : world.WaitsLimited plan state answers exited final)
    (start : holds state) : holds final := by
  have after := preserves.waitForExit state start
  rwa [waited.1] at after

theorem climbs (preserves : world.Preserves plan holds) {steps : List ShutdownStep}
    {state final : σ} {report : EscalationReport} {log : List (Exchange σ)}
    (run : Climbs world plan (world.WaitsLimited plan) steps state report log final)
    (start : holds state) : holds final := by
  have check {state next : σ} {alive : Bool} (checked : world.isAlive state = (alive, next))
      (start : holds state) : holds next := by
    have after := preserves.isAlive state start
    rwa [checked] at after
  have act {step : ShutdownStep} {state after : σ} {delivered : Bool}
      (done : world.deliver plan step state = (delivered, after)) (start : holds state) :
      holds after := by
    have later := preserves.deliver step state start
    rwa [done] at later
  induction run with
  | finished checked => exact check checked start
  | gone checked => exact check checked start
  | skipped checked _ _ ih => exact ih (check checked start)
  | undelivered checked _ _ failed _ ih => exact ih (act failed (check checked start))
  | stopped checked _ _ delivered waited =>
      exact preserves.waits waited (act delivered (check checked start))
  | survived checked _ _ delivered waited _ ih =>
      exact ih (preserves.waits waited (act delivered (check checked start)))

/-- What each action keeps, an escalation keeps. -/
theorem escalate (preserves : world.Preserves plan holds) (state : σ) (start : holds state) :
    holds (world.escalate plan state).2 := by
  obtain ⟨report, log, final, run⟩ := world.exists_escalates plan state
  rw [run.escalate_eq]
  have checked := preserves.isAlive state start
  cases run with
  | atOnce _ run => exact preserves.climbs run start
  | gone _ gone run =>
      rw [gone] at checked
      exact preserves.climbs run checked
  | awaited _ alive waited run =>
      rw [alive] at checked
      exact preserves.climbs run (preserves.waits waited checked)

end Preserves

/-- Through a kernel, a plan's signals go to the number that the plan names. -/
theorem calls_escalate (world : ProcessWorld σ) (kernel : Kernel σ) (plan : ShutdownPlan)
    (state : σ) :
    ∀ call ∈ ((world.over kernel).escalate plan (state, [])).2.2,
      ∃ pid, plan.pid = some pid ∧ pid.toNat < 0x80000000 ∧ call.1 = pid.toNat := by
  have preserves : (world.over kernel).Preserves plan fun reached =>
      ∀ call ∈ reached.2, ∃ pid, plan.pid = some pid ∧ pid.toNat < 0x80000000 ∧
        call.1 = pid.toNat := by
    constructor
    case isAlive => exact fun _ start => start
    case sleep => exact fun _ _ start => start
    case send => exact fun _ _ start => start
    case signal =>
      rintro pid signal ⟨state, calls⟩ known start
      rcases Nat.lt_or_ge pid.toNat 0x80000000 with small | large
      · rw [over_signal, sendSignal_recorded small]
        intro call member
        rcases List.mem_append.mp member with earlier | last
        · exact start call earlier
        · cases List.mem_singleton.mp last
          exact ⟨pid, known, small, rfl⟩
      · rw [over_signal, sendSignal_of_large large]
        exact start
  refine preserves.escalate (state, []) fun call member => ?_
  cases member

end ProcessWorld

/-- A line prints digits after the mark of a process number, and they are a number of 32 bits. -/
def Classifier.Prints (line : List Char) (pid : UInt32) : Prop :=
  ∃ found digits, Classifier.pidPattern.find? line = some found ∧
    found.named? Classifier.pidName = some digits ∧
      Text.readNumeral 10 (UInt32.size - 1) digits = .ok pid.toNat

theorem Classifier.prints_of_reportedIn? {line : List Char} {pid : UInt32}
    (reported : reportedIn? line = some (some pid)) : Prints line pid := by
  rw [reportedIn?, Option.map_eq_some_iff] at reported
  obtain ⟨found, first, named⟩ := reported
  obtain ⟨digits, captured, read⟩ := Option.bind_eq_some_iff.mp named
  refine ⟨found, digits, first, captured, Text.readUInt32_eq_ok_iff_readNumeral.mp ?_⟩
  cases numeral : Text.readUInt32 digits with
  | error error =>
      rw [numeral] at read
      cases read
  | ok word =>
      rw [numeral] at read
      cases read
      rfl

theorem Classifier.prints_pid {classifier : Classifier} {pid : UInt32}
    (known : classifier.pid = some pid) : ∃ line ∈ classifier.lines, Prints line pid := by
  rw [Classifier.pid] at known
  cases first : classifier.lines.findSome? reportedIn? with
  | none =>
      rw [first] at known
      cases known
  | some reported =>
      rw [first] at known
      cases known
      obtain ⟨line, member, found⟩ := List.exists_of_findSome?_eq_some first
      exact ⟨line, member, prints_of_reportedIn? found⟩

/-- A signal for a process number reaches the process with that number and no other. -/
structure SignalsOneProcess (pid : UInt32) : Prop where
  /-- Either the kernel is not asked at all, or it is asked for the process. -/
  sent : ∀ {σ : Type} (kernel : Kernel σ) signal state calls,
    (0x80000000 ≤ pid.toNat ∧
      sendSignal kernel.recorded pid signal (state, calls) =
        (.error .pidOutOfRange, state, calls)) ∨
      ∃ target : Int, 0 < target ∧ target = pid.toNat ∧
        sendSignal kernel.recorded pid signal (state, calls) =
          ((kernel target signal state).1, (kernel target signal state).2,
            calls ++ [(target, signal)])
  reported : ∀ classifier : Classifier, classifier.pid = some pid →
    ∃ line ∈ classifier.lines, Classifier.Prints line pid
  escalated : ∀ {σ : Type} (world : ProcessWorld σ) (kernel : Kernel σ) (plan : ShutdownPlan) state,
    plan.pid = some pid →
      ∀ call ∈ ((world.over kernel).escalate plan (state, [])).2.2,
        0 < call.1 ∧ call.1 = pid.toNat

theorem sendSignal_to_one_process (pid : UInt32) (notZero : pid ≠ 0) : SignalsOneProcess pid := by
  have positive : 0 < pid.toNat :=
    Nat.pos_of_ne_zero fun zero => notZero (UInt32.toNat_inj.mp zero)
  constructor
  case sent =>
    intro σ kernel signal state calls
    rcases Nat.lt_or_ge pid.toNat 0x80000000 with small | large
    · exact .inr ⟨pid.toNat, Int.natCast_pos.mpr positive, rfl, sendSignal_recorded small⟩
    · exact .inl ⟨large, sendSignal_of_large large⟩
  case reported => exact fun _ => Classifier.prints_pid
  case escalated =>
    intro σ world kernel plan state known call member
    obtain ⟨other, same, -, target⟩ := world.calls_escalate kernel plan state call member
    cases known.symm.trans same
    exact ⟨target ▸ Int.natCast_pos.mpr positive, target⟩

/-- The largest number that the kernel can be given. -/
theorem sendSignal_to_one_process_largest :
    (0x7FFFFFFF : UInt32) ≠ 0 ∧ SignalsOneProcess 0x7FFFFFFF := by
  have notZero : (0x7FFFFFFF : UInt32) ≠ 0 := by decide
  exact ⟨notZero, sendSignal_to_one_process _ notZero⟩

/-- A server that prints zero has everything killed that runs with the sender. -/
theorem zero_reaches_own_group :
    let classifier := ({ patterns := {} } : Classifier).feed "MongoDB starting : pid=0 ".toList
    let plan : ShutdownPlan :=
      { address := ⟨.v4 ⟨10, 0, 0, 1⟩, 27017, 0⟩, pid := classifier.pid, stepTimeout := 0 }
    let kernel : Kernel ScriptedProcess := fun _ _ process => process.signal
    let process := ScriptedProcess.start {} [] []
    classifier.pid = some 0 ∧
      ((ScriptedProcess.world.over kernel).escalate plan (process, [])).2.2 =
        [(0, .kill), (0, .terminate), (0, .kill)] := by
  decide

end ThrowawayServer
