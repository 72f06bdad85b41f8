import ThrowawayServer.Proofs.Supervisor.EarlyEnd
import ThrowawayServer.Proofs.Supervisor.SingleLife

/-!
# How a start comes out

The first event that settles a start decides alone how it comes out, and if there is none the time
does. A start that does not end in readiness brings its process to its end before it gives up, and
what the process still prints on the way may show in the error but changes nothing else.
-/

set_option autoImplicit false

namespace ThrowawayServer

/-- The first event that settles a start does it with a verdict; the lines are those up to it. -/
inductive StartupPatterns.FirstSettled (patterns : StartupPatterns) :
    List StreamEvent → StartupVerdict → List (List Char) → Prop where
  | intro {earlier later : List StreamEvent} {event : StreamEvent} {verdict : StartupVerdict}
      (undecided : patterns.Undecided earlier)
      (settles : patterns.settled? earlier event = some verdict) :
      FirstSettled patterns (earlier ++ event :: later) verdict (fedLines (earlier ++ [event]))

/-- The lines up to the first event that settles a start, or all of them if none does. -/
inductive StartupPatterns.Buffered (patterns : StartupPatterns) (events : List StreamEvent) :
    List (List Char) → Prop where
  | settled {verdict : StartupVerdict} {lines : List (List Char)}
      (first : patterns.FirstSettled events verdict lines) : Buffered patterns events lines
  | undecided (undecided : patterns.Undecided events) : Buffered patterns events (fedLines events)

theorem StartupPatterns.undecided_or_firstSettled (patterns : StartupPatterns)
    (events : List StreamEvent) :
    patterns.Undecided events ∨ ∃ verdict lines, patterns.FirstSettled events verdict lines := by
  rcases patterns.undecided_or_first events with
    undecided | ⟨earlier, event, later, verdict, rfl, undecided, settles⟩
  · exact .inl undecided
  · exact .inr ⟨verdict, _, .intro undecided settles⟩

def bufferedText (lines : List (List Char)) : String := String.ofList (['\n'].intercalate lines)

namespace Classifier

variable {patterns : StartupPatterns} {events : List StreamEvent} {verdict : StartupVerdict}
  {lines : List (List Char)}

theorem output_eq (classifier : Classifier) :
    classifier.output = bufferedText classifier.lines := by
  rw [output, joinLines_eq_intercalate, bufferedText]

theorem run_firstSettled (ends : EndsOpenStreams events)
    (first : patterns.FirstSettled events verdict lines) :
    (({ patterns } : Classifier).run events).verdict = some verdict ∧
      (({ patterns } : Classifier).run events).lines = lines := by
  cases first with
  | intro undecided settles => exact run_first ends undecided settles

theorem run_buffered (ends : EndsOpenStreams events) :
    patterns.Buffered events (({ patterns } : Classifier).run events).lines := by
  rcases patterns.undecided_or_firstSettled events with undecided | ⟨verdict, lines, first⟩
  · rw [(run_undecided ends undecided).2]
    exact .undecided undecided
  · rw [(run_firstSettled ends first).2]
    exact .settled first

theorem firstSettled_of_run (ends : EndsOpenStreams events)
    (known : (({ patterns } : Classifier).run events).verdict = some verdict) :
    patterns.FirstSettled events verdict (({ patterns } : Classifier).run events).lines := by
  rcases patterns.undecided_or_firstSettled events with undecided | ⟨other, lines, first⟩
  · rw [(run_undecided ends undecided).1] at known
    cases known
  · obtain ⟨settled, held⟩ := run_firstSettled ends first
    rw [settled] at known
    cases known
    rwa [held]

end Classifier

namespace StartupPatterns

variable {patterns : StartupPatterns} {events : List StreamEvent} {verdict : StartupVerdict}
  {lines : List (List Char)}

theorem FirstSettled.append (first : patterns.FirstSettled events verdict lines)
    (more : List StreamEvent) : patterns.FirstSettled (events ++ more) verdict lines := by
  cases first with
  | @intro earlier later event _ undecided settles =>
      rw [List.append_assoc, List.cons_append]
      exact .intro undecided settles

/-- What comes after the first event that settles a start says nothing about it. -/
theorem FirstSettled.of_append {more : List StreamEvent}
    (first : patterns.FirstSettled (events ++ more) verdict lines)
    (decided : ¬ patterns.Undecided events) : patterns.FirstSettled events verdict lines := by
  generalize whole : events ++ more = all at first
  cases first with
  | @intro earlier later event _ undecided settles =>
      rcases List.append_eq_append_iff.mp whole with ⟨rest, rfl, -⟩ | ⟨rest, rfl, after⟩
      · exact absurd undecided.of_append decided
      · cases rest with
        | nil => rw [List.append_nil] at decided; exact absurd undecided decided
        | cons first rest =>
            cases after
            exact .intro undecided settles

theorem classify_ne_closed (patterns : StartupPatterns) (line : List Char) :
    patterns.classify line ≠ some .closed := by
  rw [classify]
  split
  · exact fun same => nomatch same
  · cases patterns.failures.findSome? fun pattern => failureText? pattern line <;>
      exact fun same => nomatch same

/-- Nothing but an end of output closes a start, and all connected streams have ended by then. -/
theorem FirstSettled.closed_inv (first : patterns.FirstSettled events .closed lines) :
    ∃ earlier later, events = earlier ++ .ended :: later ∧
      earlier.count .ended + 1 = earlier.count .attach := by
  cases first with
  | @intro earlier later event _ undecided settles =>
      cases event with
      | attach => cases settles
      | line text => exact absurd settles (patterns.classify_ne_closed text)
      | ended =>
          refine ⟨earlier, later, rfl, ?_⟩
          by_contra more
          simp [settled?, more] at settles

end StartupPatterns

theorem Hearing.waited_of_unsettled {σ : Type} {hearing : Hearing σ} {classifier : Classifier}
    {state : σ} (unset : (hearing.listen classifier state).1.verdict = none) :
    classifier.taken hearing.events = hearing.events ∧
      (hearing.listen classifier state).2 = hearing.last := by
  induction hearing generalizing classifier state with
  | silent last =>
      rw [listen] at unset ⊢
      split at unset
      · next settled => exact absurd unset (Option.ne_none_iff_isSome.mpr settled)
      · next unsettled => exact ⟨rfl, by rw [if_neg unsettled, Hearing.last]⟩
  | heard event next later ih =>
      rw [listen] at unset ⊢
      split at unset
      · next settled => exact absurd unset (Option.ne_none_iff_isSome.mpr settled)
      · next unsettled =>
          obtain ⟨all, waited⟩ := ih () unset
          rw [events, Classifier.taken, if_neg unsettled, all, if_neg unsettled, waited]
          exact ⟨rfl, rfl⟩

namespace ProcessHost

variable {σ : Type}

/-- A process is asked to end, waited for up to a time, and ended by force if it has not ended. -/
inductive BroughtDown (host : ProcessHost σ) (time : Nat) (state : σ) : σ → Prop where
  | exited {later : σ}
      (waited : host.awaitExit time (host.terminate state).2 = (true, later)) :
      BroughtDown host time state (host.reap later).2
  | killed {later dead : σ}
      (waited : host.awaitExit time (host.terminate state).2 = (false, later))
      (killed : host.kill later = (.ok (), dead)) :
      BroughtDown host time state (host.reap dead).2
  | unkillable {later left : σ} {error : OsError}
      (waited : host.awaitExit time (host.terminate state).2 = (false, later))
      (refused : host.kill later = (.error error, left)) : BroughtDown host time state left

/-- What an aborted start does before it looks at the output again. -/
def bringDown (host : ProcessHost σ) (settings : SupervisorSettings) (state : σ) : σ :=
  let (exited, state) := host.awaitExit settings.stepTimeout (host.terminate state).2
  if exited then (host.reap state).2 else host.destroy state

theorem bringDown_broughtDown (host : ProcessHost σ) (settings : SupervisorSettings) (state : σ) :
    host.BroughtDown settings.stepTimeout state (host.bringDown settings state) := by
  rw [bringDown]
  cases waited : host.awaitExit settings.stepTimeout (host.terminate state).2 with
  | mk exited later =>
      cases exited with
      | true => exact .exited waited
      | false =>
          dsimp only
          rw [if_neg Bool.false_ne_true, destroy]
          cases killing : host.kill later with
          | mk result left =>
              cases result with
              | ok => exact .killed waited killing
              | error => exact .unkillable waited killing

/-- What a process prints while it is brought down. -/
def lateEvents (host : ProcessHost σ) (settings : SupervisorSettings) (state : σ) :
    List StreamEvent :=
  (host.pastEvents (host.drain drainTime (host.bringDown settings state))).1

theorem abort_eq (host : ProcessHost σ) (settings : SupervisorSettings) (classifier : Classifier)
    (state : σ) :
    host.abort settings classifier state =
      (classifier.run (host.lateEvents settings state),
        (host.pastEvents (host.drain drainTime (host.bringDown settings state))).2) :=
  rfl

/-- All that happens from the connection of the readers up to the time of a start. -/
def eventsInTime (host : ProcessHost σ) (settings : SupervisorSettings) (state : σ) :
    List StreamEvent :=
  (.attach :: (host.pastEvents state).1) ++ .attach :: (host.startHearing settings state).events

theorem watch_firstSettled {host : ProcessHost σ} {settings : SupervisorSettings} {state : σ}
    {verdict : StartupVerdict} {lines : List (List Char)}
    (ends : EndsOpenStreams (host.startEvents settings state))
    (first : settings.patterns.FirstSettled (host.startEvents settings state) verdict lines) :
    (host.watch settings state).1.verdict = some verdict ∧
      (host.watch settings state).1.lines = lines := by
  rw [watch_eq_run]
  exact Classifier.run_firstSettled ends first

/-- If nothing ends before the second reader is connected, both streams have ended by the time that
the end of output counts. -/
theorem both_ended_of_closed {host : ProcessHost σ} {settings : SupervisorSettings} {state : σ}
    {lines : List (List Char)} (connected : .ended ∉ (host.pastEvents state).1)
    (first : settings.patterns.FirstSettled (host.startEvents settings state) .closed lines) :
    2 ≤ (host.startEvents settings state).count .ended := by
  obtain ⟨earlier, later, split, balanced⟩ := first.closed_inv
  have upToEnd : earlier ++ [.ended] <+: host.startEvents settings state :=
    ⟨later, by rw [split, List.append_assoc]; rfl⟩
  have upToSecond :
      .attach :: (host.pastEvents state).1 ++ [.attach] <+: host.startEvents settings state :=
    ⟨_, List.append_assoc _ _ _⟩
  -- Of two beginnings of one list one begins with the other, and nothing has ended in the second.
  have both : .attach :: (host.pastEvents state).1 ++ [.attach] <+: earlier ++ [.ended] := by
    rcases List.prefix_or_prefix_of_prefix upToEnd upToSecond with before | after
    · have early := before.subset (List.mem_append_right _ (List.mem_singleton_self _))
      simp [connected] at early
    · exact after
  have attached := both.sublist.count_le StreamEvent.attach
  have ended := upToEnd.sublist.count_le StreamEvent.ended
  simp at attached ended
  omega

theorem startEvents_prefix (host : ProcessHost σ) (settings : SupervisorSettings) (state : σ) :
    host.startEvents settings state <+: host.eventsInTime settings state :=
  (List.prefix_append_right_inj _).mpr
    ((List.prefix_cons_inj _).mpr (Classifier.taken_prefix _ _))

/-- A start that is not settled has taken in everything and waited for as long as it may. -/
theorem waited_of_unsettled {host : ProcessHost σ} {settings : SupervisorSettings} {state : σ}
    (unset : (host.watch settings state).1.verdict = none) :
    host.startEvents settings state = host.eventsInTime settings state ∧
      (host.watch settings state).2 = (host.startHearing settings state).last := by
  obtain ⟨all, last⟩ := Hearing.waited_of_unsettled unset
  refine ⟨?_, last⟩
  exact congrArg (fun heard => (.attach :: (host.pastEvents state).1) ++ .attach :: heard) all

theorem unsettled_of_undecided {host : ProcessHost σ} {settings : SupervisorSettings} {state : σ}
    (ends : EndsOpenStreams (host.startEvents settings state))
    (undecided : settings.patterns.Undecided (host.eventsInTime settings state)) :
    (host.watch settings state).1.verdict = none := by
  obtain ⟨more, whole⟩ := host.startEvents_prefix settings state
  rw [← whole] at undecided
  rw [watch_eq_run]
  exact (Classifier.run_undecided ends undecided.of_append).1

/-- What happens after a start has been settled does not change what settles it. -/
theorem firstSettled_inTime_iff {host : ProcessHost σ} {settings : SupervisorSettings} {state : σ}
    {verdict : StartupVerdict} {lines : List (List Char)}
    (ends : EndsOpenStreams (host.startEvents settings state)) :
    settings.patterns.FirstSettled (host.eventsInTime settings state) verdict lines ↔
      settings.patterns.FirstSettled (host.startEvents settings state) verdict lines := by
  obtain ⟨more, whole⟩ := host.startEvents_prefix settings state
  constructor
  · intro first
    by_cases undecided : settings.patterns.Undecided (host.startEvents settings state)
    · have unset := (Classifier.run_undecided ends undecided).1
      rw [← watch_eq_run] at unset
      rwa [(waited_of_unsettled unset).1]
    · rw [← whole] at first
      exact first.of_append undecided
  · intro first
    rw [← whole]
    exact first.append more

end ProcessHost

/-- A process that has got ready with some lines. -/
def SupervisorSettings.readyProcess (settings : SupervisorSettings) (lines : List (List Char)) :
    RunningProcess where
  pid := (lines.findSome? Classifier.reportedIn?).getD none
  startupTimeout := settings.startupTimeout
  startupOutput := bufferedText lines

/-- How a start comes out that finds its process started in `next`. -/
structure StartComesOut {σ : Type} (host : ProcessHost σ) (settings : SupervisorSettings)
    (next : σ) (result : Except SuperviseError RunningProcess × Supervisor × σ) : Prop where
  ok_iff : (∃ process, result.1 = .ok process) ↔
    ∃ lines, settings.patterns.FirstSettled (host.eventsInTime settings next) .ready lines
  ready : ∀ lines,
    settings.patterns.FirstSettled (host.eventsInTime settings next) .ready lines →
      result.1 = .ok (settings.readyProcess lines) ∧ result.2.1.state = .running ∧
        result.2.1.process = some (settings.readyProcess lines)
  failed : ∀ text lines,
    settings.patterns.FirstSettled (host.eventsInTime settings next) (.failed text) lines →
      result.1 = .error (.startupFailed settings.name (String.ofList text))
  closed : ∀ lines,
    settings.patterns.FirstSettled (host.eventsInTime settings next) .closed lines →
      result.1 = .error (.startupFailed settings.name
        (if bufferedText lines = "" then SupervisorSettings.silentExit else bufferedText lines))
  both_ended : .ended ∉ (host.pastEvents next).1 → ∀ lines,
    settings.patterns.FirstSettled (host.eventsInTime settings next) .closed lines →
      2 ≤ (host.startEvents settings next).count .ended
  timed_out : settings.patterns.Undecided (host.eventsInTime settings next) →
    (host.watch settings next).2 = (host.startHearing settings next).last ∧
      ∃ lines, settings.patterns.Buffered (host.eventsInTime settings next ++
          host.lateEvents settings (host.watch settings next).2) lines ∧
        result.1 = .error (.startupTimeout settings.name settings.startupTimeout
          (bufferedText lines))
  brought_down : (∀ process, result.1 ≠ .ok process) →
    result.2.1 = { settings, state := .startupFailed } ∧
      ∃ ended, host.BroughtDown settings.stepTimeout (host.watch settings next).2 ended ∧
        result.2.2 = (host.pastEvents (host.drain ProcessHost.drainTime ended)).2
  never_running : (∀ process, result.1 ≠ .ok process) → ∀ calls,
    ∀ record ∈ result.2.1.history host calls result.2.2, record.after.state ≠ .running

namespace Supervisor

variable {σ : Type} {host : ProcessHost σ} {settings : SupervisorSettings} {state next : σ}

theorem start_eq (spawned : host.spawn settings state = (.ok (), next)) :
    ({ settings } : Supervisor).start host state =
      match (host.watch settings next).1.outcome with
      | .ready =>
        let process : RunningProcess :=
          { pid := (host.watch settings next).1.pid
            startupTimeout := settings.startupTimeout
            startupOutput := (host.watch settings next).1.output }
        (.ok process, ({ settings, state := .starting } : Supervisor).withProcess process,
          (host.watch settings next).2)
      | outcome =>
        let (classifier, state) :=
          host.abort settings (host.watch settings next).1 (host.watch settings next).2
        (.error (settings.startupError outcome classifier.output),
          { settings, state := .startupFailed }, state) := by
  rw [start, if_neg (not_not.mpr rfl), spawned]
  rfl

theorem start_ready (spawned : host.spawn settings state = (.ok (), next))
    (known : (host.watch settings next).1.verdict = some .ready) :
    ({ settings } : Supervisor).start host state =
      (.ok (settings.readyProcess (host.watch settings next).1.lines),
        ({ settings } : Supervisor).withProcess
          (settings.readyProcess (host.watch settings next).1.lines),
        (host.watch settings next).2) := by
  rw [start_eq spawned, Classifier.outcome_of_settled _ known]
  dsimp only [StartupVerdict.outcome]
  rw [Classifier.output_eq]
  rfl

theorem start_unready (spawned : host.spawn settings state = (.ok (), next))
    (unready : (host.watch settings next).1.verdict ≠ some .ready) :
    ({ settings } : Supervisor).start host state =
      (.error (settings.startupError (host.watch settings next).1.outcome
          (bufferedText ((host.watch settings next).1.run
            (host.lateEvents settings (host.watch settings next).2)).lines)),
        { settings, state := .startupFailed },
        (host.pastEvents (host.drain ProcessHost.drainTime
          (host.bringDown settings (host.watch settings next).2))).2) := by
  rw [start_eq spawned, ProcessHost.abort_eq, ← Classifier.output_eq]
  cases known : (host.watch settings next).1.verdict with
  | none => simp only [Classifier.outcome, known]
  | some verdict =>
      cases verdict with
      | ready => exact absurd known unready
      | failed | closed => simp only [Classifier.outcome, known]

theorem start_unsettled (spawned : host.spawn settings state = (.ok (), next))
    (unset : (host.watch settings next).1.verdict = none) :
    (({ settings } : Supervisor).start host state).1 =
      .error (.startupTimeout settings.name settings.startupTimeout
        (bufferedText (({ patterns := settings.patterns } : Classifier).run
          (host.startEvents settings next ++
            host.lateEvents settings (host.watch settings next).2)).lines)) := by
  have unready : (host.watch settings next).1.verdict ≠ some .ready := by simp [unset]
  rw [start_unready spawned unready, Classifier.run_append, ← ProcessHost.watch_eq_run]
  simp [Classifier.outcome, unset, SupervisorSettings.startupError]

/-- What comes too late for a start changes only the text of its error. -/
theorem start_comes_out (host : ProcessHost σ) (settings : SupervisorSettings) {state next : σ}
    (spawned : host.spawn settings state = (.ok (), next))
    (ends : EndsOpenStreams (host.startEvents settings next ++
      host.lateEvents settings (host.watch settings next).2)) :
    StartComesOut host settings next (({ settings } : Supervisor).start host state) := by
  have heard := ends.of_prefix (List.prefix_append _ _)
  have inTime {verdict : StartupVerdict} {lines : List (List Char)}
      (first : settings.patterns.FirstSettled (host.eventsInTime settings next) verdict lines) :=
    ProcessHost.watch_firstSettled heard ((ProcessHost.firstSettled_inTime_iff heard).mp first)
  have unready_of_error : (∀ process,
      (({ settings } : Supervisor).start host state).1 ≠ .ok process) →
        (host.watch settings next).1.verdict ≠ some .ready := by
    intro failed known
    rw [start_ready spawned known] at failed
    exact failed _ rfl
  constructor
  case ok_iff =>
    constructor
    · rintro ⟨process, answered⟩
      by_cases known : (host.watch settings next).1.verdict = some .ready
      · rw [ProcessHost.watch_eq_run] at known
        have first := Classifier.firstSettled_of_run heard known
        exact ⟨_, (ProcessHost.firstSettled_inTime_iff heard).mpr first⟩
      · rw [start_unready spawned known] at answered
        cases answered
    · rintro ⟨lines, first⟩
      rw [start_ready spawned (inTime first).1]
      exact ⟨_, rfl⟩
  case ready =>
    intro lines first
    obtain ⟨known, held⟩ := inTime first
    rw [start_ready spawned known, held]
    exact ⟨rfl, rfl, rfl⟩
  case failed =>
    intro text lines first
    obtain ⟨known, -⟩ := inTime first
    have unready : (host.watch settings next).1.verdict ≠ some .ready := by simp [known]
    rw [start_unready spawned unready, Classifier.outcome_of_settled _ known]
    rfl
  case closed =>
    intro lines first
    obtain ⟨known, held⟩ := inTime first
    have unready : (host.watch settings next).1.verdict ≠ some .ready := by simp [known]
    have kept := (Classifier.run_of_settled (Option.isSome_of_mem known)
      (host.lateEvents settings (host.watch settings next).2)).2
    rw [start_unready spawned unready, Classifier.outcome_of_settled _ known, kept, held]
    simp [StartupVerdict.outcome, SupervisorSettings.startupError]
  case both_ended =>
    intro connected lines first
    exact ProcessHost.both_ended_of_closed connected
      ((ProcessHost.firstSettled_inTime_iff heard).mp first)
  case timed_out =>
    intro undecided
    have unset := ProcessHost.unsettled_of_undecided heard undecided
    obtain ⟨all, waited⟩ := ProcessHost.waited_of_unsettled unset
    rw [start_unsettled spawned unset, ← all]
    exact ⟨waited, _, Classifier.run_buffered ends, rfl⟩
  case brought_down =>
    intro failed
    rw [start_unready spawned (unready_of_error failed)]
    exact ⟨rfl, _, host.bringDown_broughtDown settings _, rfl⟩
  case never_running =>
    intro failed calls record member
    rw [start_unready spawned (unready_of_error failed)] at member
    obtain ⟨last, course⟩ := history_course host calls _ _
    rw [(course.states_kept rfl record member).2]
    exact SupervisorState.noConfusion

/-- The sign of readiness comes when the process is already being brought down, and the process has to
be killed. -/
theorem start_comes_out_late :
    let settings : SupervisorSettings :=
      { name := "server", executable := "mongod", address := ⟨.v4 .localhost, 27017, 0⟩
        patterns := { success := [['o', 'k']] } }
    let host : ProcessHost (List StreamEvent) :=
      { ProcessHost.playing [] with
        pastEvents := fun left => (left, [])
        hearing := fun _ left => .silent left
        awaitExit := fun _ left => (false, left)
        drain := fun _ _ => [.line ['o', 'k']] }
    host.spawn settings [] = (.ok (), []) ∧
      EndsOpenStreams (host.startEvents settings [] ++
        host.lateEvents settings (host.watch settings []).2) ∧
      StartComesOut host settings [] (({ settings } : Supervisor).start host []) ∧
      (({ settings } : Supervisor).start host []).1 =
        .error (.startupTimeout "server" 20000 "ok") := by
  intro settings host
  have ends : EndsOpenStreams (host.startEvents settings [] ++
      host.lateEvents settings (host.watch settings []).2) := by decide
  exact ⟨rfl, ends, start_comes_out host settings rfl ends, rfl⟩

end Supervisor

end ThrowawayServer
