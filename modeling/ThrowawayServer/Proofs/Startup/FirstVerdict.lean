import Mathlib.Data.List.Induction
import Mathlib.Data.List.Infix
import ThrowawayServer.Supervisor.Lifecycle

/-!
# The first verdict counts

Which event settles a start can be read off the events alone: a line that the patterns know, or
the end of a stream that leaves none open. A classifier comes to the verdict of the first such
event, holds the lines up to that event and takes in nothing afterwards, so that waiting for it
again changes nothing.
-/

set_option autoImplicit false

namespace ThrowawayServer

/-- Only streams that are open come to an end. -/
def EndsOpenStreams (events : List StreamEvent) : Prop :=
  ∀ prior, prior <+: events → prior.count .ended ≤ prior.count .attach

instance (events : List StreamEvent) : Decidable (EndsOpenStreams events) :=
  decidable_of_iff (∀ prior ∈ events.inits, prior.count .ended ≤ prior.count .attach)
    (by simp only [List.mem_inits, EndsOpenStreams])

def StreamEvent.line? : StreamEvent → Option (List Char)
  | .line text => some text
  | _ => none

def fedLines (events : List StreamEvent) : List (List Char) := events.filterMap StreamEvent.line?

/-- What an event settles by itself after some others. -/
def StartupPatterns.settled? (patterns : StartupPatterns) (earlier : List StreamEvent) :
    StreamEvent → Option StartupVerdict
  | .attach => none
  | .line text => patterns.classify text
  | .ended =>
    if earlier.count .ended + 1 = earlier.count .attach then
      some (if patterns.succeedsAtEnd then .ready else .closed)
    else none

/-- None of the events settles anything. -/
def StartupPatterns.Undecided (patterns : StartupPatterns) (events : List StreamEvent) : Prop :=
  ∀ earlier event later, events = earlier ++ event :: later → patterns.settled? earlier event = none

namespace StartupPatterns

variable {patterns : StartupPatterns} {events : List StreamEvent} {event : StreamEvent}

theorem Undecided.nil : patterns.Undecided [] := by
  intro earlier event later split
  cases earlier <;> cases split

theorem Undecided.of_append {more : List StreamEvent}
    (undecided : patterns.Undecided (events ++ more)) : patterns.Undecided events :=
  fun earlier event later split =>
    undecided earlier event (later ++ more) (by rw [split, List.append_assoc, List.cons_append])

theorem undecided_concat :
    patterns.Undecided (events ++ [event]) ↔
      patterns.Undecided events ∧ patterns.settled? events event = none := by
  constructor
  · intro undecided
    exact ⟨undecided.of_append, undecided events event [] rfl⟩
  · rintro ⟨undecided, quiet⟩ earlier other later split
    rcases List.eq_nil_or_concat later with rfl | ⟨between, final, rfl⟩
    · obtain ⟨rfl, same⟩ := List.append_inj' split rfl
      cases same
      exact quiet
    · rw [List.concat_eq_append, ← List.cons_append, ← List.append_assoc] at split
      obtain ⟨rfl, -⟩ := List.append_inj' split rfl
      exact undecided earlier other between rfl

theorem undecided_or_first (patterns : StartupPatterns) (events : List StreamEvent) :
    patterns.Undecided events ∨
      ∃ earlier event later verdict, events = earlier ++ event :: later ∧
        patterns.Undecided earlier ∧ patterns.settled? earlier event = some verdict := by
  induction events using List.reverseRecOn with
  | nil => exact .inl .nil
  | append_singleton events event ih =>
      rcases ih with undecided | ⟨earlier, first, later, verdict, rfl, undecided, settles⟩
      · cases settled : patterns.settled? events event with
        | none => exact .inl (undecided_concat.mpr ⟨undecided, settled⟩)
        | some verdict => exact .inr ⟨events, event, [], verdict, rfl, undecided, settled⟩
      · refine .inr ⟨earlier, first, later ++ [event], verdict, ?_, undecided, settles⟩
        rw [List.append_assoc]
        rfl

end StartupPatterns

theorem EndsOpenStreams.of_prefix {events prior : List StreamEvent} (ends : EndsOpenStreams events)
    (before : prior <+: events) : EndsOpenStreams prior :=
  fun first earlier => ends first (earlier.trans before)

namespace Classifier

variable {classifier : Classifier} {patterns : StartupPatterns} {events : List StreamEvent}

theorem joinLines_eq_intercalate (lines : List (List Char)) :
    joinLines lines = ['\n'].intercalate lines := by
  induction lines with
  | nil => rfl
  | cons line rest ih =>
      cases rest with
      | nil => simp [joinLines]
      | cons next rest => simp [joinLines, ih, List.intercalate_cons_cons]

theorem run_append (classifier : Classifier) (events more : List StreamEvent) :
    classifier.run (events ++ more) = (classifier.run events).run more :=
  List.foldl_append

@[simp] theorem step_patterns (classifier : Classifier) (event : StreamEvent) :
    (classifier.step event).patterns = classifier.patterns := by
  cases event with
  | attach => rfl
  | line text => by_cases settled : classifier.verdict.isSome <;> simp [step, feed, settled]
  | ended => by_cases final : classifier.openStreams = 1 <;> simp [step, streamEnded, settle, final]

@[simp] theorem run_patterns (classifier : Classifier) (events : List StreamEvent) :
    (classifier.run events).patterns = classifier.patterns := by
  induction events generalizing classifier with
  | nil => rfl
  | cons event events ih => exact (ih _).trans (classifier.step_patterns event)

theorem step_of_settled (settled : classifier.verdict.isSome) (event : StreamEvent) :
    (classifier.step event).verdict = classifier.verdict ∧
      (classifier.step event).lines = classifier.lines := by
  obtain ⟨verdict, known⟩ := Option.isSome_iff_exists.mp settled
  cases event with
  | attach => exact ⟨rfl, rfl⟩
  | line text => simp [step, feed, known]
  | ended =>
      by_cases final : classifier.openStreams = 1 <;> simp [step, streamEnded, settle, final, known]

theorem run_of_settled (settled : classifier.verdict.isSome) (events : List StreamEvent) :
    (classifier.run events).verdict = classifier.verdict ∧
      (classifier.run events).lines = classifier.lines := by
  induction events generalizing classifier with
  | nil => exact ⟨rfl, rfl⟩
  | cons event events ih =>
      obtain ⟨verdict, lines⟩ := step_of_settled settled event
      have stays : (classifier.step event).verdict.isSome := by rwa [verdict]
      obtain ⟨finalVerdict, finalLines⟩ := ih stays
      exact ⟨finalVerdict.trans verdict, finalLines.trans lines⟩

theorem run_concat (classifier : Classifier) (events : List StreamEvent) (event : StreamEvent) :
    classifier.run (events ++ [event]) = (classifier.run events).step event :=
  classifier.run_append events [event]

theorem feed_openStreams (classifier : Classifier) (text : List Char) :
    (classifier.feed text).openStreams = classifier.openStreams := by
  by_cases settled : classifier.verdict.isSome <;> simp [feed, settled]

theorem streamEnded_openStreams (classifier : Classifier) :
    classifier.streamEnded.openStreams = classifier.openStreams - 1 := by
  by_cases final : classifier.openStreams = 1 <;> simp [streamEnded, settle, final]

theorem run_openStreams (ends : EndsOpenStreams events) :
    (({ patterns } : Classifier).run events).openStreams + events.count .ended =
      events.count .attach := by
  induction events using List.reverseRecOn with
  | nil => rfl
  | append_singleton events event ih =>
      have counted := ih (ends.of_prefix (List.prefix_append _ _))
      have bound := ends (events ++ [event]) (List.prefix_refl _)
      rw [run_concat]
      cases event with
      | attach =>
          have attached :
              (events ++ [StreamEvent.attach]).count .attach = events.count .attach + 1 := by simp
          have ended :
              (events ++ [StreamEvent.attach]).count .ended = events.count .ended := by simp
          rw [attached, ended, step, attach]
          dsimp only
          omega
      | line text => simpa [step, feed_openStreams] using counted
      | ended =>
          have attached :
              (events ++ [StreamEvent.ended]).count .attach = events.count .attach := by simp
          have ended :
              (events ++ [StreamEvent.ended]).count .ended = events.count .ended + 1 := by simp
          rw [attached, ended] at bound
          rw [attached, ended, step, streamEnded_openStreams]
          omega

theorem fedLines_concat (events : List StreamEvent) (event : StreamEvent) :
    fedLines (events ++ [event]) = fedLines events ++ event.line?.toList := by
  cases event <;> simp [fedLines, StreamEvent.line?]

theorem step_of_unsettled (unsettled : classifier.verdict = none)
    (lines : classifier.lines = fedLines events)
    (counted : classifier.openStreams + events.count .ended = events.count .attach)
    (event : StreamEvent) :
    (classifier.step event).verdict = classifier.patterns.settled? events event ∧
      (classifier.step event).lines = fedLines (events ++ [event]) := by
  rw [fedLines_concat, ← lines]
  cases event with
  | attach => exact ⟨unsettled, (List.append_nil _).symm⟩
  | line text =>
      simp [step, feed, unsettled, StartupPatterns.settled?, StreamEvent.line?]
  | ended =>
      by_cases final : classifier.openStreams = 1
      · have last : events.count .ended + 1 = events.count .attach := by omega
        simp [step, streamEnded, settle, final, unsettled, StartupPatterns.settled?, last,
          StartupPatterns.atEnd, StreamEvent.line?]
      · have more : events.count .ended + 1 ≠ events.count .attach := by omega
        simp [step, streamEnded, final, unsettled, StartupPatterns.settled?, more,
          StreamEvent.line?]

theorem run_undecided (ends : EndsOpenStreams events) (undecided : patterns.Undecided events) :
    (({ patterns } : Classifier).run events).verdict = none ∧
      (({ patterns } : Classifier).run events).lines = fedLines events := by
  induction events using List.reverseRecOn with
  | nil => exact ⟨rfl, rfl⟩
  | append_singleton events event ih =>
      obtain ⟨undecided, quiet⟩ := StartupPatterns.undecided_concat.mp undecided
      have endsBefore := ends.of_prefix (List.prefix_append _ _)
      obtain ⟨unsettled, lines⟩ := ih endsBefore undecided
      have step := step_of_unsettled unsettled lines (run_openStreams endsBefore) event
      rw [run_patterns, quiet] at step
      rwa [run_concat]

/-- The first event that settles a start settles it for good. -/
theorem run_first {earlier later : List StreamEvent} {event : StreamEvent}
    {verdict : StartupVerdict} (ends : EndsOpenStreams (earlier ++ event :: later))
    (undecided : patterns.Undecided earlier)
    (settles : patterns.settled? earlier event = some verdict) :
    (({ patterns } : Classifier).run (earlier ++ event :: later)).verdict = some verdict ∧
      (({ patterns } : Classifier).run (earlier ++ event :: later)).lines =
        fedLines (earlier ++ [event]) := by
  have endsBefore := ends.of_prefix (List.prefix_append _ _)
  obtain ⟨unsettled, lines⟩ := run_undecided endsBefore undecided
  obtain ⟨known, held⟩ := step_of_unsettled unsettled lines (run_openStreams endsBefore) event
  rw [run_patterns, settles] at known
  obtain ⟨verdictKept, linesKept⟩ := run_of_settled (Option.isSome_of_mem known) later
  rw [run_append]
  exact ⟨verdictKept.trans known, linesKept.trans held⟩

end Classifier

def StartupVerdict.outcome : StartupVerdict → StartupOutcome
  | .ready => .ready
  | .failed text => .failed text
  | .closed => .closed

theorem Classifier.outcome_of_settled (classifier : Classifier) {verdict : StartupVerdict}
    (known : classifier.verdict = some verdict) : classifier.outcome = verdict.outcome := by
  cases verdict <;> simp [outcome, StartupVerdict.outcome, known]

namespace ProcessHost

variable {σ : Type} {classifier : Classifier} {verdict : StartupVerdict}

/-- What one wait after another comes back with, each of them with its own time. -/
def awaitOutcomes (host : ProcessHost σ) :
    List Nat → Classifier → σ → List StartupOutcome
  | [], _, _ => []
  | timeout :: timeouts, classifier, state =>
    let (classifier, state) := host.awaitVerdict (host.now state + timeout) classifier state
    classifier.outcome :: awaitOutcomes host timeouts classifier state

theorem awaitVerdict_of_settled (host : ProcessHost σ) (deadline : Nat)
    (settled : classifier.verdict.isSome) (state : σ) :
    host.awaitVerdict deadline classifier state = (classifier, state) := by
  cases heard : host.hearing deadline state <;>
    rw [awaitVerdict, heard, Hearing.listen, if_pos settled]

theorem awaitOutcomes_of_settled (host : ProcessHost σ) (timeouts : List Nat)
    (known : classifier.verdict = some verdict) (state : σ) :
    host.awaitOutcomes timeouts classifier state =
      List.replicate timeouts.length verdict.outcome := by
  have settled : classifier.verdict.isSome := Option.isSome_of_mem known
  induction timeouts with
  | nil => rfl
  | cons timeout timeouts ih =>
      rw [awaitOutcomes, host.awaitVerdict_of_settled _ settled state]
      simp only [classifier.outcome_of_settled known, ih, List.length_cons, List.replicate_succ]

end ProcessHost

/-- What a classifier has come to after some events. -/
structure FirstVerdictKept (patterns : StartupPatterns) (events : List StreamEvent)
    (classifier : Classifier) : Prop where
  unset_iff : classifier.verdict = none ↔ patterns.Undecided events
  first : ∀ earlier event later verdict, events = earlier ++ event :: later →
    patterns.Undecided earlier → patterns.settled? earlier event = some verdict →
      classifier.verdict = some verdict ∧
        classifier.output = String.ofList (['\n'].intercalate (fedLines (earlier ++ [event])))
  output_unset : patterns.Undecided events →
    classifier.output = String.ofList (['\n'].intercalate (fedLines events))
  kept : classifier.verdict.isSome → ∀ more,
    (classifier.run more).verdict = classifier.verdict ∧
      (classifier.run more).output = classifier.output
  open_streams : classifier.openStreams + events.count .ended = events.count .attach
  awaited : ∀ verdict, classifier.verdict = some verdict →
    ∀ {σ : Type} (host : ProcessHost σ) (timeouts : List Nat) (state : σ),
      host.awaitOutcomes timeouts classifier state =
        List.replicate timeouts.length verdict.outcome

namespace Classifier

theorem run_keeps_first_verdict (patterns : StartupPatterns) (events : List StreamEvent)
    (ends : EndsOpenStreams events) :
    FirstVerdictKept patterns events (({ patterns } : Classifier).run events) := by
  have output_eq : ∀ classifier : Classifier,
      classifier.output = String.ofList (['\n'].intercalate classifier.lines) := by
    intro classifier
    rw [output, joinLines_eq_intercalate]
  constructor
  case unset_iff =>
    constructor
    · intro unset
      rcases patterns.undecided_or_first events with
        undecided | ⟨earlier, event, later, verdict, rfl, undecided, settles⟩
      · exact undecided
      · rw [(run_first ends undecided settles).1] at unset
        cases unset
    · exact fun undecided => (run_undecided ends undecided).1
  case first =>
    rintro earlier event later verdict rfl undecided settles
    obtain ⟨known, held⟩ := run_first ends undecided settles
    exact ⟨known, by rw [output_eq, held]⟩
  case output_unset =>
    intro undecided
    rw [output_eq, (run_undecided ends undecided).2]
  case kept =>
    intro settled more
    obtain ⟨verdict, lines⟩ := run_of_settled settled more
    exact ⟨verdict, by rw [output, output, lines]⟩
  case open_streams => exact run_openStreams ends
  case awaited =>
    exact fun verdict known _ host timeouts state =>
      host.awaitOutcomes_of_settled timeouts known state

/-- Two streams, a sign of readiness on one of them and what comes too late on the other. -/
theorem run_keeps_first_verdict_of_two_streams :
    let patterns : StartupPatterns := { success := [['o', 'k']] }
    let events : List StreamEvent :=
      [.attach, .line ['u', 'p'], .attach, .line ['o', 'k'], .ended, .line ['n', 'o'], .ended]
    EndsOpenStreams events ∧
      FirstVerdictKept patterns events (({ patterns } : Classifier).run events) := by
  intro patterns events
  have ends : EndsOpenStreams events := by decide
  exact ⟨ends, run_keeps_first_verdict patterns events ends⟩

end Classifier

end ThrowawayServer
