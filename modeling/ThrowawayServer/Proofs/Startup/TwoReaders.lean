import Mathlib.Logic.Function.Basic
import ThrowawayServer.Proofs.Startup.FirstVerdict
import ThrowawayServer.Rehearsal.Shell.State

/-!
# Two readers and one classifier

A start connects one reader after the other, and from then on each of them goes through the lines
of its stream on its own. Whatever the order of their steps, the count of open streams is the number
of readers that are connected and not at their end. So the end of a stream settles a start once both
streams have ended, but also if the standard output ends before the error output is connected, and
in that case nothing that the error output says counts.
-/

set_option autoImplicit false

namespace ThrowawayServer

/-- How far the reader of a stream has come. -/
inductive ReaderState where
  | absent
  | reading (left : List (List Char))
  | finished
  deriving DecidableEq

/-- How many open streams a reader stands for. -/
def ReaderState.openStreams : ReaderState → Nat
  | .reading _ => 1
  | .absent | .finished => 0

/-- What happens to one stream in one step of a start or of its reader. -/
abbrev ReaderStep := OutputStream × StreamEvent

/-- A classifier that has taken in some steps. -/
def Classifier.ofSteps (patterns : StartupPatterns) (steps : List ReaderStep) : Classifier :=
  ({ patterns } : Classifier).run (steps.map Prod.snd)

/-- A classifier with the readers that tell it what they read. -/
structure SharedStart where
  classifier : Classifier
  reader : OutputStream → ReaderState

namespace SharedStart

/-- A start before it connects a reader. -/
def fresh (patterns : StartupPatterns) : SharedStart := ⟨{ patterns }, fun _ => .absent⟩

/-- A step that is possible now. The error output is the second one to be connected, and a reader
may go on as soon as it is connected itself. -/
inductive Step (script : OutputStream → List (List Char)) :
    SharedStart → ReaderStep → SharedStart → Prop where
  | attach {shared : SharedStart} {stream : OutputStream} (absent : shared.reader stream = .absent)
      (second : stream = .error → shared.reader .standard ≠ .absent) :
      Step script shared (stream, .attach)
        ⟨shared.classifier.attach, Function.update shared.reader stream (.reading (script stream))⟩
  | line {shared : SharedStart} {stream : OutputStream} {text : List Char}
      {left : List (List Char)} (reads : shared.reader stream = .reading (text :: left)) :
      Step script shared (stream, .line text)
        ⟨shared.classifier.feed text, Function.update shared.reader stream (.reading left)⟩
  | ended {shared : SharedStart} {stream : OutputStream}
      (reads : shared.reader stream = .reading []) :
      Step script shared (stream, .ended)
        ⟨shared.classifier.streamEnded, Function.update shared.reader stream .finished⟩

/-- Steps in some order, and what they lead to. -/
inductive Runs (script : OutputStream → List (List Char)) (patterns : StartupPatterns) :
    List ReaderStep → SharedStart → Prop where
  | start : Runs script patterns [] (fresh patterns)
  | step {steps : List ReaderStep} {label : ReaderStep} {shared next : SharedStart}
      (earlier : Runs script patterns steps shared) (step : Step script shared label next) :
      Runs script patterns (steps ++ [label]) next

variable {script : OutputStream → List (List Char)} {patterns : StartupPatterns}
  {steps earlier later : List ReaderStep} {label : ReaderStep} {shared next : SharedStart}

theorem Runs.of_concat (runs : Runs script patterns (steps ++ [label]) next) :
    ∃ shared, Runs script patterns steps shared ∧ Step script shared label next := by
  generalize whole : steps ++ [label] = all at runs
  cases runs with
  | start => exact absurd whole (by simp)
  | @step before last shared _ earlier step =>
      obtain ⟨rfl, same⟩ := List.append_inj' whole rfl
      cases same
      exact ⟨shared, earlier, step⟩

theorem Runs.at_step (runs : Runs script patterns (earlier ++ label :: later) next) :
    ∃ before after, Runs script patterns earlier before ∧ Step script before label after ∧
      Runs script patterns (earlier ++ [label]) after := by
  induction later using List.reverseRecOn generalizing next with
  | nil =>
      obtain ⟨shared, before, step⟩ := runs.of_concat
      exact ⟨shared, next, before, step, runs⟩
  | append_singleton later last ih =>
      rw [← List.cons_append, ← List.append_assoc] at runs
      obtain ⟨shared, before, -⟩ := runs.of_concat
      exact ih before

structure Follows (patterns : StartupPatterns) (steps : List ReaderStep) (shared : SharedStart) :
    Prop where
  classifier : shared.classifier = .ofSteps patterns steps
  counted : shared.classifier.openStreams =
    (shared.reader .standard).openStreams + (shared.reader .error).openStreams
  absent_iff : ∀ stream, shared.reader stream = .absent ↔ (stream, .attach) ∉ steps
  finished_iff : ∀ stream, shared.reader stream = .finished ↔ (stream, .ended) ∈ steps
  in_order : shared.reader .standard = .absent → shared.reader .error = .absent

theorem follows_fresh : Follows patterns [] (fresh patterns) := by
  constructor <;> simp [fresh, ReaderState.openStreams, Classifier.ofSteps, Classifier.run]

theorem Step.classifier_eq {stream : OutputStream} {event : StreamEvent}
    (step : Step script shared (stream, event) next) :
    next.classifier = shared.classifier.step event := by
  cases step <;> rfl

theorem Follows.step (follows : Follows patterns steps shared)
    (step : Step script shared label next) : Follows patterns (steps ++ [label]) next := by
  obtain ⟨stream, event⟩ := label
  obtain ⟨classifier, counted, absent_iff, finished_iff, in_order⟩ := follows
  constructor
  case classifier =>
    rw [step.classifier_eq, classifier, Classifier.ofSteps, Classifier.ofSteps, List.map_append]
    exact (Classifier.run_concat _ _ _).symm
  case counted =>
    cases step with
    | attach absent =>
        cases stream <;>
          simp [Classifier.attach, counted, absent, ReaderState.openStreams, Nat.add_comm]
    | line reads =>
        cases stream <;>
          simp [Classifier.feed_openStreams, counted, reads, ReaderState.openStreams]
    | ended reads =>
        cases stream <;>
          simp [Classifier.streamEnded_openStreams, counted, reads, ReaderState.openStreams]
  case absent_iff =>
    intro other
    have known := absent_iff other
    by_cases same : other = stream
    · subst same
      cases step with
      | attach => simp
      | line reads | ended reads => simpa [reads] using known
    · cases step <;> simpa [same] using known
  case finished_iff =>
    intro other
    have known := finished_iff other
    by_cases same : other = stream
    · subst same
      cases step with
      | attach absent => simpa [absent] using known
      | line reads => simpa [reads] using known
      | ended => simp
    · cases step <;> simpa [same] using known
  case in_order =>
    intro absent
    cases step with
    | attach _ second =>
        cases stream with
        | standard => simp at absent
        | error => exact absurd (by simpa using absent) (second rfl)
    | line reads | ended reads =>
        cases stream with
        | standard => simp at absent
        | error =>
            rw [in_order (by simpa using absent)] at reads
            cases reads

theorem Follows.patterns_eq (follows : Follows patterns steps shared) :
    shared.classifier.patterns = patterns := by
  rw [follows.classifier, Classifier.ofSteps, Classifier.run_patterns]

theorem Runs.follows (runs : Runs script patterns steps shared) :
    Follows patterns steps shared := by
  induction runs with
  | start => exact follows_fresh
  | step _ step ih => exact ih.step step

end SharedStart

/-!
## When the end of a stream counts
-/

def linesOf (steps : List ReaderStep) : List (List Char) := fedLines (steps.map Prod.snd)

def HaveEnded (steps : List ReaderStep) : Prop :=
  (OutputStream.standard, StreamEvent.ended) ∈ steps ∧
    (OutputStream.error, StreamEvent.ended) ∈ steps

instance (steps : List ReaderStep) : Decidable (HaveEnded steps) :=
  inferInstanceAs (Decidable (_ ∧ _))

/-- The standard output does not end before the error output is connected. -/
def ConnectedInTime (steps : List ReaderStep) : Prop :=
  ∀ earlier later, steps = earlier ++ (.standard, .ended) :: later → (.error, .attach) ∈ earlier

theorem ConnectedInTime.of_append {earlier later : List ReaderStep}
    (connected : ConnectedInTime (earlier ++ later)) : ConnectedInTime earlier := by
  intro before after split
  apply connected before (after ++ later)
  rw [split, List.append_assoc, List.cons_append]

theorem HaveEnded.append {earlier : List ReaderStep} (ended : HaveEnded earlier)
    (later : List ReaderStep) : HaveEnded (earlier ++ later) :=
  ⟨List.mem_append_left _ ended.1, List.mem_append_left _ ended.2⟩

theorem Classifier.streamEnded_lines (classifier : Classifier) :
    classifier.streamEnded.lines = classifier.lines := by
  by_cases final : classifier.openStreams = 1 <;> simp [streamEnded, settle, final]

theorem linesOf_concat (steps : List ReaderStep) (label : ReaderStep) :
    linesOf (steps ++ [label]) = linesOf steps ++ label.2.line?.toList := by
  rw [linesOf, List.map_append]
  exact Classifier.fedLines_concat _ _

namespace SharedStart

variable {script : OutputStream → List (List Char)} {patterns : StartupPatterns}
  {steps : List ReaderStep} {label : ReaderStep} {shared next : SharedStart}
  {stream : OutputStream}

theorem Follows.last_open_iff (follows : Follows patterns steps shared)
    (reads : shared.reader stream = .reading []) :
    shared.classifier.openStreams = 1 ↔
      HaveEnded (steps ++ [(stream, .ended)]) ∨ (.error, .attach) ∉ steps := by
  rw [follows.counted, HaveEnded, ← follows.absent_iff]
  cases stream with
  | standard =>
      have ended : (.error, .ended) ∈ steps ++ [(.standard, .ended)] ↔
          shared.reader .error = .finished := by
        simp [follows.finished_iff]
      rw [reads, ended]
      cases shared.reader .error <;> simp [ReaderState.openStreams]
  | error =>
      have ended : (.standard, .ended) ∈ steps ++ [(.error, .ended)] ↔
          shared.reader .standard = .finished := by
        simp [follows.finished_iff]
      have connected : shared.reader .standard ≠ .absent := by
        intro absent
        rw [follows.in_order absent] at reads
        cases reads
      rw [reads, ended]
      cases other : shared.reader .standard with
      | absent => exact absurd other connected
      | reading left | finished => simp [ReaderState.openStreams]

theorem Follows.attached (follows : Follows patterns steps shared) {left : List (List Char)}
    (reads : shared.reader stream = .reading left) : (stream, .attach) ∈ steps := by
  by_contra missing
  rw [(follows.absent_iff stream).mpr missing] at reads
  cases reads

theorem Follows.not_ended (follows : Follows patterns steps shared) {left : List (List Char)}
    (reads : shared.reader stream = .reading left) : (stream, .ended) ∉ steps := by
  intro ended
  rw [(follows.finished_iff stream).mpr ended] at reads
  cases reads

theorem Follows.not_haveEnded (follows : Follows patterns steps shared) {left : List (List Char)}
    (reads : shared.reader stream = .reading left) : ¬ HaveEnded steps := by
  rintro ⟨standard, error⟩
  cases stream with
  | standard => exact follows.not_ended reads standard
  | error => exact follows.not_ended reads error

/-- The end of a stream is seen when both readers are connected, if they are connected in time. -/
theorem Follows.error_attached (follows : Follows patterns steps shared)
    (step : Step script shared (stream, .ended) next)
    (connected : ConnectedInTime (steps ++ [(stream, .ended)])) : (.error, .attach) ∈ steps := by
  cases stream with
  | standard => exact connected steps [] rfl
  | error => cases step with | ended reads => exact follows.attached reads

/-- What a step settles after some others, if nothing is settled before it. -/
def settles? (patterns : StartupPatterns) (earlier : List ReaderStep) :
    ReaderStep → Option StartupVerdict
  | (_, .attach) => none
  | (_, .line text) => patterns.classify text
  | (stream, .ended) =>
    if HaveEnded (earlier ++ [(stream, .ended)]) ∨ (.error, .attach) ∉ earlier then
      some patterns.atEnd
    else none

theorem Follows.step_settles (follows : Follows patterns steps shared)
    (step : Step script shared label next) (unsettled : shared.classifier.verdict = none) :
    next.classifier.verdict = settles? patterns steps label ∧
      next.classifier.lines = shared.classifier.lines ++ label.2.line?.toList := by
  cases step with
  | attach => exact ⟨unsettled, (List.append_nil _).symm⟩
  | line =>
      simp [Classifier.feed, unsettled, follows.patterns_eq, settles?, StreamEvent.line?]
  | ended reads =>
      refine ⟨?_, by rw [Classifier.streamEnded_lines]; exact (List.append_nil _).symm⟩
      have last := follows.last_open_iff reads
      by_cases single : shared.classifier.openStreams = 1
      · rw [settles?, if_pos (last.mp single)]
        simp [Classifier.streamEnded, Classifier.settle, single, unsettled, follows.patterns_eq]
      · rw [settles?, if_neg (mt last.mpr single)]
        simp [Classifier.streamEnded, single, unsettled]

theorem Step.verdict_of_settled (step : Step script shared label next) {verdict : StartupVerdict}
    (known : shared.classifier.verdict = some verdict) :
    next.classifier.verdict = some verdict := by
  obtain ⟨stream, event⟩ := label
  rw [step.classifier_eq]
  exact (Classifier.step_of_settled (Option.isSome_of_mem known) event).1.trans known

theorem Runs.lines_eq (runs : Runs script patterns steps shared)
    (unsettled : shared.classifier.verdict = none) :
    shared.classifier.lines = linesOf steps := by
  induction runs with
  | start => rfl
  | @step steps label shared next earlier step ih =>
      cases before : shared.classifier.verdict with
      | some verdict =>
          rw [step.verdict_of_settled before] at unsettled
          cases unsettled
      | none => rw [(earlier.follows.step_settles step before).2, ih before, linesOf_concat]

/-- With both readers connected in time nothing but a line that the patterns know, or the end of
both streams, settles a start. -/
theorem Runs.settled_by (runs : Runs script patterns steps shared)
    (connected : ConnectedInTime steps) {verdict : StartupVerdict}
    (known : shared.classifier.verdict = some verdict) :
    (∃ text ∈ linesOf steps, patterns.classify text = some verdict) ∨
      verdict = patterns.atEnd ∧ HaveEnded steps := by
  induction runs with
  | start => cases known
  | @step steps label shared next earlier step ih =>
      rw [linesOf_concat]
      cases before : shared.classifier.verdict with
      | some first =>
          rw [step.verdict_of_settled before] at known
          rcases ih connected.of_append (before.trans known) with
            ⟨text, inside, decisive⟩ | ⟨atEnd, ended⟩
          · exact .inl ⟨text, List.mem_append_left _ inside, decisive⟩
          · exact .inr ⟨atEnd, ended.append _⟩
      | none =>
          rw [(earlier.follows.step_settles step before).1] at known
          obtain ⟨stream, event⟩ := label
          cases event with
          | attach => cases known
          | line text =>
              exact .inl ⟨text, List.mem_append_right _ (List.mem_singleton.mpr rfl), known⟩
          | ended =>
              -- The error output is connected, so that only the end of both streams is left.
              have attached := earlier.follows.error_attached step connected
              rw [settles?] at known
              split at known
              · next both =>
                  exact .inr ⟨(Option.some.inj known).symm, both.resolve_right (by simp [attached])⟩
              · cases known

theorem Runs.unsettled (runs : Runs script patterns steps shared)
    (connected : ConnectedInTime steps)
    (quiet : ∀ text ∈ linesOf steps, patterns.classify text = none) (unended : ¬ HaveEnded steps) :
    shared.classifier.verdict = none := by
  cases known : shared.classifier.verdict with
  | none => rfl
  | some verdict =>
      rcases runs.settled_by connected known with ⟨text, inside, decisive⟩ | ⟨-, ended⟩
      · rw [quiet text inside] at decisive
        cases decisive
      · exact absurd ended unended

end SharedStart

/-!
## What a start makes of it
-/

/-- What the steps of both readers mean for a start. -/
structure ReadersHeard (patterns : StartupPatterns) (steps : List ReaderStep)
    (classifier : Classifier) : Prop where
  at_end : ∀ earlier stream later, steps = earlier ++ (stream, .ended) :: later →
    (Classifier.ofSteps patterns earlier).verdict = none →
      (Classifier.ofSteps patterns (earlier ++ [(stream, .ended)])).verdict =
        if HaveEnded (earlier ++ [(stream, .ended)]) ∨ (.error, .attach) ∉ earlier then
          some patterns.atEnd else none
  settled_by : ConnectedInTime steps → ∀ verdict, classifier.verdict = some verdict →
    (∃ text ∈ linesOf steps, patterns.classify text = some verdict) ∨
      verdict = patterns.atEnd ∧ HaveEnded steps
  in_time : ConnectedInTime steps → ∀ earlier stream text later verdict,
    steps = earlier ++ (stream, .line text) :: later →
      (∀ line ∈ linesOf earlier, patterns.classify line = none) →
        patterns.classify text = some verdict → classifier.verdict = some verdict
  too_late : ∀ earlier later, steps = earlier ++ (.standard, .ended) :: later →
    (.error, .attach) ∉ earlier → (∀ line ∈ linesOf earlier, patterns.classify line = none) →
      classifier.verdict = some patterns.atEnd ∧ classifier.lines = linesOf earlier

namespace SharedStart

variable {script : OutputStream → List (List Char)} {patterns : StartupPatterns}
  {steps : List ReaderStep} {shared next : SharedStart}

theorem Runs.verdict_kept {earlier later : List ReaderStep} {label : ReaderStep}
    {after : SharedStart} {verdict : StartupVerdict}
    (runs : Runs script patterns (earlier ++ label :: later) shared)
    (reached : Runs script patterns (earlier ++ [label]) after)
    (known : after.classifier.verdict = some verdict) :
    shared.classifier.verdict = some verdict ∧
      shared.classifier.lines = after.classifier.lines := by
  have continued : shared.classifier = after.classifier.run (later.map Prod.snd) := by
    rw [runs.follows.classifier, reached.follows.classifier, Classifier.ofSteps,
      Classifier.ofSteps, ← Classifier.run_append]
    simp
  obtain ⟨kept, lines⟩ :=
    Classifier.run_of_settled (Option.isSome_of_mem known) (later.map Prod.snd)
  rw [continued, kept]
  exact ⟨known, lines⟩

theorem Runs.heard (runs : Runs script patterns steps shared) :
    ReadersHeard patterns steps shared.classifier := by
  constructor
  case at_end =>
    rintro earlier stream later rfl unsettled
    obtain ⟨before, after, first, step, reached⟩ := runs.at_step
    rw [← first.follows.classifier] at unsettled
    rw [← reached.follows.classifier]
    exact (first.follows.step_settles step unsettled).1
  case settled_by => exact fun connected _ known => runs.settled_by connected known
  case in_time =>
    rintro connected earlier stream text later verdict rfl quiet decisive
    obtain ⟨before, after, first, step, reached⟩ := runs.at_step
    have unended : ¬ HaveEnded earlier := by
      cases step with | line reads => exact first.follows.not_haveEnded reads
    have unsettled := first.unsettled connected.of_append quiet unended
    have settled := (first.follows.step_settles step unsettled).1
    exact (runs.verdict_kept reached (settled.trans decisive)).1
  case too_late =>
    rintro earlier later rfl missing quiet
    obtain ⟨before, after, first, step, reached⟩ := runs.at_step
    have unended : (.standard, .ended) ∉ earlier := by
      cases step with | ended reads => exact first.follows.not_ended reads
    have connected : ConnectedInTime earlier := by
      rintro before later rfl
      exact absurd (List.mem_append_right _ List.mem_cons_self) unended
    have unsettled := first.unsettled connected quiet (fun ended => unended ended.1)
    obtain ⟨verdict, lines⟩ := first.follows.step_settles step unsettled
    rw [settles?, if_pos (.inr missing)] at verdict
    obtain ⟨kept, held⟩ := runs.verdict_kept reached verdict
    rw [kept, held, lines, first.lines_eq unsettled]
    exact ⟨rfl, List.append_nil _⟩

end SharedStart

end ThrowawayServer
