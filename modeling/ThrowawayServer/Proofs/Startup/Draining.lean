import Mathlib.Logic.Function.Basic
import ThrowawayServer.Proofs.Startup.FirstVerdict
import ThrowawayServer.Proofs.Startup.LineReading

/-!
# Any number of streams

Programs may have any number of output streams. Their pieces come in any order, and each reader goes
on when a piece of its stream has come. A stream counts as open until it has come to its end, unless
one of its lines is not UTF-8: then its reader stops in the middle, and the classifier takes that
for the end.
-/

set_option autoImplicit false

namespace ThrowawayServer

/-- A stream that a reader is connected to. -/
structure Pipe where
  /-- All that has come from the program. -/
  written : List UInt8 := []
  reader : LineReader := {}
  /-- The program has closed the stream. -/
  isOver : Bool := false

/-- What can happen to a stream. -/
inductive PipeStep where
  | connect
  | piece (bytes : List UInt8)
  | close

namespace Pipe

/-- The lines that are known to be complete. -/
def lines (pipe : Pipe) : List (List UInt8) :=
  if pipe.isOver then allLines pipe.written else endedLines pipe.written

def IsBroken (pipe : Pipe) : Prop := ∃ line ∈ pipe.lines, ¬IsUtf8 line

/-- What becomes of a stream, and what its reader tells, if the step is possible. -/
def step? : Option Pipe → PipeStep → Option (Pipe × List StreamEvent)
  | none, .connect => some ({}, [.attach])
  | some pipe, .piece bytes =>
    if pipe.isOver then none
    else
      let (reader, events) := pipe.reader.read bytes
      some ({ pipe with written := pipe.written ++ bytes, reader }, events)
  | some pipe, .close =>
    if pipe.isOver then none
    else
      let (reader, events) := pipe.reader.close
      some ({ pipe with reader, isOver := true }, events)
  | _, _ => none

end Pipe

/-- The streams of a program, by their names, and all that the classifier was told. -/
structure Listening (ι : Type) where
  pipe : ι → Option Pipe := fun _ => none
  log : List (ι × StreamEvent) := []

namespace Listening

variable {ι : Type}

def classifier (patterns : StartupPatterns) (listening : Listening ι) : Classifier :=
  ({ patterns } : Classifier).run (listening.log.map Prod.snd)

theorem classifier_patterns (patterns : StartupPatterns) (listening : Listening ι) :
    (listening.classifier patterns).patterns = patterns :=
  Classifier.run_patterns _ _

variable [DecidableEq ι]

/-- What was told about one of the streams. -/
def told (log : List (ι × StreamEvent)) (stream : ι) : List StreamEvent :=
  (log.filter fun entry => entry.1 = stream).map Prod.snd

def put (listening : Listening ι) (stream : ι) (pipe : Pipe) (events : List StreamEvent) :
    Listening ι where
  pipe := Function.update listening.pipe stream (some pipe)
  log := listening.log ++ events.map fun event => (stream, event)

/-- What is impossible is left out. -/
def step (listening : Listening ι) (label : ι × PipeStep) : Listening ι :=
  match Pipe.step? (listening.pipe label.1) label.2 with
  | none => listening
  | some (pipe, events) => listening.put label.1 pipe events

def run (steps : List (ι × PipeStep)) : Listening ι := steps.foldl step {}

end Listening

/-!
## What each reader tells
-/

namespace Pipe

variable {pipe next : Pipe} {old : Option Pipe} {label : PipeStep} {events : List StreamEvent}

/-- What a possible step can be. -/
inductive Steps : Option Pipe → Pipe → List StreamEvent → Prop where
  | connect : Steps none {} [.attach]
  | piece (written : List UInt8) (reader : LineReader) (bytes : List UInt8) :
      Steps (some { written, reader })
        { written := written ++ bytes, reader := (reader.read bytes).1 } (reader.read bytes).2
  | close (written : List UInt8) (reader : LineReader) :
      Steps (some { written, reader }) { written, reader := reader.close.1, isOver := true }
        reader.close.2

theorem steps_of_step? (stepped : step? old label = some (next, events)) :
    Steps old next events := by
  cases old with
  | none =>
      cases label with
      | connect =>
          cases stepped
          exact .connect
      | piece | close => cases stepped
  | some pipe =>
      obtain ⟨written, reader, isOver⟩ := pipe
      cases isOver with
      | true => cases label <;> cases stepped
      | false =>
          cases label with
          | connect => cases stepped
          | piece bytes =>
              cases stepped
              exact .piece written reader bytes
          | close =>
              cases stepped
              exact .close written reader

/-- What the reader has told since it was connected. -/
def told (pipe : Pipe) : List StreamEvent :=
  .attach :: telling (if pipe.isOver then [.ended] else []) pipe.lines

/-- The reader is where the bytes have brought it. -/
def Follows (pipe : Pipe) : Prop :=
  if pipe.isOver then pipe.reader.isStopped = true
  else pipe.reader = (LineReader.read {} pipe.written).1

theorem told_open (written : List UInt8) (reader : LineReader) :
    told { written, reader } = .attach :: (LineReader.read {} written).2 := by
  rw [LineReader.read_told]
  rfl

theorem told_over (written : List UInt8) (reader : LineReader) :
    told { written, reader, isOver := true } =
      .attach :: ((LineReader.read {} written).2 ++ (LineReader.read {} written).1.close.2) := by
  rw [LineReader.close_told]
  rfl

/-- What is told about a stream is made up of what each step tells. -/
theorem Steps.told (steps : Steps old next events)
    (follows : ∀ pipe, old = some pipe → pipe.Follows) :
    next.Follows ∧ next.told = old.elim [] Pipe.told ++ events := by
  cases steps with
  | connect => exact ⟨rfl, rfl⟩
  | piece written reader bytes =>
      have known : reader = (LineReader.read {} written).1 := follows _ rfl
      have read := LineReader.read_append {} written bytes
      rw [Option.elim_some, told_open, told_open, read, known]
      refine ⟨?_, rfl⟩
      rw [Follows, read]
      rfl
  | close written reader =>
      have known : reader = (LineReader.read {} written).1 := follows _ rfl
      rw [Option.elim_some, told_open, told_over, known]
      exact ⟨LineReader.close_reader _, rfl⟩

theorem ended_mem_told : .ended ∈ pipe.told ↔ pipe.isOver = true ∨ pipe.IsBroken := by
  rw [Pipe.told, List.mem_cons, ended_mem_telling, IsBroken]
  cases isOver : pipe.isOver <;> simp

theorem Follows.stopped_iff (follows : pipe.Follows) :
    pipe.reader.isStopped = true ↔ pipe.isOver = true ∨ pipe.IsBroken := by
  obtain ⟨written, reader, isOver⟩ := pipe
  cases isOver with
  | true => exact iff_of_true follows (.inl rfl)
  | false =>
      have known : reader = (LineReader.read {} written).1 := follows
      have lines : IsBroken { written, reader } ↔ ∃ line ∈ endedLines written, ¬IsUtf8 line := .rfl
      rw [lines, known]
      rcases valid_or_broken (endedLines written) with valid | broken
      · rw [LineReader.read_reader valid]
        simp only [Bool.false_eq_true, false_or, not_broken valid]
      · rw [LineReader.read_broken broken]
        exact iff_of_true rfl (.inr broken)

theorem told_texts {texts : List (List Char)} (whole : pipe.lines = texts.map Text.encodeUtf8) :
    pipe.told = .attach :: (texts.map .line ++ if pipe.isOver then [.ended] else []) := by
  rw [Pipe.told, whole, telling_texts]

theorem told_up_to_broken {texts : List (List Char)} {line : List UInt8}
    {later : List (List UInt8)} (cut : pipe.lines = texts.map Text.encodeUtf8 ++ line :: later)
    (notUtf8 : ¬IsUtf8 line) : pipe.told = .attach :: (texts.map .line ++ [.ended]) := by
  rw [Pipe.told, cut, telling_up_to_broken _ texts notUtf8]

theorem attach_not_mem_telling {next : List StreamEvent} {lines : List (List UInt8)}
    (absent : .attach ∉ next) : .attach ∉ telling next lines := by
  induction lines with
  | nil => exact absent
  | cons line lines ih =>
      rw [telling]
      cases Text.decodeUtf8? line with
      | none => simp
      | some text => simp [ih]

/-- Only the first step of a stream connects it. -/
theorem Steps.attach_not_mem (steps : Steps (some pipe) next events) (follows : pipe.Follows) :
    .attach ∉ events := by
  have told := (steps.told fun _ same => Option.some.inj same ▸ follows).2
  rw [Option.elim_some, Pipe.told, Pipe.told, List.cons_append, List.cons.injEq] at told
  have absent : .attach ∉ telling (if next.isOver then [.ended] else []) next.lines :=
    attach_not_mem_telling (by cases next.isOver <;> simp)
  rw [told.2] at absent
  exact fun member => absent (List.mem_append_right _ member)

theorem ends_told (pipe : Pipe) : EndsOpenStreams pipe.told := by
  have count_lines : ∀ texts : List (List Char),
      (texts.map StreamEvent.line).count .ended = 0 := by
    intro texts
    rw [List.count_eq_zero]
    simp
  have once : (telling (if pipe.isOver then [.ended] else []) pipe.lines).count .ended ≤ 1 := by
    obtain ⟨texts, left, cut, rfl | ⟨line, later, rfl, notUtf8⟩⟩ := exists_texts pipe.lines
    · rw [cut, List.append_nil, telling_texts, List.count_append, count_lines]
      cases pipe.isOver <;> decide
    · rw [cut, telling_up_to_broken _ texts notUtf8, List.count_append, count_lines]
      decide
  intro prior before
  cases prior with
  | nil => exact Nat.le_refl 0
  | cons event prior =>
      obtain ⟨rfl, rest⟩ := List.cons_prefix_cons.mp before
      have ended : prior.count .ended ≤ 1 := (rest.sublist.count_le _).trans once
      have connected : (StreamEvent.attach :: prior).count .attach = prior.count .attach + 1 :=
        List.count_cons_self
      have same : (StreamEvent.attach :: prior).count .ended = prior.count .ended :=
        List.count_cons_of_ne (by decide)
      omega

end Pipe

/-!
## All streams together
-/

namespace Listening

variable {ι : Type} [DecidableEq ι] {listening : Listening ι} {patterns : StartupPatterns}
  {stream : ι} {pipe : Pipe} {label : ι × PipeStep} {events : List StreamEvent}

theorem told_put (listening : Listening ι) (stream other : ι) (pipe : Pipe)
    (events : List StreamEvent) :
    told (listening.put stream pipe events).log other =
      told listening.log other ++ if other = stream then events else [] := by
  rw [told, told, put, List.filter_append, List.map_append]
  congr 1
  by_cases same : other = stream
  · subst same
    simp [List.filter_map, Function.comp_def]
  · have different : stream ≠ other := fun equal => same equal.symm
    simp [List.filter_map, Function.comp_def, same, different]

theorem put_pipe_self : (listening.put stream pipe events).pipe stream = some pipe :=
  Function.update_self stream _ _

theorem put_pipe_of_ne {other : ι} (different : other ≠ stream) :
    (listening.put stream pipe events).pipe other = listening.pipe other :=
  Function.update_of_ne different _ _

/-- What was told about each stream is what its reader has told. -/
structure Tracks (listening : Listening ι) : Prop where
  follows : ∀ stream pipe, listening.pipe stream = some pipe → pipe.Follows
  log_eq : ∀ stream, told listening.log stream = (listening.pipe stream).elim [] Pipe.told

theorem Tracks.step (tracks : Tracks listening) (label : ι × PipeStep) :
    Tracks (listening.step label) := by
  obtain ⟨stream, label⟩ := label
  rw [Listening.step]
  cases stepped : Pipe.step? (listening.pipe stream) label with
  | none => exact tracks
  | some result =>
      obtain ⟨pipe, events⟩ := result
      obtain ⟨follows, told⟩ := (Pipe.steps_of_step? stepped).told fun _ => tracks.follows stream _
      constructor
      case follows =>
        intro other found known
        by_cases same : other = stream
        · subst same
          rw [put_pipe_self] at known
          cases known
          exact follows
        · rw [put_pipe_of_ne same] at known
          exact tracks.follows other found known
      case log_eq =>
        intro other
        rw [told_put, tracks.log_eq]
        by_cases same : other = stream
        · subst same
          rw [if_pos rfl, put_pipe_self, Option.elim_some, told]
        · rw [if_neg same, List.append_nil, put_pipe_of_ne same]

theorem tracks_run (steps : List (ι × PipeStep)) : Tracks (run steps) := by
  induction steps using List.reverseRecOn with
  | nil =>
      constructor
      · intro stream pipe known
        cases known
      · exact fun _ => rfl
  | append_singleton steps label ih =>
      rw [run, List.foldl_append]
      exact ih.step label

/-!
## How many streams are open
-/

variable {log : List (ι × StreamEvent)}

def others (log : List (ι × StreamEvent)) (stream : ι) : List (ι × StreamEvent) :=
  log.filter fun entry => !decide (entry.1 = stream)

theorem count_eq_add (log : List (ι × StreamEvent)) (stream : ι) (event : StreamEvent) :
    (log.map Prod.snd).count event =
      (told log stream).count event + ((others log stream).map Prod.snd).count event := by
  simp only [told, others, List.count, List.countP_map]
  exact List.countP_eq_countP_filter_add log _ _

theorem told_others_self (log : List (ι × StreamEvent)) (stream : ι) :
    told (others log stream) stream = [] := by
  simp [told, others, List.filter_filter]

theorem told_others_of_ne {other : ι} (different : other ≠ stream) :
    told (others log stream) other = told log other := by
  rw [told, told, others, List.filter_filter]
  congr 1
  refine List.filter_congr fun entry _ => ?_
  by_cases same : entry.1 = other
  · simp [same, different]
  · simp [same]

/-- The streams have not ended more often than they were connected. -/
def Balanced (events : List StreamEvent) : Prop := events.count .ended ≤ events.count .attach

theorem balanced_others (each : ∀ stream, Balanced (told log stream)) (stream other : ι) :
    Balanced (told (others log stream) other) := by
  by_cases same : other = stream
  · subst same
    rw [told_others_self]
    exact Nat.le_refl 0
  · rw [told_others_of_ne same]
    exact each other

theorem length_others_lt (entry : ι × StreamEvent) (log : List (ι × StreamEvent)) :
    (others (entry :: log) entry.1).length < (entry :: log).length := by
  have dropped : others (entry :: log) entry.1 = others log entry.1 :=
    List.filter_cons_of_neg (by simp)
  rw [dropped, List.length_cons]
  exact Nat.lt_succ_of_le (List.length_filter_le _ _)

theorem balanced_of_each (each : ∀ stream, Balanced (told log stream)) :
    Balanced (log.map Prod.snd) := by
  -- By induction on the length: what is left without one of the streams is a shorter log.
  generalize size : log.length = count
  induction count using Nat.strongRecOn generalizing log with
  | ind count ih =>
      cases log with
      | nil => exact Nat.le_refl 0
      | cons entry log =>
          have shorter : (others (entry :: log) entry.1).length < count := by
            rw [← size]
            exact length_others_lt entry log
          have rest := ih _ shorter (balanced_others each entry.1) rfl
          rw [Balanced, count_eq_add _ entry.1 .ended, count_eq_add _ entry.1 .attach]
          exact Nat.add_le_add (each entry.1) rest

/-- As long as one of the streams is open, not all of them have ended. -/
theorem count_lt_of_told (each : ∀ stream, Balanced (told log stream))
    (one : (told log stream).count .ended < (told log stream).count .attach) :
    (log.map Prod.snd).count .ended < (log.map Prod.snd).count .attach := by
  have rest : Balanced ((others log stream).map Prod.snd) :=
    balanced_of_each (balanced_others each stream)
  rw [count_eq_add log stream .ended, count_eq_add log stream .attach]
  exact Nat.add_lt_add_of_lt_of_le one rest

theorem endsOpenStreams_log (each : ∀ stream, EndsOpenStreams (told log stream)) :
    EndsOpenStreams (log.map Prod.snd) := by
  rintro prior ⟨left, split⟩
  obtain ⟨earlier, later, rfl, rfl, -⟩ := List.map_eq_append_iff.mp split.symm
  refine balanced_of_each fun stream => each stream _ ?_
  exact ((List.prefix_append earlier later).filter _).map _

theorem Tracks.ends (tracks : Tracks listening) (stream : ι) :
    EndsOpenStreams (told listening.log stream) := by
  rw [tracks.log_eq]
  cases listening.pipe stream with
  | none => exact fun prior before => by simp [List.prefix_nil.mp before]
  | some pipe => exact pipe.ends_told

theorem Tracks.counted (tracks : Tracks listening) (patterns : StartupPatterns) :
    (listening.classifier patterns).openStreams +
      (listening.log.map Prod.snd).count .ended = (listening.log.map Prod.snd).count .attach :=
  Classifier.run_openStreams (endsOpenStreams_log tracks.ends)

theorem Tracks.none_open (tracks : Tracks listening)
    (closed : (listening.classifier patterns).openStreams = 0)
    (known : listening.pipe stream = some pipe) : pipe.isOver = true ∨ pipe.IsBroken := by
  rw [← Pipe.ended_mem_told]
  by_contra unended
  have whole : told listening.log stream = pipe.told := by
    rw [tracks.log_eq, known, Option.elim_some]
  have one : (told listening.log stream).count .ended <
      (told listening.log stream).count .attach := by
    rw [whole, List.count_eq_zero.mpr unended, Pipe.told, List.count_cons_self]
    exact Nat.succ_pos _
  have each : ∀ stream, Balanced (told listening.log stream) :=
    fun stream => tracks.ends stream _ (List.prefix_refl _)
  have some_open := count_lt_of_told each one
  have counted := tracks.counted patterns
  omega

end Listening

/-!
## What settles a start
-/

namespace Classifier

variable {classifier : Classifier} {event : StreamEvent} {events : List StreamEvent}
  {verdict : StartupVerdict}

theorem step_openStreams_le (notAttach : event ≠ .attach) :
    (classifier.step event).openStreams ≤ classifier.openStreams := by
  cases event with
  | attach => exact absurd rfl notAttach
  | line text => exact Nat.le_of_eq (classifier.feed_openStreams text)
  | ended =>
      rw [step, streamEnded_openStreams]
      exact Nat.sub_le _ 1

theorem run_openStreams_le (notAttach : .attach ∉ events) :
    (classifier.run events).openStreams ≤ classifier.openStreams := by
  induction events generalizing classifier with
  | nil => exact Nat.le_refl _
  | cons event events ih =>
      obtain ⟨different, notAttach⟩ := List.ne_and_not_mem_of_not_mem_cons notAttach
      exact (ih notAttach).trans (step_openStreams_le different.symm)

theorem step_settles (unset : classifier.verdict = none)
    (settles : (classifier.step event).verdict = some verdict) :
    (∃ text, event = .line text ∧ classifier.patterns.classify text = some verdict) ∨
      verdict = classifier.patterns.atEnd ∧ (classifier.step event).openStreams = 0 := by
  cases event with
  | attach =>
      rw [step, attach, unset] at settles
      cases settles
  | line text =>
      left
      simp only [step, feed, unset] at settles
      exact ⟨text, rfl, settles⟩
  | ended =>
      right
      by_cases final : classifier.openStreams = 1
      · simp only [step, streamEnded, if_pos final, settle, unset] at settles
        refine ⟨(Option.some.inj settles).symm, ?_⟩
        rw [step, streamEnded_openStreams, final]
      · simp only [step, streamEnded, if_neg final, unset] at settles
        cases settles

theorem run_settles (unset : classifier.verdict = none)
    (settles : (classifier.run events).verdict = some verdict) (notAttach : .attach ∉ events) :
    (∃ text, .line text ∈ events ∧ classifier.patterns.classify text = some verdict) ∨
      verdict = classifier.patterns.atEnd ∧ (classifier.run events).openStreams = 0 := by
  induction events generalizing classifier with
  | nil => cases unset.symm.trans settles
  | cons event events ih =>
      obtain ⟨-, notAttachLater⟩ := List.ne_and_not_mem_of_not_mem_cons notAttach
      have settlesLater : ((classifier.step event).run events).verdict = some verdict := settles
      cases first : (classifier.step event).verdict with
      | none =>
          have later := ih first settlesLater notAttachLater
          rw [step_patterns] at later
          rcases later with ⟨text, member, known⟩ | ended
          · exact .inl ⟨text, List.mem_cons_of_mem _ member, known⟩
          · exact .inr ended
      | some early =>
          -- The first event has settled it, so the later ones change the verdict no more.
          have kept := (run_of_settled (Option.isSome_of_mem first) events).1
          rw [settlesLater, first] at kept
          cases kept
          rcases step_settles unset first with ⟨text, rfl, known⟩ | ⟨atEnd, closed⟩
          · exact .inl ⟨text, List.mem_cons_self, known⟩
          · refine .inr ⟨atEnd, Nat.le_zero.mp ?_⟩
            rw [← closed]
            exact run_openStreams_le notAttachLater

end Classifier

/-- How the streams are read: line by line, to the end or to the first line that is not UTF-8. -/
structure Drains {ι : Type} [DecidableEq ι] (patterns : StartupPatterns)
    (listening : Listening ι) : Prop where
  fed : ∀ stream pipe (texts : List (List Char)), listening.pipe stream = some pipe →
    pipe.lines = texts.map Text.encodeUtf8 →
      Listening.told listening.log stream =
        .attach :: (texts.map .line ++ if pipe.isOver then [.ended] else [])
  fed_until_broken : ∀ stream pipe (texts : List (List Char)) line later,
    listening.pipe stream = some pipe →
    pipe.lines = texts.map Text.encodeUtf8 ++ line :: later → ¬IsUtf8 line →
      Listening.told listening.log stream = .attach :: (texts.map .line ++ [.ended])
  goes_on : ∀ stream pipe, listening.pipe stream = some pipe →
    (pipe.reader.isStopped = true ↔ pipe.isOver = true ∨ pipe.IsBroken)
  taken_in : (listening.classifier patterns).verdict = none →
    (listening.classifier patterns).lines = fedLines (listening.log.map Prod.snd)
  counted : (listening.classifier patterns).openStreams +
    (listening.log.map Prod.snd).count .ended = (listening.log.map Prod.snd).count .attach
  settles : ∀ label verdict, (listening.classifier patterns).verdict = none →
    ((listening.step label).classifier patterns).verdict = some verdict →
      (∃ text, (label.1, .line text) ∈ (listening.step label).log ∧
        patterns.classify text = some verdict) ∨
      verdict = patterns.atEnd ∧ ∀ stream pipe, (listening.step label).pipe stream = some pipe →
        pipe.isOver = true ∨ pipe.IsBroken

namespace Listening

variable {ι : Type} [DecidableEq ι] {listening : Listening ι} {patterns : StartupPatterns}

theorem Tracks.taken_in (tracks : Tracks listening)
    (unset : (listening.classifier patterns).verdict = none) :
    (listening.classifier patterns).lines = fedLines (listening.log.map Prod.snd) := by
  have ends := endsOpenStreams_log tracks.ends
  rw [classifier] at unset ⊢
  rcases patterns.undecided_or_first (listening.log.map Prod.snd) with
    undecided | ⟨earlier, event, later, verdict, split, undecided, settles⟩
  · exact (Classifier.run_undecided ends undecided).2
  · rw [split] at ends unset
    rw [(Classifier.run_first ends undecided settles).1] at unset
    cases unset

theorem classifier_put (listening : Listening ι) (stream : ι) (pipe : Pipe)
    (events : List StreamEvent) :
    (listening.put stream pipe events).classifier patterns =
      (listening.classifier patterns).run events := by
  have same : (listening.put stream pipe events).log.map Prod.snd =
      listening.log.map Prod.snd ++ events := by
    simp [put, Function.comp_def]
  rw [classifier, same, Classifier.run_append]
  rfl

theorem Tracks.settles (tracks : Tracks listening) {label : ι × PipeStep}
    {verdict : StartupVerdict} (unset : (listening.classifier patterns).verdict = none)
    (settles : ((listening.step label).classifier patterns).verdict = some verdict) :
    (∃ text, (label.1, .line text) ∈ (listening.step label).log ∧
        patterns.classify text = some verdict) ∨
      verdict = patterns.atEnd ∧ ((listening.step label).classifier patterns).openStreams = 0 := by
  rw [Listening.step] at settles ⊢
  cases stepped : Pipe.step? (listening.pipe label.1) label.2 with
  | none =>
      rw [stepped] at settles
      cases unset.symm.trans settles
  | some result =>
      obtain ⟨pipe, events⟩ := result
      rw [stepped] at settles
      have steps := Pipe.steps_of_step? stepped
      dsimp only at settles ⊢
      rw [classifier_put] at settles ⊢
      cases old : listening.pipe label.1 with
      | none =>
          -- The stream is connected now, which settles nothing.
          rw [old] at steps
          cases steps
          cases unset.symm.trans settles
      | some before =>
          rw [old] at steps
          have notAttach := steps.attach_not_mem (tracks.follows label.1 before old)
          have settled := Classifier.run_settles unset settles notAttach
          rw [classifier_patterns] at settled
          refine settled.imp_left fun ⟨text, member, known⟩ => ⟨text, ?_, known⟩
          exact List.mem_append_right _ (List.mem_map_of_mem member)

/-- Every line of a stream is fed as long as the lines are UTF-8, and the stream counts as open
until it has come to its end. -/
theorem run_drains (patterns : StartupPatterns) (steps : List (ι × PipeStep)) :
    Drains patterns (run steps) := by
  have tracks := tracks_run steps
  have told_eq : ∀ {stream pipe}, (run steps).pipe stream = some pipe →
      told (run steps).log stream = pipe.told := by
    intro stream pipe known
    rw [tracks.log_eq, known, Option.elim_some]
  constructor
  case fed =>
    intro stream pipe texts known whole
    rw [told_eq known, Pipe.told_texts whole]
  case fed_until_broken =>
    intro stream pipe texts line later known cut notUtf8
    rw [told_eq known, Pipe.told_up_to_broken cut notUtf8]
  case goes_on =>
    intro stream pipe known
    exact (tracks.follows stream pipe known).stopped_iff
  case taken_in => exact tracks.taken_in
  case counted => exact tracks.counted patterns
  case settles =>
    intro label verdict unset settles
    refine (tracks.settles unset settles).imp_right fun atEnd => ⟨atEnd.1, ?_⟩
    exact fun stream pipe known => (tracks.step label).none_open atEnd.2 known

/-- A sign of readiness after a line that is not UTF-8, on a stream that is still open. -/
theorem closed_by_broken_line :
    let patterns : StartupPatterns := { success := [['o', 'k']] }
    let listening := run [((), .connect), ((), .piece [0xFF, 0x0A]),
      ((), .piece (Text.encodeUtf8 ['o', 'k', '\n']))]
    ∃ pipe, listening.pipe () = some pipe ∧ pipe.isOver = false ∧ pipe.reader.isStopped = true ∧
      Text.encodeUtf8 ['o', 'k'] ∈ pipe.lines ∧ patterns.classify ['o', 'k'] = some .ready ∧
      .line ['o', 'k'] ∉ told listening.log () ∧
      (listening.classifier patterns).verdict = some .closed := by
  refine ⟨_, rfl, ?_⟩
  decide

end Listening

end ThrowawayServer
