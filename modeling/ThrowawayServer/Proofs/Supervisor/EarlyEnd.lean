import ThrowawayServer.Proofs.Startup.TwoReaders

/-!
# Starts that hear two readers

What a start takes in until it decides is a list of events, and its answer follows from what the
classifier makes of them. If they are the steps of two readers, everything that is known of those
holds of the start.
-/

set_option autoImplicit false

namespace ThrowawayServer

namespace Hearing

variable {σ : Type}

def events : Hearing σ → List StreamEvent
  | .silent _ => []
  | .heard event _ later => event :: (later ()).events

/-- The state when the time has come. -/
def last : Hearing σ → σ
  | .silent last => last
  | .heard _ _ later => (later ()).last

end Hearing

/-- The events up to the one that settles how a start went. -/
def Classifier.taken (classifier : Classifier) : List StreamEvent → List StreamEvent
  | [] => []
  | event :: events =>
    if classifier.verdict.isSome then [] else event :: (classifier.step event).taken events

theorem Classifier.taken_prefix (classifier : Classifier) (events : List StreamEvent) :
    classifier.taken events <+: events := by
  induction events generalizing classifier with
  | nil => exact List.prefix_refl _
  | cons event events ih =>
      rw [taken]
      split
      · exact List.nil_prefix
      · exact (List.prefix_cons_inj event).mpr (ih _)

theorem Hearing.listen_eq_run {σ : Type} (hearing : Hearing σ) (classifier : Classifier)
    (state : σ) :
    (hearing.listen classifier state).1 = classifier.run (classifier.taken hearing.events) := by
  induction hearing generalizing classifier state with
  | silent last =>
      rw [listen, events, Classifier.taken]
      split <;> rfl
  | heard event next later ih =>
      rw [listen, events, Classifier.taken]
      split
      · rfl
      · exact ih () (classifier.step event) next

namespace ProcessHost

variable {σ : Type}

/-- What happens on the streams from the connection of the readers up to the time of a start. -/
def startHearing (host : ProcessHost σ) (settings : SupervisorSettings) (state : σ) : Hearing σ :=
  let (_, connected) := host.attachReaders { patterns := settings.patterns } state
  host.hearing (host.now connected + settings.startupTimeout) connected

/-- What a start does from the connection of the readers until it decides. -/
def watch (host : ProcessHost σ) (settings : SupervisorSettings) (state : σ) : Classifier × σ :=
  let (attached, connected) := host.attachReaders { patterns := settings.patterns } state
  host.awaitVerdict (host.now connected + settings.startupTimeout) attached connected

/-- All that a start takes in until it decides. -/
def startEvents (host : ProcessHost σ) (settings : SupervisorSettings) (state : σ) :
    List StreamEvent :=
  let (attached, _) := host.attachReaders { patterns := settings.patterns } state
  (.attach :: (host.pastEvents state).1) ++
    .attach :: attached.taken (host.startHearing settings state).events

theorem watch_eq_run (host : ProcessHost σ) (settings : SupervisorSettings) (state : σ) :
    (host.watch settings state).1 =
      ({ patterns := settings.patterns } : Classifier).run (host.startEvents settings state) := by
  rw [startEvents, Classifier.run_append]
  exact (host.startHearing settings state).listen_eq_run _ _

end ProcessHost

/-- The answers of a start that goes by a classifier. -/
inductive SupervisorSettings.Decides (settings : SupervisorSettings) (classifier : Classifier) :
    Except SuperviseError RunningProcess → Prop where
  | ready {process : RunningProcess} (settled : classifier.outcome = .ready)
      (told : process.startupOutput = classifier.output) : Decides settings classifier (.ok process)
  | failed {output : String} (unready : classifier.outcome ≠ .ready) :
      Decides settings classifier (.error (settings.startupError classifier.outcome output))

namespace Supervisor

variable {σ : Type}

theorem start_decides (host : ProcessHost σ) {supervisor : Supervisor} {state next : σ}
    (unstarted : supervisor.state = .notStarted)
    (spawned : host.spawn supervisor.settings state = (.ok (), next)) :
    supervisor.settings.Decides
      (({ patterns := supervisor.settings.patterns } : Classifier).run
        (host.startEvents supervisor.settings next))
      (supervisor.start host state).1 := by
  rw [← host.watch_eq_run, start, if_neg (not_not.mpr unstarted), spawned]
  dsimp only
  cases watched : host.watch supervisor.settings next with
  | mk classifier later =>
      dsimp only [ProcessHost.watch] at watched
      rw [watched]
      cases decided : classifier.outcome with
      | ready => exact .ready decided rfl
      | failed _ | closed | notFound =>
          have unready : classifier.outcome ≠ .ready := by simp [decided]
          have failed : supervisor.settings.Decides classifier
              (.error (supervisor.settings.startupError classifier.outcome
                (host.abort supervisor.settings classifier later).1.output)) := .failed unready
          rwa [decided] at failed

/-- Whatever the order of the steps, a start by which they are taken in goes by what they mean. -/
theorem start_hears_readers {script : OutputStream → List (List Char)} {patterns : StartupPatterns}
    {steps : List ReaderStep} {shared : SharedStart}
    (runs : SharedStart.Runs script patterns steps shared) :
    ReadersHeard patterns steps shared.classifier ∧
      ∀ {σ : Type} (host : ProcessHost σ) (supervisor : Supervisor) (state next : σ),
        supervisor.settings.patterns = patterns → supervisor.state = .notStarted →
          host.spawn supervisor.settings state = (.ok (), next) →
            host.startEvents supervisor.settings next = steps.map Prod.snd →
              supervisor.settings.Decides shared.classifier (supervisor.start host state).1 := by
  refine ⟨runs.heard, ?_⟩
  rintro σ host supervisor state next rfl unstarted spawned taken
  rw [runs.follows.classifier, Classifier.ofSteps, ← taken]
  exact start_decides host unstarted spawned

end Supervisor

def Hearing.ofEvents : List StreamEvent → Hearing (List StreamEvent)
  | [] => .silent []
  | event :: left => .heard event left fun _ => ofEvents left

/-- A process of which `past` is heard before the second reader is connected. What is left to hear
is the state. -/
def ProcessHost.playing (past : List StreamEvent) : ProcessHost (List StreamEvent) where
  now := fun _ => 0
  sleep := fun _ left => left
  isAlive := fun left => (false, left)
  send := fun _ _ left => (.ok .refused, left)
  signal := fun _ _ left => (.error .noSuchProcess, left)
  spawn := fun _ left => (.ok (), left)
  pastEvents := fun left => (past, left)
  hearing := fun _ left => .ofEvents left
  terminate := fun left => (.ok (), left)
  awaitExit := fun _ left => (true, left)
  kill := fun left => (.ok (), left)
  reap := fun left => (.ok (some 0), left)
  drain := fun _ left => left

namespace Supervisor

/-- The standard output ends first, but both readers are connected by then. -/
theorem start_hears_readers_in_time :
    let settings : SupervisorSettings :=
      { name := "server", executable := "mongod", address := ⟨.v4 .localhost, 27017, 0⟩
        patterns := { success := [['o', 'k']] } }
    let script : OutputStream → List (List Char) := fun stream =>
      if stream = .standard then [] else [['o', 'k']]
    let steps : List ReaderStep :=
      [(.standard, .attach), (.error, .attach), (.standard, .ended), (.error, .line ['o', 'k'])]
    ∃ shared, SharedStart.Runs script settings.patterns steps shared ∧
      ReadersHeard settings.patterns steps shared.classifier ∧
        shared.classifier.outcome = .ready ∧
          settings.Decides shared.classifier
            (({ settings } : Supervisor).start (.playing []) [.ended, .line ['o', 'k']]).1 := by
  intro settings script steps
  have runs : SharedStart.Runs script settings.patterns steps _ :=
    .step (.step (.step (.step .start (.attach rfl (by simp))) (.attach rfl (by decide)))
      (.ended rfl)) (.line rfl)
  obtain ⟨heard, decides⟩ := start_hears_readers runs
  exact ⟨_, runs, heard, rfl, decides _ { settings } _ _ rfl rfl rfl rfl⟩

/-- The standard output ends before the error output is connected, and the sign of readiness on the
error output comes too late. -/
theorem start_closed_too_early :
    let settings : SupervisorSettings :=
      { name := "server", executable := "mongod", address := ⟨.v4 .localhost, 27017, 0⟩
        patterns := { success := [['o', 'k']] } }
    let script : OutputStream → List (List Char) := fun stream =>
      if stream = .standard then [] else [['o', 'k']]
    let steps : List ReaderStep :=
      [(.standard, .attach), (.standard, .ended), (.error, .attach), (.error, .line ['o', 'k'])]
    settings.patterns.classify ['o', 'k'] = some .ready ∧
      (∃ shared, SharedStart.Runs script settings.patterns steps shared ∧
        ¬ HaveEnded steps ∧ shared.classifier.verdict = some .closed) ∧
      (({ settings } : Supervisor).start (.playing [.ended]) [.line ['o', 'k']]).1 =
        .error (.startupFailed "server" "process exited before reporting readiness") := by
  intro settings script steps
  have runs : SharedStart.Runs script settings.patterns steps _ :=
    .step (.step (.step (.step .start (.attach rfl (by simp))) (.ended rfl))
      (.attach rfl (by decide))) (.line rfl)
  exact ⟨by decide, ⟨_, runs, by decide, rfl⟩, rfl⟩

end Supervisor

end ThrowawayServer
