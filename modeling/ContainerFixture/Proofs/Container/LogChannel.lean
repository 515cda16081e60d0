import ContainerFixture.Proofs.Engine.Faithful
import Mathlib.Logic.Relation

/-!
# A stream followed by another thread

The lines of a stream come from a thread of their own. The follower offers them one by one to a
callback, which sends them through a channel; the stage that waits for a line takes them out of it.
A line waits in the channel until it is taken, and the channel has room for any number of lines. The
follower drops its end when it is through with the lines, and the stage drops the other one when it
returns.

## Main result

`awaitLog_interleaved`: the stage comes to the verdict that `LogFeed.watch` gives at once, whichever
thread is ahead, and it has looked at the lines up to that verdict and at no others.

## Proof strategy

What was examined, what is in the channel and what was not delivered are the lines of the stream in
every state (`Sound.conserved`). Every step brings the two nearer to their end (`rank_lt_of_step`),
and as long as one of them has something to do there is a step.
-/

namespace ContainerFixture

/-- Where the follower of a stream stands. -/
inductive Follower where
  | offering
  -- It was told to stop.
  | broken
  -- It dropped the callback, and with it the sending end of the channel.
  | gone
deriving DecidableEq

/-- Where the stage that waits stands. -/
inductive Waiter where
  | waiting
  | decided (outcome : WatchOutcome)
  -- It returned, and dropped the receiving end of the channel.
  | returned (outcome : WatchOutcome)
deriving DecidableEq

/-- What the callback answers when it is offered a line. -/
inductive Reply where
  | proceed
  | stop
deriving DecidableEq

/-- A channel and those at its ends. -/
structure LogChannel where
  /-- The lines that were not delivered yet. -/
  unsent : List String
  follower : Follower := .offering
  /-- The lines that were delivered and not taken yet, oldest first. -/
  queue : List String := []
  waiter : Waiter := .waiting
  /-- The lines that the stage looked at, oldest first. -/
  examined : List String := []
  /-- The lines that were offered to the callback and what it answered. -/
  offered : List (String × Reply) := []

def Waiter.outcome? : Waiter → Option WatchOutcome
  | waiting => none
  | decided outcome | returned outcome => some outcome

def Waiter.rank : Waiter → Nat
  | waiting => 2
  | decided _ => 1
  | returned _ => 0

def Follower.rank : Follower → Nat
  | offering => 2
  | broken => 1
  | gone => 0

namespace LogChannel

/-- The stage has returned. -/
def Returned (s : LogChannel) : Prop := ∃ outcome, s.waiter = .returned outcome

/-- Neither thread has anything left to do. -/
def Finished (s : LogChannel) : Prop := s.follower = .gone ∧ s.Returned

/-- One step of either thread. -/
inductive Step (accepts : String → Bool) : LogChannel → LogChannel → Prop where
  | send {s : LogChannel} {line : String} {rest : List String} (offering : s.follower = .offering)
      (next : s.unsent = line :: rest) (listening : ¬ s.Returned) :
    Step accepts s { s with
      unsent := rest
      queue := s.queue ++ [line]
      offered := s.offered ++ [(line, .proceed)] }
  -- Nobody is left to take the line.
  | refuse {s : LogChannel} {line : String} {rest : List String} (offering : s.follower = .offering)
      (next : s.unsent = line :: rest) (deaf : s.Returned) :
    Step accepts s { s with follower := .broken, offered := s.offered ++ [(line, .stop)] }
  | close {s : LogChannel}
      (through : s.follower = .offering ∧ s.unsent = [] ∨ s.follower = .broken) :
    Step accepts s { s with follower := .gone }
  | examine {s : LogChannel} {line : String} {rest : List String} (waiting : s.waiter = .waiting)
      (next : s.queue = line :: rest) :
    Step accepts s { s with
      queue := rest
      examined := s.examined ++ [line]
      waiter := if accepts line then .decided (.matched line) else .waiting }
  -- The end of a stream is noticed once the channel is empty.
  | notice {s : LogChannel} (waiting : s.waiter = .waiting) (empty : s.queue = [])
      (gone : s.follower = .gone) :
    Step accepts s { s with waiter := .decided .ended }
  | timeOut {s : LogChannel} (waiting : s.waiter = .waiting) (empty : s.queue = []) :
    Step accepts s { s with waiter := .decided .timedOut }
  | leave {s : LogChannel} {outcome : WatchOutcome} (decided : s.waiter = .decided outcome) :
    Step accepts s { s with waiter := .returned outcome }

variable {accepts : String → Bool} {lines : List String} {s next later : LogChannel}

/-! ### What every step keeps -/

/-- The lines that the callback took. -/
def taken (offered : List (String × Reply)) : List String :=
  (offered.filter (·.2 = .proceed)).map Prod.fst

/-- The invariant of all interleavings. -/
structure Sound (accepts : String → Bool) (lines : List String) (s : LogChannel) : Prop where
  conserved : s.examined ++ s.queue ++ s.unsent = lines
  delivered : taken s.offered = s.examined ++ s.queue
  -- The follower does not stop before the last line unless nobody listens.
  through : s.follower ≠ .offering → s.unsent = [] ∨ s.Returned
  waiting : s.waiter = .waiting → ∀ line ∈ s.examined, accepts line = false
  matched : ∀ line, s.waiter.outcome? = some (.matched line) → ∃ before,
    s.examined = before ++ [line] ∧ accepts line = true ∧ ∀ other ∈ before, accepts other = false
  ended : s.waiter.outcome? = some .ended →
    s.queue = [] ∧ s.unsent = [] ∧ ∀ line ∈ s.examined, accepts line = false

theorem taken_append (offered more : List (String × Reply)) :
    taken (offered ++ more) = taken offered ++ taken more := by
  rw [taken, List.filter_append, List.map_append]
  rfl

/-- Who still waits has not returned. -/
theorem not_returned_of_waiting (waiting : s.waiter = .waiting) : ¬ s.Returned := by
  rintro ⟨outcome, returned⟩
  cases waiting.symm.trans returned

theorem sound_start (accepts : String → Bool) (lines : List String) :
    Sound accepts lines { unsent := lines } where
  conserved := rfl
  delivered := rfl
  through offering := absurd rfl offering
  waiting _ := List.forall_mem_nil _
  matched _ decided := by cases decided
  ended decided := by cases decided

namespace Sound

theorem conserved_step (sound : Sound accepts lines s) (step : Step accepts s next) :
    next.examined ++ next.queue ++ next.unsent = lines := by
  cases step with
  | send offering unsent listening => simpa [unsent] using sound.conserved
  | examine waiting queue => simpa [queue] using sound.conserved
  | refuse | close | notice | timeOut | leave => exact sound.conserved

theorem delivered_step (sound : Sound accepts lines s) (step : Step accepts s next) :
    taken next.offered = next.examined ++ next.queue := by
  cases step with
  | send =>
    rw [taken_append, sound.delivered, List.append_assoc]
    rfl
  | refuse =>
    -- The line that is refused does not count.
    rw [taken_append, sound.delivered]
    exact List.append_nil _
  | examine waiting queue => simpa [queue] using sound.delivered
  | close | notice | timeOut | leave => exact sound.delivered

theorem through_step (sound : Sound accepts lines s) (step : Step accepts s next) :
    next.follower ≠ .offering → next.unsent = [] ∨ next.Returned := by
  intro stopped
  cases step with
  | send offering => exact absurd offering stopped
  | refuse offering unsent deaf => exact Or.inr deaf
  | close through =>
    rcases through with ⟨-, unsent⟩ | broken
    · exact Or.inl unsent
    · exact sound.through (by simp [broken])
  | examine waiting | notice waiting | timeOut waiting =>
    apply Or.inl
    exact (sound.through stopped).resolve_right (not_returned_of_waiting waiting)
  | leave => exact Or.inr ⟨_, rfl⟩

theorem waiting_step (sound : Sound accepts lines s) (step : Step accepts s next) :
    next.waiter = .waiting → ∀ line ∈ next.examined, accepts line = false := by
  intro still
  cases step with
  | send | refuse | close => exact sound.waiting still
  | @examine line rest waiting queue =>
    intro other mem
    rcases List.mem_append.mp mem with earlier | now
    · exact sound.waiting waiting other earlier
    · -- A line that is accepted would have decided it.
      rw [List.mem_singleton.mp now]
      cases accepted : accepts line with
      | false => rfl
      | true => simp [accepted] at still
  | notice | timeOut | leave => cases still

theorem matched_step (sound : Sound accepts lines s) (step : Step accepts s next) (line : String) :
    next.waiter.outcome? = some (.matched line) → ∃ before, next.examined = before ++ [line] ∧
      accepts line = true ∧ ∀ other ∈ before, accepts other = false := by
  intro decided
  cases step with
  | send | refuse | close => exact sound.matched line decided
  | examine waiting queue =>
    dsimp only at decided
    split at decided
    · next accepted =>
      cases decided
      exact ⟨s.examined, rfl, accepted, sound.waiting waiting⟩
    · cases decided
  | notice | timeOut => cases decided
  | leave before =>
    apply sound.matched line
    rw [before]
    exact decided

theorem ended_step (sound : Sound accepts lines s) (step : Step accepts s next) :
    next.waiter.outcome? = some .ended →
      next.queue = [] ∧ next.unsent = [] ∧ ∀ line ∈ next.examined, accepts line = false := by
  intro decided
  cases step with
  | send offering unsent => cases unsent.symm.trans (sound.ended decided).2.1
  | refuse | close => exact sound.ended decided
  | examine =>
    dsimp only at decided
    split at decided <;> cases decided
  | notice waiting empty gone =>
    -- The follower is gone and somebody listens, so it has come to the last line.
    have unsent := (sound.through (by simp [gone])).resolve_right (not_returned_of_waiting waiting)
    exact ⟨empty, unsent, sound.waiting waiting⟩
  | timeOut => cases decided
  | leave before =>
    apply sound.ended
    rw [before]
    exact decided

theorem step (sound : Sound accepts lines s) (step : Step accepts s next) :
    Sound accepts lines next where
  conserved := sound.conserved_step step
  delivered := sound.delivered_step step
  through := sound.through_step step
  waiting := sound.waiting_step step
  matched := sound.matched_step step
  ended := sound.ended_step step

end Sound

/-! ### Going on -/

/-- How much is left to do for both threads together. A line that is sent must still be taken. -/
def rank (s : LogChannel) : Nat :=
  2 * s.unsent.length + s.queue.length + s.follower.rank + s.waiter.rank

theorem rank_lt_of_step (step : Step accepts s next) : next.rank < s.rank := by
  cases step with
  | send offering unsent listening =>
    simp only [rank, unsent, List.length_append, List.length_cons, List.length_nil]
    omega
  | refuse offering unsent deaf => simp [rank, offering, Follower.rank]
  | close through =>
    rcases through with ⟨offering, unsent⟩ | broken
    · simp [rank, offering, Follower.rank]
    · simp [rank, broken, Follower.rank]
  | @examine line rest waiting queue =>
    have waiter : (if accepts line then Waiter.decided (.matched line) else .waiting).rank ≤ 2 := by
      split <;> simp [Waiter.rank]
    simp only [rank, waiting, queue, List.length_cons]
    simp only [Waiter.rank] at waiter ⊢
    omega
  | notice waiting empty gone => simp [rank, waiting, Waiter.rank]
  | timeOut waiting empty => simp [rank, waiting, Waiter.rank]
  | leave decided => simp [rank, decided, Waiter.rank]

/-- The two threads do not go on for ever. -/
theorem exists_stop (run : Nat → LogChannel) : ∃ n, ¬ Step accepts (run n) (run (n + 1)) := by
  by_contra endless
  push Not at endless
  have used (n : Nat) : (run n).rank + n ≤ (run 0).rank := by
    induction n with
    | zero => exact Nat.le_refl _
    | succ n ih =>
      have lower := rank_lt_of_step (endless n)
      omega
  have exhausted := used ((run 0).rank + 1)
  omega

/-- The follower never waits. -/
theorem follower_step (accepts : String → Bool) (here : s.follower ≠ .gone) :
    ∃ next, Step accepts s next ∧ next.waiter = s.waiter := by
  cases follower : s.follower with
  | gone => exact absurd follower here
  | broken => exact ⟨_, .close (Or.inr follower), rfl⟩
  | offering =>
    cases unsent : s.unsent with
    | nil => exact ⟨_, .close (Or.inl ⟨follower, unsent⟩), rfl⟩
    | cons line rest =>
      by_cases deaf : s.Returned
      · exact ⟨_, .refuse follower unsent deaf, rfl⟩
      · exact ⟨_, .send follower unsent deaf, rfl⟩

/-- As long as the stage has not returned or the follower is there, one of them can go on, and the
time for it need not be up. -/
theorem finished_or_step (intime : s.waiter.outcome? ≠ some .timedOut) :
    s.Finished ∨ ∃ next, Step accepts s next ∧ next.waiter.outcome? ≠ some .timedOut := by
  by_cases here : s.follower = .gone
  · cases waiter : s.waiter with
    | returned outcome => exact Or.inl ⟨here, outcome, waiter⟩
    | decided outcome =>
      refine Or.inr ⟨_, .leave waiter, ?_⟩
      rw [waiter] at intime
      exact intime
    | waiting =>
      -- The stage takes what is there, or finds that nothing will come.
      cases queue : s.queue with
      | nil => exact Or.inr ⟨_, .notice waiter queue here, by simp [Waiter.outcome?]⟩
      | cons line rest =>
        refine Or.inr ⟨_, .examine waiter queue, ?_⟩
        dsimp only
        split <;> simp [Waiter.outcome?]
  · obtain ⟨next, step, same⟩ := follower_step accepts here
    exact Or.inr ⟨next, step, same ▸ intime⟩

/-! ### After the return -/

/-- What comes after the return of the stage changes only what is known of the follower, who may
offer one more line and is told to stop. -/
structure Deaf (s later : LogChannel) : Prop where
  waiter : later.waiter = s.waiter
  examined : later.examined = s.examined
  queue : later.queue = s.queue
  unsent : later.unsent = s.unsent
  offered : (later.offered = s.offered ∧ (later.follower = .offering → s.follower = .offering)) ∨
    ∃ line rest, s.unsent = line :: rest ∧ later.offered = s.offered ++ [(line, .stop)] ∧
      later.follower ≠ .offering

theorem Deaf.step (deaf : Deaf s later) (returned : s.Returned) (step : Step accepts later next) :
    Deaf s next := by
  obtain ⟨outcome, returned⟩ := returned
  have waiter : later.waiter = .returned outcome := deaf.waiter.trans returned
  cases step with
  | send offering unsent listening => exact absurd ⟨outcome, waiter⟩ listening
  | @refuse line rest offering unsent _ =>
    refine { deaf with offered := Or.inr ⟨line, rest, deaf.unsent.symm.trans unsent, ?_, nofun⟩ }
    rcases deaf.offered with ⟨same, -⟩ | ⟨_, _, _, _, through⟩
    · rw [same]
    · exact absurd offering through
  | close through =>
    refine { deaf with offered := ?_ }
    rcases deaf.offered with ⟨same, -⟩ | ⟨line, rest, unsent, stopped, -⟩
    · exact Or.inl ⟨same, nofun⟩
    · exact Or.inr ⟨line, rest, unsent, stopped, nofun⟩
  | examine waiting _ => cases waiter.symm.trans waiting
  | notice waiting _ _ => cases waiter.symm.trans waiting
  | timeOut waiting _ => cases waiter.symm.trans waiting
  | leave decided => cases waiter.symm.trans decided

theorem deaf_of_returned (returned : s.Returned)
    (run : Relation.ReflTransGen (Step accepts) s later) : Deaf s later := by
  induction run with
  | refl => exact ⟨rfl, rfl, rfl, rfl, Or.inl ⟨rfl, id⟩⟩
  | tail _ step ih => exact ih.step returned step

/-! ### The verdict -/

/-- Of lines that come all at once, the watch sees all or none. -/
theorem watch_atOnce (accepts : String → Bool) (arrival timeout : Duration) (lines : List String) :
    (LogFeed.atOnce arrival lines false).watch accepts timeout =
      if arrival.nanoseconds ≤ timeout.nanoseconds then (lines.find? accepts).elim .ended .matched
      else .timedOut := by
  have first : arrival.nanoseconds ≤ max 0 timeout.nanoseconds ↔
      arrival.nanoseconds ≤ timeout.nanoseconds := by omega
  have from_now (now : Nat) (intime : arrival.nanoseconds ≤ timeout.nanoseconds) :
      watch accepts (fun _ => 0) timeout.nanoseconds (some arrival.nanoseconds) now
        (lines.map fun line => (arrival, line)) = (lines.find? accepts).elim .ended .matched := by
    have there (now : Nat) : arrival.nanoseconds ≤ max now timeout.nanoseconds := by omega
    induction lines generalizing now with
    | nil => exact if_pos (there now)
    | cons line rest ih =>
      rw [List.map_cons, watch, if_pos (there now), List.find?_cons]
      cases accepts line with
      | true => rfl
      | false => exact ih _
  split
  case isTrue intime => exact from_now 0 intime
  case isFalse late =>
    cases lines with
    | nil => exact if_neg (mt first.mp late)
    | cons line rest => exact if_neg (mt first.mp late)

/-- A verdict within the time is the verdict on all lines at once. -/
theorem Sound.outcome_eq (sound : Sound accepts lines s) {outcome : WatchOutcome}
    (decided : s.waiter.outcome? = some outcome) (intime : outcome ≠ .timedOut) :
    outcome = (lines.find? accepts).elim .ended .matched := by
  cases outcome with
  | timedOut => exact absurd rfl intime
  | matched line =>
    obtain ⟨before, examined, accepted, others⟩ := sound.matched line decided
    have found : lines.find? accepts = some line := by
      rw [← sound.conserved, examined, List.find?_eq_some_iff_append]
      refine ⟨accepted, before, s.queue ++ s.unsent, by simp, ?_⟩
      intro other mem
      simp [others other mem]
    rw [found]
    rfl
  | ended =>
    obtain ⟨queue, unsent, others⟩ := sound.ended decided
    have missing : lines.find? accepts = none := by
      rw [← sound.conserved, queue, unsent, List.append_nil, List.append_nil, List.find?_eq_none]
      intro other mem
      simp [others other mem]
    rw [missing]
    rfl

end LogChannel

/-- A handle of a container that the engine in memory knows, with the lines of a stream of it. -/
structure Bench.Shows (b : Bench MemoryEngine) (c : Container) (stream : LogStream)
    (lines : List String) : Prop where
  known : ∃ container, b.engine.container? c.id = some container
  unscripted : b.engine.Unscripted .followLogs
  logs : b.engine.logs stream = lines
  ends : b.engine.holdsLogs = false

theorem Bench.Shows.followLogs {b : Bench MemoryEngine} {c : Container} {stream : LogStream}
    {lines : List String} (shows : b.Shows c stream lines) :
    (Bench.followLogs c stream b).1 = .ok (.atOnce b.engine.logDelay lines false) := by
  obtain ⟨container, known⟩ := shows.known
  have found : (b.engine.entered (.followLogs c.id stream)).container? c.id = some container :=
    known
  have feed : b.engine.feed stream = .atOnce b.engine.logDelay lines false := by
    rw [MemoryEngine.feed, shows.logs, shows.ends, if_neg Bool.false_ne_true]
  have served : MemoryEngine.followLogs c.id stream (b.engine.entered (.followLogs c.id stream)) =
      (.ok (.atOnce b.engine.logDelay lines false), b.engine.entered (.followLogs c.id stream)) := by
    rw [← feed]
    exact Action.bind_of_ok (MemoryEngine.find_known found)
  have answered : MemoryEngine.perform (.followLogs c.id stream) b.engine = _ :=
    (MemoryEngine.perform_unscripted shows.unscripted).trans served
  exact congrArg (fun outcome => Except.mapError (ContainerError.engine .followLogs) outcome.1)
    answered

/-- What the stage answers once it has a verdict. -/
def WatchOutcome.answer (source : String) (stream : LogStream) (timeout : Duration) (c : Container) :
    WatchOutcome → Except ContainerError Container
  | matched _ => .ok c
  | timedOut => .error (.readinessTimeout source stream timeout)
  | ended => .error (.logStreamEnded source stream)

/-- The stage answers as the watch of the stream ends. -/
theorem ContainerStage.awaitLog_of_followLogs {E : Type} [Engine E] {b after : Bench E}
    {c : Container} {stream : LogStream} {feed : LogFeed}
    (followed : Bench.followLogs c stream b = (.ok feed, after)) (source : String)
    (pattern : Pattern) (timeout : Duration) :
    ((ContainerStage.awaitLog source pattern stream timeout).commission (some c) b).1 =
      (feed.watch pattern.occursIn timeout).answer source stream timeout c := by
  simp only [ContainerStage.awaitLog, ContainerStage.working, ContainerStage.onContainer,
    Action.bind_apply, followed]
  cases feed.watch pattern.occursIn timeout <;> rfl

/-- The stage answers as the watch of the lines ends, which all come with the thread that sends
them. -/
theorem ContainerStage.awaitLog_answer {b : Bench MemoryEngine} {c : Container} {stream : LogStream}
    {lines : List String} (shows : b.Shows c stream lines) (source : String) (pattern : Pattern)
    (timeout : Duration) :
    ((ContainerStage.awaitLog source pattern stream timeout).commission (some c) b).1 =
      ((LogFeed.atOnce b.engine.logDelay lines false).watch pattern.occursIn timeout).answer source
        stream timeout c :=
  ContainerStage.awaitLog_of_followLogs (Prod.ext shows.followLogs rfl) source pattern timeout

/-! ### Main result -/

/-- What holds of a channel at any time, whichever of the two threads went on. -/
structure Interleaved (accepts : String → Bool) (lines : List String) (s : LogChannel) : Prop where
  -- Every line is in one place, and the callback took those that the stage looked at or can take.
  conserved : s.examined ++ s.queue ++ s.unsent = lines
  delivered : LogChannel.taken s.offered = s.examined ++ s.queue
  -- The verdicts, and what the stage looked at for them.
  matched : ∀ line, s.waiter.outcome? = some (.matched line) → ∃ before after,
    lines = before ++ line :: after ∧ s.examined = before ++ [line] ∧ accepts line = true ∧
      ∀ other ∈ before, accepts other = false
  ended : s.waiter.outcome? = some .ended →
    s.examined = lines ∧ ∀ line ∈ lines, accepts line = false
  succeeds : ∀ outcome, s.waiter.outcome? = some outcome → outcome ≠ .timedOut →
    ((∃ line, outcome = .matched line) ↔ ∃ line ∈ lines, accepts line = true)
  -- A verdict is come to, unless the time is up first, and the stage returns with it.
  progress : s.waiter.outcome? ≠ some .timedOut → s.Finished ∨
    ∃ next, LogChannel.Step accepts s next ∧ next.waiter.outcome? ≠ some .timedOut
  finite : ∀ run : Nat → LogChannel, run 0 = s →
    ∃ n, ¬ LogChannel.Step accepts (run n) (run (n + 1))
  -- Then nothing more is delivered: the follower is told to stop by the first line that it offers.
  afterwards : s.Returned → ∀ later, Relation.ReflTransGen (LogChannel.Step accepts) s later →
    LogChannel.Deaf s later
  -- It is the verdict on all lines at once, if they come in time.
  agrees : ∀ outcome, s.waiter.outcome? = some outcome → outcome ≠ .timedOut →
    ∀ arrival timeout, arrival.nanoseconds ≤ timeout.nanoseconds →
      outcome = (LogFeed.atOnce arrival lines false).watch accepts timeout
  -- It is the answer of the stage, unless the time is up before the first line comes.
  answers : ∀ outcome, s.waiter = .returned outcome → outcome ≠ .timedOut →
    ∀ pattern : Pattern, pattern.occursIn = accepts →
    ∀ (b : Bench MemoryEngine) (c : Container) stream, b.Shows c stream lines →
    ∀ source timeout, ((ContainerStage.awaitLog source pattern stream timeout).commission
      (some c) b).1 = (if b.engine.logDelay.nanoseconds ≤ timeout.nanoseconds then outcome
        else .timedOut).answer source stream timeout c

/-- However the follower and the stage take turns, no line is lost and the verdict is the same. -/
theorem awaitLog_interleaved (accepts : String → Bool) (lines : List String) {s : LogChannel}
    (run : Relation.ReflTransGen (LogChannel.Step accepts) { unsent := lines } s) :
    Interleaved accepts lines s := by
  have sound : LogChannel.Sound accepts lines s := by
    induction run with
    | refl => exact LogChannel.sound_start accepts lines
    | tail _ step ih => exact ih.step step
  constructor
  case conserved => exact sound.conserved
  case delivered => exact sound.delivered
  case matched =>
    intro line decided
    obtain ⟨before, examined, accepted, others⟩ := sound.matched line decided
    refine ⟨before, s.queue ++ s.unsent, ?_, examined, accepted, others⟩
    rw [← sound.conserved, examined]
    simp
  case ended =>
    intro decided
    obtain ⟨queue, unsent, others⟩ := sound.ended decided
    have examined : s.examined = lines := by
      rw [← sound.conserved, queue, unsent, List.append_nil, List.append_nil]
    exact ⟨examined, examined ▸ others⟩
  case succeeds =>
    intro outcome decided intime
    rw [sound.outcome_eq decided intime]
    cases found : lines.find? accepts with
    | some line =>
      exact iff_of_true ⟨line, rfl⟩
        ⟨line, List.mem_of_find?_eq_some found, List.find?_some found⟩
    | none =>
      apply iff_of_false
      · rintro ⟨line, matched⟩
        cases matched
      · rintro ⟨line, mem, accepted⟩
        exact List.find?_eq_none.mp found line mem accepted
  case progress => exact LogChannel.finished_or_step
  case finite => exact fun run _ => LogChannel.exists_stop run
  case afterwards => exact fun returned later => LogChannel.deaf_of_returned returned
  case agrees =>
    intro outcome decided intime arrival timeout before
    rw [LogChannel.watch_atOnce, if_pos before]
    exact sound.outcome_eq decided intime
  case answers =>
    rintro outcome returned intime pattern rfl b c stream shows source timeout
    have decided : s.waiter.outcome? = some outcome := by rw [returned, Waiter.outcome?]
    rw [ContainerStage.awaitLog_answer shows, LogChannel.watch_atOnce,
      ← sound.outcome_eq decided intime]

/-- The stage finds its line and returns while the follower is still ahead of it. -/
theorem awaitLog_interleaved_of_ahead :
    let accepts := fun line => line == "ready"
    let lines := ["starting", "ready", "more", "last"]
    let s : LogChannel :=
      { unsent := ["last"]
        follower := .gone
        queue := ["more"]
        waiter := .returned (.matched "ready")
        examined := ["starting", "ready"]
        offered := [("starting", .proceed), ("ready", .proceed), ("more", .proceed),
          ("last", .stop)] }
    Relation.ReflTransGen (LogChannel.Step accepts) { unsent := lines } s ∧
      Interleaved accepts lines s := by
  intro accepts lines s
  have quiet {s : LogChannel} (waiting : s.waiter = .waiting) : ¬ s.Returned :=
    LogChannel.not_returned_of_waiting waiting
  have listening {s : LogChannel} {outcome : WatchOutcome} (decided : s.waiter = .decided outcome) :
      ¬ s.Returned := by
    rintro ⟨_, returned⟩
    cases decided.symm.trans returned
  have run : Relation.ReflTransGen (LogChannel.Step accepts) { unsent := lines } s := by
    apply Relation.ReflTransGen.head (.send rfl rfl (quiet rfl))
    apply Relation.ReflTransGen.head (.send rfl rfl (quiet rfl))
    apply Relation.ReflTransGen.head (.examine rfl rfl)
    apply Relation.ReflTransGen.head (.examine rfl rfl)
    -- One more line is delivered between the match and the return.
    apply Relation.ReflTransGen.head (.send rfl rfl (listening rfl))
    apply Relation.ReflTransGen.head (.leave rfl)
    apply Relation.ReflTransGen.head (.refuse rfl rfl ⟨_, rfl⟩)
    exact Relation.ReflTransGen.single (.close (Or.inr rfl))
  exact ⟨run, awaitLog_interleaved accepts lines run⟩

end ContainerFixture
