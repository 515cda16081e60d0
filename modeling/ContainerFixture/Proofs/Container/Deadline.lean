import ContainerFixture.Container.Plan
import ContainerFixture.Proofs.Container.LogChannel
import Mathlib.Algebra.BigOperators.Group.Finset.Basic

/-!
# The loop that waits for a line, and its deadline

The lines of a stream come at any times and need not have an end. In every turn the loop works out
how long it is to the deadline, receives for that long at most, and looks at what it received, which
may take any time. A line that is in the channel already is received whatever the time is.

## Main result

`LogLoop.returns_when_drained`: the loop never waits past its deadline. In a turn that begins at the
deadline or past it, it returns unless a line is there that does not match; then it goes on. So it
returns once it finds the channel empty, which a loop that is slower than the lines never does
(`LogLoop.noise_outlasts_deadline`).

## Proof strategy

`Turn` says all that a turn can come to. As long as the loop goes on, it has taken as many lines as
there were turns, so turn `n` is about line `n`, and whether it goes on depends on that line alone
(`undecided_succ_iff`).
-/

namespace ContainerFixture

/-- The lines of a stream as they come into a channel, each with the time at which it came. -/
structure Timeline where
  line : Nat → Option (Nat × String)
  /-- When the sending end was dropped, if it is. That is noticed after the last line. -/
  ending : Option Nat

/-- What comes of waiting at the receiving end of a channel. -/
inductive Received where
  | line (text : String)
  | disconnected
  | timedOut
deriving DecidableEq

namespace Timeline

/-- The line in front of the channel at a time when so many lines were taken, if one is there. -/
def front? (timeline : Timeline) (time taken : Nat) : Option String :=
  match timeline.line taken with
  | some (arrival, text) => if arrival ≤ time then some text else none
  | none => none

/-- All lines were taken, and the sending end is gone. -/
def Closed (timeline : Timeline) (time taken : Nat) : Prop :=
  timeline.line taken = none ∧ ∃ ending, timeline.ending = some ending ∧ ending ≤ time

/-- Waits for a line, no longer than the timeout, and says until when it waited. -/
def receive (timeline : Timeline) (now timeout taken : Nat) : Received × Nat :=
  match timeline.line taken, timeline.ending with
  | some (arrival, text), _ =>
    if arrival ≤ now + timeout then (.line text, max now arrival) else (.timedOut, now + timeout)
  | none, some ending =>
    if ending ≤ now + timeout then (.disconnected, max now ending) else (.timedOut, now + timeout)
  | none, none => (.timedOut, now + timeout)

variable {timeline : Timeline} {now timeout time later taken : Nat} {text : String}

theorem front?_eq_some_iff : timeline.front? time taken = some text ↔
    ∃ arrival, timeline.line taken = some (arrival, text) ∧ arrival ≤ time := by
  rw [front?]
  cases timeline.line taken with
  | none => simp
  | some line =>
    obtain ⟨arrival, other⟩ := line
    simp [and_comm]

theorem front?_of_le (there : timeline.front? time taken = some text) (le : time ≤ later) :
    timeline.front? later taken = some text := by
  obtain ⟨arrival, line, came⟩ := front?_eq_some_iff.mp there
  exact front?_eq_some_iff.mpr ⟨arrival, line, came.trans le⟩

theorem front?_eq_none_of_le (missing : timeline.front? later taken = none) (le : time ≤ later) :
    timeline.front? time taken = none := by
  cases there : timeline.front? time taken with
  | none => rfl
  | some text => cases missing.symm.trans (front?_of_le there le)

theorem Closed.of_le (closed : timeline.Closed time taken) (le : time ≤ later) :
    timeline.Closed later taken := by
  obtain ⟨line, ending, gone, came⟩ := closed
  exact ⟨line, ending, gone, came.trans le⟩

theorem Closed.front?_eq_none (closed : timeline.Closed time taken) (later : Nat) :
    timeline.front? later taken = none := by
  rw [front?, closed.1]

/-- A line that is queued is received at once, also by who has no time left. -/
theorem receive_of_front (there : timeline.front? now taken = some text) (timeout : Nat) :
    timeline.receive now timeout taken = (.line text, now) := by
  obtain ⟨arrival, line, came⟩ := front?_eq_some_iff.mp there
  simp only [receive, line]
  rw [if_pos (by omega), Nat.max_eq_left came]

/-- All that a wait can come to. That the time is up is said at the end of it, and only if no line
is queued then. -/
inductive Receives (timeline : Timeline) (now timeout taken : Nat) : Received × Nat → Prop where
  | line {text : String} {time : Nat} (there : timeline.front? time taken = some text)
      (since : now ≤ time) (upto : time ≤ now + timeout)
      (soonest : ∀ earlier, now ≤ earlier → earlier < time →
        timeline.front? earlier taken = none) :
    Receives timeline now timeout taken (.line text, time)
  | disconnected {time : Nat} (closed : timeline.Closed time taken)
      (since : now ≤ time) (upto : time ≤ now + timeout) :
    Receives timeline now timeout taken (.disconnected, time)
  | timedOut (empty : timeline.front? (now + timeout) taken = none)
      (pending : ¬ timeline.Closed (now + timeout) taken) :
    Receives timeline now timeout taken (.timedOut, now + timeout)

theorem receives (timeline : Timeline) (now timeout taken : Nat) :
    timeline.Receives now timeout taken (timeline.receive now timeout taken) := by
  rw [receive]
  split
  case h_1 _ _ arrival text line =>
    split
    case isTrue came =>
      refine .line (front?_eq_some_iff.mpr ⟨arrival, line, ?_⟩) ?_ ?_ ?_
      · omega
      · omega
      · omega
      · intro earlier since before
        rw [front?, line]
        exact if_neg (by omega)
    case isFalse late =>
      refine .timedOut ?_ fun closed => ?_
      · rw [front?, line]
        exact if_neg late
      · cases closed.1.symm.trans line
  case h_2 ending line gone =>
    split
    case isTrue came =>
      refine .disconnected ⟨line, ending, gone, ?_⟩ ?_ ?_ <;> omega
    case isFalse late =>
      refine .timedOut ?_ fun closed => ?_
      · rw [front?, line]
      · obtain ⟨-, other, same, came⟩ := closed
        cases gone.symm.trans same
        exact late came
  case h_3 line held =>
    refine .timedOut ?_ fun closed => ?_
    · rw [front?, line]
    · obtain ⟨-, ending, gone, -⟩ := closed
      cases held.symm.trans gone

end Timeline

/-- The loop of a stage that waits for a line. -/
structure LogLoop where
  timeline : Timeline
  accepts : String → Bool
  deadline : Nat
  /-- How long the turn with a number takes, not counting the time for which it waits. -/
  pace : Nat → Nat

/-- Where the loop stands between two turns. -/
structure LogLoop.State where
  now : Nat := 0
  taken : Nat := 0
  /-- How the loop ended, if it did. -/
  verdict : Option WatchOutcome := none

namespace LogLoop

/-- One turn of the loop, given its number. -/
def turn (loop : LogLoop) (n : Nat) (s : State) : State :=
  match s.verdict with
  | some _ => s
  | none =>
    match loop.timeline.receive s.now (loop.deadline - s.now) s.taken with
    | (.line text, time) =>
      { now := time + loop.pace n
        taken := s.taken + 1
        verdict := if loop.accepts text then some (.matched text) else none }
    | (.disconnected, time) => { s with now := time + loop.pace n, verdict := some .ended }
    | (.timedOut, time) => { s with now := time + loop.pace n, verdict := some .timedOut }

/-- The state after the first turns. -/
def after (loop : LogLoop) : Nat → State
  | 0 => {}
  | n + 1 => loop.turn n (loop.after n)

/-- The time that the first turns take, not counting the time for which they wait. -/
def busy (loop : LogLoop) (n : Nat) : Nat :=
  ∑ i ∈ Finset.range n, loop.pace i

variable {loop : LogLoop} {s : State} {n : Nat} {text : String}

/-! ### One turn -/

/-- All that a turn can come to while there is no verdict. It waits up to the deadline at most. -/
inductive Turn (loop : LogLoop) (n : Nat) (s : State) : State → Prop where
  | line {text : String} {time : Nat} (there : loop.timeline.front? time s.taken = some text)
      (since : s.now ≤ time) (upto : time ≤ max s.now loop.deadline)
      (soonest : ∀ earlier, s.now ≤ earlier → earlier < time →
        loop.timeline.front? earlier s.taken = none) :
    Turn loop n s
      { now := time + loop.pace n
        taken := s.taken + 1
        verdict := if loop.accepts text then some (.matched text) else none }
  | ended {time : Nat} (closed : loop.timeline.Closed time s.taken)
      (since : s.now ≤ time) (upto : time ≤ max s.now loop.deadline) :
    Turn loop n s { s with now := time + loop.pace n, verdict := some .ended }
  | timedOut (empty : loop.timeline.front? (max s.now loop.deadline) s.taken = none)
      (pending : ¬ loop.timeline.Closed (max s.now loop.deadline) s.taken) :
    Turn loop n s
      { s with now := max s.now loop.deadline + loop.pace n, verdict := some .timedOut }

theorem turn_of_verdict {outcome : WatchOutcome} (decided : s.verdict = some outcome) :
    loop.turn n s = s := by
  rw [turn, decided]

theorem turn_spec (undecided : s.verdict = none) : Turn loop n s (loop.turn n s) := by
  have upto_deadline : s.now + (loop.deadline - s.now) = max s.now loop.deadline := by omega
  have received := loop.timeline.receives s.now (loop.deadline - s.now) s.taken
  rw [turn, undecided]
  dsimp only
  generalize loop.timeline.receive s.now (loop.deadline - s.now) s.taken = answer at received ⊢
  cases received with
  | line there since upto soonest => exact .line there since (upto_deadline ▸ upto) soonest
  | disconnected closed since upto => exact .ended closed since (upto_deadline ▸ upto)
  | timedOut empty pending =>
    rw [upto_deadline] at empty pending ⊢
    exact .timedOut empty pending

theorem turn_of_front (undecided : s.verdict = none)
    (there : loop.timeline.front? s.now s.taken = some text) :
    loop.turn n s =
      { now := s.now + loop.pace n
        taken := s.taken + 1
        verdict := if loop.accepts text then some (.matched text) else none } := by
  rw [turn, undecided]
  dsimp only
  rw [loop.timeline.receive_of_front there]

/-! ### Every turn -/

/-- What holds after any number of turns. -/
structure Sound (loop : LogLoop) (n : Nat) (s : State) : Prop where
  -- Every turn that comes to no verdict takes a line.
  counted : s.verdict = none → s.taken = n
  elapsed : s.verdict = none → loop.busy n ≤ s.now
  waited : s.now ≤ loop.deadline + loop.busy n
  examined : ∀ k < s.taken, ∃ text, loop.timeline.front? s.now k = some text ∧
    (loop.accepts text = true → s.verdict = some (.matched text) ∧ k + 1 = s.taken)
  matched : ∀ text, s.verdict = some (.matched text) → loop.accepts text = true ∧
    ∃ k, k + 1 = s.taken ∧ loop.timeline.front? s.now k = some text
  ended : s.verdict = some .ended → loop.timeline.Closed s.now s.taken
  timedOut : s.verdict = some .timedOut → ∃ time, loop.deadline ≤ time ∧ time ≤ s.now ∧
    loop.timeline.front? time s.taken = none ∧ ¬ loop.timeline.Closed time s.taken

theorem busy_succ (loop : LogLoop) (n : Nat) : loop.busy (n + 1) = loop.busy n + loop.pace n :=
  Finset.sum_range_succ loop.pace n

theorem sound_start (loop : LogLoop) : Sound loop 0 {} where
  counted _ := rfl
  elapsed _ := Nat.le_refl _
  waited := Nat.zero_le _
  examined k taken := absurd taken (Nat.not_lt_zero k)
  matched _ decided := by cases decided
  ended decided := by cases decided
  timedOut decided := by cases decided

namespace Sound

theorem examined_of_le (sound : Sound loop n s) (undecided : s.verdict = none) {time k : Nat}
    {P : String → Prop} (le : s.now ≤ time) (taken : k < s.taken) :
    ∃ text, loop.timeline.front? time k = some text ∧ (loop.accepts text = true → P text) := by
  obtain ⟨text, there, decided⟩ := sound.examined k taken
  refine ⟨text, Timeline.front?_of_le there le, fun accepted => ?_⟩
  cases undecided.symm.trans (decided accepted).1

theorem turn (sound : Sound loop n s) : Sound loop (n + 1) (loop.turn n s) := by
  have longer := loop.busy_succ n
  have waited := sound.waited
  cases undecided : s.verdict with
  | some outcome =>
    -- who has returned takes no more turns, and only the bound on the waiting grows
    rw [turn_of_verdict undecided]
    refine { sound with counted := ?_, elapsed := ?_, waited := by omega }
    · intro none
      cases undecided.symm.trans none
    · intro none
      cases undecided.symm.trans none
  | none =>
    have elapsed := sound.elapsed undecided
    have spec : Turn loop n s (loop.turn n s) := turn_spec undecided
    generalize loop.turn n s = next at spec ⊢
    cases spec with
    | @line text time there since upto soonest =>
      have there_after := Timeline.front?_of_le there (Nat.le_add_right time (loop.pace n))
      constructor
      case counted => exact fun _ => congrArg Nat.succ (sound.counted undecided)
      case elapsed =>
        intro _
        dsimp only
        omega
      case waited =>
        dsimp only
        omega
      case examined =>
        intro k taken
        -- the line of this turn, or one of those before it
        rcases Nat.lt_succ_iff_lt_or_eq.mp taken with earlier | rfl
        · exact sound.examined_of_le undecided (Nat.le_add_right_of_le since) earlier
        · refine ⟨text, there_after, fun accepted => ?_⟩
          exact ⟨if_pos accepted, rfl⟩
      case matched =>
        intro other decided
        dsimp only at decided
        split at decided
        · next accepted =>
          cases decided
          exact ⟨accepted, s.taken, rfl, there_after⟩
        · cases decided
      case ended | timedOut =>
        intro decided
        dsimp only at decided
        split at decided <;> cases decided
    | @ended time closed since upto =>
      constructor
      case counted | elapsed | timedOut => exact nofun
      case matched => exact fun _ => nofun
      case waited =>
        dsimp only
        omega
      case examined =>
        intro k taken
        exact sound.examined_of_le undecided (Nat.le_add_right_of_le since) taken
      case ended => exact fun _ => closed.of_le (Nat.le_add_right time (loop.pace n))
    | timedOut empty pending =>
      constructor
      case counted | elapsed | ended => exact nofun
      case matched => exact fun _ => nofun
      case waited =>
        dsimp only
        omega
      case examined =>
        intro k taken
        exact sound.examined_of_le undecided (Nat.le_add_right_of_le (Nat.le_max_left ..)) taken
      case timedOut =>
        intro _
        exact ⟨_, Nat.le_max_right .., Nat.le_add_right .., empty, pending⟩

end Sound

theorem sound_after (loop : LogLoop) (n : Nat) : Sound loop n (loop.after n) := by
  induction n with
  | zero => exact sound_start loop
  | succ n ih => exact ih.turn

/-! ### Going on and returning -/

theorem after_add_of_verdict {outcome : WatchOutcome}
    (decided : (loop.after n).verdict = some outcome) (m : Nat) :
    loop.after (n + m) = loop.after n := by
  induction m with
  | zero => rfl
  | succ m ih => exact (congrArg (loop.turn (n + m)) ih).trans (turn_of_verdict decided)

theorem verdict_eq_none_of_le {m : Nat} (undecided : (loop.after m).verdict = none) (le : n ≤ m) :
    (loop.after n).verdict = none := by
  cases decided : (loop.after n).verdict with
  | none => rfl
  | some outcome =>
    have same := after_add_of_verdict decided (m - n)
    rw [Nat.add_sub_of_le le] at same
    cases undecided.symm.trans (same ▸ decided)

theorem now_le_after_succ (loop : LogLoop) (n : Nat) :
    (loop.after n).now ≤ (loop.after (n + 1)).now := by
  rw [after]
  cases undecided : (loop.after n).verdict with
  | some outcome => rw [turn_of_verdict undecided]
  | none =>
    have spec : Turn loop n (loop.after n) (loop.turn n (loop.after n)) := turn_spec undecided
    generalize loop.turn n (loop.after n) = next at spec ⊢
    cases spec <;> (dsimp only; omega)

/-- As long as there is no verdict, a turn is about the line with its own number. -/
theorem turn_after (undecided : (loop.after n).verdict = none) :
    (loop.after n).taken = n ∧ Turn loop n (loop.after n) (loop.after (n + 1)) :=
  ⟨(sound_after loop n).counted undecided, turn_spec undecided⟩

/-- The loop goes on if a line comes in time and is not accepted. -/
theorem undecided_succ_iff (undecided : (loop.after n).verdict = none) :
    (loop.after (n + 1)).verdict = none ↔
      ∃ text, loop.timeline.front? (max (loop.after n).now loop.deadline) n = some text ∧
        loop.accepts text = false := by
  obtain ⟨taken, spec⟩ := turn_after undecided
  generalize loop.after (n + 1) = next at spec ⊢
  cases spec with
  | @line text time there since upto soonest =>
    rw [taken] at there
    have there := Timeline.front?_of_le there upto
    constructor
    · intro undecided
      refine ⟨text, there, Bool.eq_false_iff.mpr fun accepted => ?_⟩
      cases (if_pos accepted).symm.trans undecided
    · rintro ⟨other, same, refused⟩
      cases there.symm.trans same
      exact if_neg (Bool.eq_false_iff.mp refused)
  | ended closed since upto =>
    rw [taken] at closed
    refine iff_of_false nofun ?_
    rintro ⟨other, there, -⟩
    cases (closed.front?_eq_none _).symm.trans there
  | timedOut empty pending =>
    rw [taken] at empty
    refine iff_of_false nofun ?_
    rintro ⟨other, there, -⟩
    cases empty.symm.trans there

/-! ### Turns that begin late -/

theorem after_succ_of_front (undecided : (loop.after n).verdict = none)
    (there : loop.timeline.front? (loop.after n).now n = some text) :
    loop.after (n + 1) =
      { now := (loop.after n).now + loop.pace n
        taken := n + 1
        verdict := if loop.accepts text then some (.matched text) else none } := by
  have taken := (sound_after loop n).counted undecided
  have looked : loop.after (n + 1) = _ := turn_of_front undecided (by rw [taken]; exact there)
  rw [looked, taken]

/-- Past the deadline, nothing is waited for. -/
theorem after_succ_of_empty (undecided : (loop.after n).verdict = none)
    (late : loop.deadline ≤ (loop.after n).now)
    (empty : loop.timeline.front? (loop.after n).now n = none) :
    (loop.after (n + 1)).now = (loop.after n).now + loop.pace n ∧
      (loop.timeline.Closed (loop.after n).now n ∧
          (loop.after (n + 1)).verdict = some .ended ∨
        ¬ loop.timeline.Closed (loop.after n).now n ∧
          (loop.after (n + 1)).verdict = some .timedOut) := by
  obtain ⟨taken, spec⟩ := turn_after undecided
  generalize loop.after (n + 1) = next at spec ⊢
  have at_once := Nat.max_eq_left late
  cases spec with
  | @line text time there since upto =>
    obtain rfl : time = (loop.after n).now := by omega
    rw [taken, empty] at there
    cases there
  | @ended time closed since upto =>
    obtain rfl : time = (loop.after n).now := by omega
    rw [taken] at closed
    exact ⟨rfl, Or.inl ⟨closed, rfl⟩⟩
  | timedOut empty pending =>
    rw [at_once, taken] at pending
    exact ⟨congrArg (· + loop.pace n) at_once, Or.inr ⟨pending, rfl⟩⟩

/-- All that is queued when a turn begins is taken, as long as it is not accepted. -/
theorem backlog_taken (undecided : (loop.after n).verdict = none) (m : Nat)
    (backlog : ∀ k < m, ∃ text, loop.timeline.front? (loop.after n).now (n + k) = some text ∧
      loop.accepts text = false) :
    (loop.after (n + m)).verdict = none ∧ (loop.after n).now ≤ (loop.after (n + m)).now := by
  induction m with
  | zero => exact ⟨undecided, Nat.le_refl _⟩
  | succ m ih =>
    obtain ⟨still, later⟩ := ih fun k lt => backlog k (Nat.lt_succ_of_lt lt)
    obtain ⟨text, there, refused⟩ := backlog m (Nat.lt_succ_self m)
    refine ⟨(undecided_succ_iff still).mpr ⟨text, ?_, refused⟩, ?_⟩
    · exact Timeline.front?_of_le there (later.trans (Nat.le_max_left ..))
    · exact later.trans (now_le_after_succ loop (n + m))

/-- The loop goes on for ever if the lines come in time for it and none is accepted. -/
theorem endless_iff (loop : LogLoop) : (∀ n, (loop.after n).verdict = none) ↔
    ∀ n, ∃ text, loop.timeline.front? (max (loop.after n).now loop.deadline) n = some text ∧
      loop.accepts text = false := by
  constructor
  · intro endless n
    exact (undecided_succ_iff (endless n)).mp (endless (n + 1))
  · intro lines n
    induction n with
    | zero => rfl
    | succ n ih => exact (undecided_succ_iff ih).mpr (lines n)

/-- A line that is not there by the deadline and the time spent on the lines before it is not
waited for. -/
theorem decided_of_missing (missing : loop.timeline.front? (loop.deadline + loop.busy n) n = none) :
    (loop.after (n + 1)).verdict ≠ none := by
  intro undecided
  have before := verdict_eq_none_of_le undecided (Nat.le_succ n)
  obtain ⟨text, there, -⟩ := (undecided_succ_iff before).mp undecided
  -- the loop has waited up to its deadline at most, and the rest of the time went into the lines
  have waited := (sound_after loop n).waited
  have missing := Timeline.front?_eq_none_of_le missing
    (show max (loop.after n).now loop.deadline ≤ loop.deadline + loop.busy n by omega)
  cases missing.symm.trans there

/-- Lines that come while the ones before them are looked at keep the loop busy for ever. -/
theorem endless_of_busy (outrun : ∀ n, ∃ text, loop.timeline.front? (loop.busy n) n = some text ∧
    loop.accepts text = false) (n : Nat) : (loop.after n).verdict = none := by
  induction n with
  | zero => rfl
  | succ n ih =>
    obtain ⟨text, there, refused⟩ := outrun n
    -- however little it waited, the lines before this one have taken their time
    have elapsed := (sound_after loop n).elapsed ih
    refine (undecided_succ_iff ih).mpr ⟨text, ?_, refused⟩
    exact Timeline.front?_of_le there (elapsed.trans (Nat.le_max_left ..))

end LogLoop

/-! ### Streams with a last line -/

/-- What a follower is given, as a channel has it. -/
def LogFeed.timeline (feed : LogFeed) : Timeline where
  line n := feed.arrivals[n]?.map fun (arrival, text) => (arrival.nanoseconds, text)
  ending := feed.ending.map Duration.nanoseconds

namespace LogLoop

variable {loop : LogLoop} {n : Nat} {text : String} {cost : String → Nat}

/-- The turn that is about a line of which it is known when it comes. -/
theorem after_succ_of_line {arrival : Nat} (undecided : (loop.after n).verdict = none)
    (line : loop.timeline.line n = some (arrival, text)) :
    (arrival ≤ max (loop.after n).now loop.deadline ∧
      (loop.after (n + 1)).now = max (loop.after n).now arrival + loop.pace n ∧
      (loop.after (n + 1)).verdict = if loop.accepts text then some (.matched text) else none) ∨
    (¬ arrival ≤ max (loop.after n).now loop.deadline ∧
      (loop.after (n + 1)).verdict = some .timedOut) := by
  obtain ⟨taken, spec⟩ := turn_after undecided
  generalize loop.after (n + 1) = next at spec ⊢
  have front {time : Nat} :
      loop.timeline.front? time n = if arrival ≤ time then some text else none := by
    rw [Timeline.front?, line]
  cases spec with
  | @line other time there since upto soonest =>
    rw [taken, front] at there
    split at there
    case isFalse => cases there
    case isTrue came =>
    cases there
    have at_once : time = max (loop.after n).now arrival := by
      by_contra later
      have missing := soonest (max (loop.after n).now arrival) (by omega) (by omega)
      rw [taken, front, if_pos (by omega)] at missing
      cases missing
    exact Or.inl ⟨by omega, by rw [at_once], rfl⟩
  | ended closed =>
    rw [taken] at closed
    cases line.symm.trans closed.1
  | timedOut empty =>
    rw [taken, front] at empty
    split at empty
    case isTrue => cases empty
    case isFalse late => exact Or.inr ⟨late, rfl⟩

theorem after_succ_of_no_line (undecided : (loop.after n).verdict = none)
    (line : loop.timeline.line n = none) :
    (loop.after (n + 1)).verdict = some (watch loop.accepts cost loop.deadline
      loop.timeline.ending (loop.after n).now []) := by
  obtain ⟨taken, spec⟩ := turn_after undecided
  generalize loop.after (n + 1) = next at spec ⊢
  cases spec with
  | line there =>
    rw [taken, Timeline.front?, line] at there
    cases there
  -- it ends or times out just as `watch` does, which looks at the time of the ending alone
  | ended closed since upto =>
    obtain ⟨-, ending, gone, came⟩ := closed
    rw [gone, watch, if_pos (came.trans upto)]
  | timedOut empty pending =>
    cases gone : loop.timeline.ending with
    | none => rw [watch]
    | some ending =>
      have late : ¬ ending ≤ max (loop.after n).now loop.deadline := fun came =>
        pending ⟨taken.symm ▸ line, ending, gone, came⟩
      rw [watch, if_neg late]

/-- From any turn on, the loop comes to what `watch` says of the lines that are left. -/
theorem verdict_eq_watch_drop {feed : LogFeed}
    (lines : loop.timeline = feed.timeline)
    (paced : ∀ n arrival text, feed.arrivals[n]? = some (arrival, text) → loop.pace n = cost text)
    (rest : List (Duration × String)) (left : feed.arrivals.drop n = rest)
    (undecided : (loop.after n).verdict = none) :
    (loop.after (n + rest.length + 1)).verdict =
      some (watch loop.accepts cost loop.deadline (feed.ending.map Duration.nanoseconds)
        (loop.after n).now rest) := by
  induction rest generalizing n with
  | nil =>
    have line : loop.timeline.line n = none := by
      simp [lines, LogFeed.timeline, List.drop_eq_nil_iff.mp left]
    rw [List.length_nil, Nat.add_zero, after_succ_of_no_line undecided line, lines]
    rfl
  | cons first rest ih =>
    obtain ⟨arrival, text⟩ := first
    have here : feed.arrivals[n]? = some (arrival, text) := by
      rw [← List.head?_drop, left, List.head?_cons]
    have line : loop.timeline.line n = some (arrival.nanoseconds, text) := by
      simp [lines, LogFeed.timeline, here]
    have left : feed.arrivals.drop (n + 1) = rest := by
      rw [← List.tail_drop, left, List.tail_cons]
    have count : n + (rest.length + 1) + 1 = n + 1 + (rest.length + 1) := by omega
    rw [List.length_cons, count, watch]
    rcases after_succ_of_line undecided line with ⟨came, now, verdict⟩ | ⟨late, verdict⟩
    · rw [if_pos came]
      -- a verdict stays for the turns that are left over
      cases accepted : loop.accepts text with
      | true =>
        rw [accepted, if_pos rfl] at verdict
        rw [after_add_of_verdict verdict, verdict, if_pos rfl]
      | false =>
        rw [accepted, if_neg Bool.false_ne_true] at verdict
        have later := ih left verdict
        rw [now, paced n arrival text here] at later
        rw [if_neg Bool.false_ne_true]
        exact later
    · rw [after_add_of_verdict verdict, verdict, if_neg late]

/-! ### Main result -/

/-- A turn that begins without a verdict, at the deadline or past it. -/
structure LateTurn (loop : LogLoop) (n : Nat) : Prop where
  matched : ∀ text, loop.timeline.front? (loop.after n).now n = some text →
    loop.accepts text = true → (loop.after (n + 1)).verdict = some (.matched text)
  ended : loop.timeline.Closed (loop.after n).now n → (loop.after (n + 1)).verdict = some .ended
  timedOut : loop.timeline.front? (loop.after n).now n = none →
    ¬ loop.timeline.Closed (loop.after n).now n → (loop.after (n + 1)).verdict = some .timedOut
  -- It does not return if there is a line that does not match, and only then.
  returns : (loop.after (n + 1)).verdict = none ↔
    ∃ text, loop.timeline.front? (loop.after n).now n = some text ∧ loop.accepts text = false
  unwaited : (loop.after (n + 1)).now = (loop.after n).now + loop.pace n

theorem late_turn (undecided : (loop.after n).verdict = none)
    (late : loop.deadline ≤ (loop.after n).now) : LateTurn loop n := by
  have empty := after_succ_of_empty undecided late
  constructor
  case matched =>
    intro text there accepted
    rw [after_succ_of_front undecided there]
    exact if_pos accepted
  case ended =>
    intro closed
    rcases (empty (closed.front?_eq_none _)).2 with ⟨-, verdict⟩ | ⟨pending, -⟩
    · exact verdict
    · exact absurd closed pending
  case timedOut =>
    intro missing pending
    rcases (empty missing).2 with ⟨closed, -⟩ | ⟨-, verdict⟩
    · exact absurd closed pending
    · exact verdict
  case returns =>
    have going := undecided_succ_iff undecided
    rwa [Nat.max_eq_left late] at going
  case unwaited =>
    cases there : loop.timeline.front? (loop.after n).now n with
    | none => exact (empty there).1
    | some text => rw [after_succ_of_front undecided there]

/-- What the deadline does to the loop, whatever comes when and however long the turns take. -/
structure ReturnsWhenDrained (loop : LogLoop) : Prop where
  sound : ∀ n, Sound loop n (loop.after n)
  late : ∀ n, (loop.after n).verdict = none → loop.deadline ≤ (loop.after n).now → LateTurn loop n
  -- What is queued when a turn begins is all taken, be the turn late or not.
  backlog : ∀ n, (loop.after n).verdict = none → ∀ m, (∀ k < m, ∃ text,
    loop.timeline.front? (loop.after n).now (n + k) = some text ∧ loop.accepts text = false) →
    (loop.after (n + m)).verdict = none ∧ (loop.after (n + m)).taken = n + m
  -- A line that does not come by the deadline and the time spent on lines is not waited for.
  drained : ∀ n, loop.timeline.front? (loop.deadline + loop.busy n) n = none →
    (loop.after (n + 1)).verdict ≠ none
  -- No deadline ends a loop that is slower than the lines come.
  outrun : (∀ n, ∃ text, loop.timeline.front? (loop.busy n) n = some text ∧
    loop.accepts text = false) → ∀ n, (loop.after n).verdict = none
  endless : (∀ n, (loop.after n).verdict = none) ↔
    ∀ n, ∃ text, loop.timeline.front? (max (loop.after n).now loop.deadline) n = some text ∧
      loop.accepts text = false
  -- On a stream with a last line it is `watch`, and the stage answers accordingly.
  watches : ∀ (feed : LogFeed) (cost : String → Nat), loop.timeline = feed.timeline →
    (∀ n arrival text, feed.arrivals[n]? = some (arrival, text) → loop.pace n = cost text) →
    (loop.after (feed.arrivals.length + 1)).verdict = some (watch loop.accepts cost loop.deadline
      (feed.ending.map Duration.nanoseconds) 0 feed.arrivals)
  answers : ∀ (E : Type) [Engine E] (b after : Bench E) (c : Container) (stream : LogStream)
    (feed : LogFeed), Bench.followLogs c stream b = (.ok feed, after) →
    loop.timeline = feed.timeline → (∀ n, loop.pace n = 0) →
    ∀ pattern : Pattern, pattern.occursIn = loop.accepts →
    ∀ source timeout, timeout.nanoseconds = loop.deadline →
    ∃ outcome, (loop.after (feed.arrivals.length + 1)).verdict = some outcome ∧
      ((ContainerStage.awaitLog source pattern stream timeout).commission (some c) b).1 =
        outcome.answer source stream timeout c

/-- Past its deadline, the loop returns as soon as it finds no line that does not match. -/
theorem returns_when_drained (loop : LogLoop) : ReturnsWhenDrained loop := by
  have watches (feed : LogFeed) (cost : String → Nat) (lines : loop.timeline = feed.timeline)
      (paced : ∀ n arrival text, feed.arrivals[n]? = some (arrival, text) →
        loop.pace n = cost text) :
      (loop.after (feed.arrivals.length + 1)).verdict = some (watch loop.accepts cost loop.deadline
        (feed.ending.map Duration.nanoseconds) 0 feed.arrivals) := by
    have whole := verdict_eq_watch_drop (n := 0) lines paced feed.arrivals List.drop_zero rfl
    rwa [Nat.zero_add] at whole
  constructor
  case sound => exact sound_after loop
  case late => exact fun n => late_turn
  case backlog =>
    intro n undecided m backlog
    have still := (backlog_taken undecided m backlog).1
    exact ⟨still, (sound_after loop (n + m)).counted still⟩
  case drained => exact fun n => decided_of_missing
  case outrun => exact endless_of_busy
  case endless => exact endless_iff loop
  case watches => exact watches
  case answers =>
    intro E _ b after c stream feed followed lines free pattern accepts source timeout deadline
    refine ⟨_, watches feed (fun _ => 0) lines fun n _ _ _ => free n, ?_⟩
    rw [ContainerStage.awaitLog_of_followLogs followed, LogFeed.watch, accepts, deadline]

/-- A loop that is late and finds the channel empty. -/
example :
    let loop : LogLoop :=
      { timeline := LogFeed.timeline ⟨[(⟨1⟩, "starting"), (⟨5⟩, "ready")], none⟩
        accepts := fun text => text == "ready"
        deadline := 2
        pace := fun _ => 3 }
    (loop.after 1).now = 4 ∧ (loop.after 2).verdict = some .timedOut := by
  decide

/-- At its deadline, the loop goes on after a line that does not match and succeeds with the next
one, and so does the stage on an engine whose lines are there first. A loop that spends on every line
the time in which the next one comes never returns. -/
theorem noise_outlasts_deadline :
    let engine := MemoryEngine.pushLog .stdout "ready"
      (MemoryEngine.pushLog .stdout "starting" { holdsLogs := true })
    let hurried : LogLoop :=
      { timeline := (engine.feed .stdout).timeline
        accepts := fun text => text == "ready"
        deadline := 0
        pace := fun _ => 0 }
    let plan : ContainerPlan MemoryEngine :=
      { params := Params.ofImage ⟨none, none, "redis", some (.tag "7")⟩
        postStart := [.awaitLog "ready" (.literal "ready".toList) .stdout ⟨0⟩] }
    let noisy (deadline : Nat) : LogLoop :=
      { timeline := { line := fun n => some (n, "noise"), ending := none }
        accepts := fun text => text == "ready"
        deadline
        pace := fun _ => 1 }
    (hurried.after 0).verdict = none ∧ hurried.deadline ≤ (hurried.after 0).now ∧
      (hurried.after 1).verdict = none ∧ (hurried.after 1).taken = 1 ∧
      (hurried.after 2).verdict = some (.matched "ready") ∧
      (Lifecycle.commission { stages := plan.stages } { engine }).1.isOk = true ∧
      ∀ deadline n, ((noisy deadline).after n).verdict = none := by
  intro engine hurried plan noisy
  refine ⟨rfl, Nat.le_refl _, by decide, by decide, by decide, by decide +kernel, ?_⟩
  intro deadline
  refine endless_of_busy fun n => ⟨"noise", ?_, (by decide : ("noise" == "ready") = false)⟩
  have busy : (noisy deadline).busy n = n :=
    (Finset.card_eq_sum_ones (Finset.range n)).symm.trans (Finset.card_range n)
  rw [busy]
  exact if_pos (Nat.le_refl n)

end LogLoop

end ContainerFixture
