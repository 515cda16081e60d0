import ContainerFixture.Engine

/-!
# Watching for a line

Waiting for a line that matches, up to a deadline. The watcher takes the lines in the order in which
they arrive, and a line that has arrived already is taken whatever the time is; only when there is
none does the deadline count.
-/

namespace ContainerFixture

inductive WatchOutcome where
  | matched (line : String)
  | timedOut
  | ended
deriving DecidableEq, Repr

/-- Watches arrivals from a time on, where looking at one line takes as long as `pace` says. A
stream ends at `ending`, if it does, and its end is noticed like a line. -/
def watch (accepts : String → Bool) (pace : String → Nat) (deadline : Nat) (ending : Option Nat) :
    Nat → List (Duration × String) → WatchOutcome
  | now, [] =>
    match ending with
    | some t => if t ≤ max now deadline then .ended else .timedOut
    | none => .timedOut
  | now, (arrival, line) :: rest =>
    if arrival.nanoseconds ≤ max now deadline then
      if accepts line then .matched line
      else watch accepts pace deadline ending (max now arrival.nanoseconds + pace line) rest
    else .timedOut

/-- Watches a stream from when it was first followed, with no time lost on any line. Every timeout is
a deadline, also one so long that a clock could not hold it and a watcher would do without. -/
def LogFeed.watch (feed : LogFeed) (accepts : String → Bool) (timeout : Duration) : WatchOutcome :=
  ContainerFixture.watch accepts (fun _ => 0) timeout.nanoseconds
    (feed.ending.map Duration.nanoseconds) 0 feed.arrivals

end ContainerFixture
