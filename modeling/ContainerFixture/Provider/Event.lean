import ContainerFixture.Lifecycle

/-!
# Provider events

What a provider tells its observer, in the order in which it happens.
-/

namespace ContainerFixture

inductive EventKind where
  | commissionStarted
  | commissionSucceeded
  | commissionFailed
  | provideStarted
  | provideCompleted
  | finishStarted
  | finishCompleted
  | notice
deriving DecidableEq, Repr

namespace EventKind

def text : EventKind → String
  | commissionStarted => "commission-started"
  | commissionSucceeded => "commission-succeeded"
  | commissionFailed => "commission-failed"
  | provideStarted => "provide-started"
  | provideCompleted => "provide-completed"
  | finishStarted => "finish-started"
  | finishCompleted => "finish-completed"
  | notice => "notice"

def all : List EventKind :=
  [commissionStarted, commissionSucceeded, commissionFailed, provideStarted, provideCompleted,
    finishStarted, finishCompleted, notice]

end EventKind

/-- One event with what it reports. -/
inductive Event (ε : Type) where
  | commissionStarted
  | commissionSucceeded
  | commissionFailed (cause : LifecycleError ε)
  | provideStarted
  | provideCompleted
  | finishStarted
  /-- A teardown ended, with its failure if it had one. -/
  | finishCompleted (failure : Option (LifecycleError ε))
  /-- A finish was left to the end of the process. -/
  | finishDeferred
  /-- The teardown run by an exit hook failed, with nobody else to tell. -/
  | exitTeardownFailed (cause : LifecycleError ε)
deriving DecidableEq, Repr

namespace Event

variable {ε : Type}

def kind : Event ε → EventKind
  | commissionStarted => .commissionStarted
  | commissionSucceeded => .commissionSucceeded
  | commissionFailed _ => .commissionFailed
  | provideStarted => .provideStarted
  | provideCompleted => .provideCompleted
  | finishStarted => .finishStarted
  | finishCompleted _ => .finishCompleted
  | finishDeferred | exitTeardownFailed _ => .notice

/-- The text that comes with an event, given the text of a stage's cause. -/
def message? (describe : ε → String) : Event ε → Option String
  | commissionFailed cause => some (cause.message describe)
  | finishCompleted failure => failure.map (LifecycleError.message describe)
  | finishDeferred => some "finish ignored, teardown deferred to process exit"
  | exitTeardownFailed cause =>
    some s!"teardown at process exit failed: {cause.message describe}"
  | commissionStarted | commissionSucceeded | provideStarted | provideCompleted
  | finishStarted => none

end Event

end ContainerFixture
