import ContainerFixture.Proofs.Lifecycle.Journal
import ContainerFixture.Provider.Group
import Mathlib.Data.List.Induction
import Mathlib.Logic.Function.Basic

/-!
# Interleaved calls

Any number of threads that call the providers of a group and fire its exit hooks. A step is one
atomic access of one thread: it loads or sets a finished flag, takes or gives back a guard, or works
on what a guard that it holds protects. The memory is the group itself, and a step changes it by the
operations that the sequential calls are made of, so that a call that runs alone goes as it does
there.

Three guards protect a provider: the cell, held while the only provision is being made; the
lifecycle; and the slot of the exit hook. A registry has a guard of its own, held for one access
only: adding a hook, dropping one, or taking all of them out. An event is recorded together with the
access before it. Observers and stages do not call back.
-/

namespace ContainerFixture

variable {σ ε π : Type}

/-- What at most one thread holds at a time. -/
inductive Guard where
  | cell (p : Nat)
  | lifecycle (p : Nat)
  | slot (p : Nat)
deriving DecidableEq, Repr

/-- How far the thread inside the cell of a provider is. -/
inductive Provisioning (ε π : Type) where
  -- About to take the lifecycle.
  | locking
  -- Holds the lifecycle and is about to look at the flag again.
  | rechecking
  -- Holds the lifecycle of a provider that was not finished.
  | commissioning
  -- Gave the lifecycle back, and is about to say how it went.
  | commissioned (outcome : Except (LifecycleError ε) (Option π))
  -- About to take the slot, to register an exit hook.
  | claiming (host : HookHost) (product : Option π)
  -- Holds the slot and is about to look at it and at the flag.
  | keeping (host : HookHost) (product : Option π)
  -- Holds the empty slot of a provider that was not finished.
  | registering (host : HookHost) (product : Option π)
  -- Holds the slot, and is about to keep the number of the hook that it registered.
  | noting (product : Option π) (id : HookId)
  -- About to fill the cell and leave it.
  | leaving (provision : Provision ε π)

/-- Who tears a provider down, which decides what follows. -/
inductive Asker (ε : Type) where
  | finish
  -- Its slot is held all the while.
  | finishNow
  -- A firing that answers `ran` in the end, with these hooks still to run.
  | exitHook (ran : Nat) (left : List Nat)
  -- The thread inside the cell, whose hook was refused.
  | refusal (cause : LifecycleError ε)

/-- How far a teardown is. -/
inductive Teardown (ε : Type) where
  -- About to set the flag.
  | flagging
  -- Set the flag, and is about to take the lifecycle.
  | locking
  -- Holds the lifecycle.
  | sweeping
  -- Gave the lifecycle back, and is about to say how it went.
  | telling (outcome : Except (LifecycleError ε) Unit)
  | ended (outcome : Except (LifecycleError ε) Unit)

/-- Where a thread stands. -/
inductive Point (ε π : Type) where
  | idle
  -- About to look at the flag, to provide.
  | checking (p : Nat)
  -- Found the flag clear, and is before the cell.
  | entering (p : Nat)
  | inside (p : Nat) (progress : Provisioning ε π)
  -- Took a provision from the cell.
  | answering (p : Nat) (provision : Provision ε π)
  -- About to note that a finish is left to the end of the process.
  | deferring (p : Nat)
  -- About to take the slot, to finish on the spot.
  | seizing (p : Nat)
  -- Holds the slot and is about to empty it.
  | withdrawing (p : Nat)
  -- Holds the slot and is about to drop the exit hook that was in it.
  | dropping (p : Nat) (taken : Option HookId)
  | teardown (p : Nat) (asker : Asker ε) (progress : Teardown ε)
  -- About to take the hooks out of a registry.
  | draining (host : HookHost)
  -- Between two hooks.
  | firing (ran : Nat) (left : List Nat)

/-- What a step shows of itself. -/
inductive Seen (ε π : Type) where
  | nothing
  -- A call found its provider finished and returns a failure of its own.
  | turnedAway (p : Nat) (provision : Provision ε π)
  -- The cell was entered, to make the only provision.
  | entered (p : Nat)
  -- The provider was found finished inside the cell, and this failure will fill it.
  | abandoned (p : Nat) (provision : Provision ε π)
  -- The cell was filled and left.
  | filled (p : Nat) (provision : Provision ε π)
  -- The lifecycle's commission ran, with these stage calls.
  | commissioned (p : Nat) (outcome : Except (LifecycleError ε) (Option π))
      (calls : List StageCall)
  -- The lifecycle's decommission ran, with these stage calls.
  | decommissioned (p : Nat) (outcome : Except (LifecycleError ε) Unit) (calls : List StageCall)
  -- The finished flag was set.
  | flagged (p : Nat)
  -- An exit hook was registered.
  | registered (p : Nat) (id : HookId)
  -- The exit hook that was in the slot, if there was one, was dropped.
  | withdrawn (p : Nat)
  -- The hooks of a registry were taken out.
  | drained (host : HookHost)
  -- A call that got past its first look at the flag returns a provision.
  | provided (p : Nat) (provision : Provision ε π)
  -- A call to finish returns.
  | finished (p : Nat) (outcome : Except (LifecycleError ε) Unit)
  -- A firing returns.
  | fired (ran : Nat)

/-- A group, who holds which guard, and where every thread stands. -/
structure Machine (σ ε π : Type) where
  group : ProviderGroup σ ε π
  holder : Guard → Option Nat
  threads : Nat → Point ε π

def failureOf (outcome : Except (LifecycleError ε) Unit) : Option (LifecycleError ε) :=
  match outcome with
  | .ok () => none
  | .error cause => some cause

namespace ProviderGroup

/-- A new group, with a provider for each chain and nothing registered. -/
def ofChains (world : σ) (chains : List (List (Stage σ ε π) × Scope)) : ProviderGroup σ ε π where
  world
  providers := chains.map fun (stages, scope) => { lifecycle := { stages }, scope }

/-- Drops what was in the slot of a provider from the registry of its host. -/
def dropHook (p : Nat) (taken : Option HookId) (g : ProviderGroup σ ε π) : ProviderGroup σ ε π :=
  match taken, (g.provider p).scope with
  | some id, .global host => g.deregisterHook host id
  | _, _ => g

end ProviderGroup

namespace Machine

def atRest (group : ProviderGroup σ ε π) : Machine σ ε π where
  group
  holder _ := none
  threads _ := .idle

/-- No call is in progress. -/
def Quiescent (m : Machine σ ε π) : Prop := ∀ t, m.threads t = .idle

def move (m : Machine σ ε π) (t : Nat) (point : Point ε π) : Machine σ ε π :=
  { m with threads := Function.update m.threads t point }

def put (m : Machine σ ε π) (group : ProviderGroup σ ε π) : Machine σ ε π := { m with group }

def take (m : Machine σ ε π) (guard : Guard) (t : Nat) : Machine σ ε π :=
  { m with holder := Function.update m.holder guard (some t) }

def free (m : Machine σ ε π) (guard : Guard) : Machine σ ε π :=
  { m with holder := Function.update m.holder guard none }

/-! ### The effect of moving, changing the group, taking and giving back -/

section
variable (m : Machine σ ε π) (t : Nat) (point : Point ε π) (g : ProviderGroup σ ε π) (guard : Guard)

@[simp] theorem group_move : (m.move t point).group = m.group := rfl

@[simp] theorem holder_move : (m.move t point).holder = m.holder := rfl

@[simp] theorem threads_move : (m.move t point).threads = Function.update m.threads t point := rfl

@[simp] theorem group_put : (m.put g).group = g := rfl

@[simp] theorem holder_put : (m.put g).holder = m.holder := rfl

@[simp] theorem threads_put : (m.put g).threads = m.threads := rfl

@[simp] theorem group_take : (m.take guard t).group = m.group := rfl

@[simp] theorem holder_take :
    (m.take guard t).holder = Function.update m.holder guard (some t) := rfl

@[simp] theorem threads_take : (m.take guard t).threads = m.threads := rfl

@[simp] theorem group_free : (m.free guard).group = m.group := rfl

@[simp] theorem holder_free : (m.free guard).holder = Function.update m.holder guard none := rfl

@[simp] theorem threads_free : (m.free guard).threads = m.threads := rfl

end

end Machine

open Machine

/-- One atomic access of thread `t`. -/
inductive Step (t : Nat) : Machine σ ε π → Seen ε π → Machine σ ε π → Prop where
  -- Calls. Finishing a global provider is only noted.
  | callProvide {m : Machine σ ε π} {p : Nat} (here : m.threads t = .idle)
      (known : p < m.group.providers.length) :
    Step t m .nothing (m.move t (.checking p))
  | callFinish {m : Machine σ ε π} {p : Nat} (here : m.threads t = .idle)
      (known : p < m.group.providers.length) (scope : (m.group.provider p).scope = .owned) :
    Step t m .nothing (m.move t (.teardown p .finish .flagging))
  | callDefer {m : Machine σ ε π} {p : Nat} {host : HookHost} (here : m.threads t = .idle)
      (known : p < m.group.providers.length) (scope : (m.group.provider p).scope = .global host) :
    Step t m .nothing (m.move t (.deferring p))
  | callFinishNow {m : Machine σ ε π} {p : Nat} (here : m.threads t = .idle)
      (known : p < m.group.providers.length) :
    Step t m .nothing (m.move t (.seizing p))
  | callFire {m : Machine σ ε π} {host : HookHost} (here : m.threads t = .idle) :
    Step t m .nothing (m.move t (.draining host))
  -- Providing, up to the cell.
  | turnAway {m : Machine σ ε π} {p : Nat} (here : m.threads t = .checking p)
      (set : (m.group.provider p).finished = true) :
    Step t m (.turnedAway p (m.group.provisionOf (.error .alreadyFinished) p).1)
      ((m.put (m.group.provisionOf (.error .alreadyFinished) p).2).move t .idle)
  | pass {m : Machine σ ε π} {p : Nat} (here : m.threads t = .checking p)
      (clear : (m.group.provider p).finished = false) :
    Step t m .nothing ((m.put (m.group.record p .provideStarted)).move t (.entering p))
  | share {m : Machine σ ε π} {p : Nat} {provision : Provision ε π}
      (here : m.threads t = .entering p)
      (full : (m.group.provider p).provided = some provision) :
    Step t m .nothing (m.move t (.answering p provision))
  | enter {m : Machine σ ε π} {p : Nat} (here : m.threads t = .entering p)
      (empty : (m.group.provider p).provided = none) (unheld : m.holder (.cell p) = none) :
    Step t m (.entered p) ((m.take (.cell p) t).move t (.inside p .locking))
  -- Inside the cell: the commission section.
  | lock {m : Machine σ ε π} {p : Nat} (here : m.threads t = .inside p .locking)
      (unheld : m.holder (.lifecycle p) = none) :
    Step t m .nothing ((m.take (.lifecycle p) t).move t (.inside p .rechecking))
  | abandon {m : Machine σ ε π} {p : Nat} (here : m.threads t = .inside p .rechecking)
      (set : (m.group.provider p).finished = true) :
    Step t m (.abandoned p (m.group.provisionOf (.error .alreadyFinished) p).1)
      (((m.put (m.group.provisionOf (.error .alreadyFinished) p).2).free (.lifecycle p)).move t
        (.inside p (.leaving (m.group.provisionOf (.error .alreadyFinished) p).1)))
  | begin {m : Machine σ ε π} {p : Nat} (here : m.threads t = .inside p .rechecking)
      (clear : (m.group.provider p).finished = false) :
    Step t m .nothing
      ((m.put (m.group.record p .commissionStarted)).move t (.inside p .commissioning))
  | commission {m : Machine σ ε π} {p : Nat} (here : m.threads t = .inside p .commissioning) :
    Step t m (.commissioned p (m.group.run p Lifecycle.commission).1
        ((m.group.provider p).lifecycle.commissionCalls m.group.world))
      (((m.put (m.group.run p Lifecycle.commission).2).free (.lifecycle p)).move t
        (.inside p (.commissioned (m.group.run p Lifecycle.commission).1)))
  -- Inside the cell: what follows the commission section.
  | fail {m : Machine σ ε π} {p : Nat} {cause : LifecycleError ε}
      (here : m.threads t = .inside p (.commissioned (.error cause))) :
    Step t m .nothing
      ((m.put ((m.group.record p (.commissionFailed cause)).provisionOf (.error cause) p).2).move t
        (.inside p (.leaving
          ((m.group.record p (.commissionFailed cause)).provisionOf (.error cause) p).1)))
  | succeed {m : Machine σ ε π} {p : Nat} {product : Option π}
      (here : m.threads t = .inside p (.commissioned (.ok product)))
      (scope : (m.group.provider p).scope = .owned) :
    Step t m .nothing
      ((m.put ((m.group.record p .commissionSucceeded).provisionOf (.ok product) p).2).move t
        (.inside p (.leaving
          ((m.group.record p .commissionSucceeded).provisionOf (.ok product) p).1)))
  | succeedGlobal {m : Machine σ ε π} {p : Nat} {product : Option π} {host : HookHost}
      (here : m.threads t = .inside p (.commissioned (.ok product)))
      (scope : (m.group.provider p).scope = .global host) :
    Step t m .nothing
      ((m.put (m.group.record p .commissionSucceeded)).move t (.inside p (.claiming host product)))
  | claim {m : Machine σ ε π} {p : Nat} {host : HookHost} {product : Option π}
      (here : m.threads t = .inside p (.claiming host product))
      (unheld : m.holder (.slot p) = none) :
    Step t m .nothing ((m.take (.slot p) t).move t (.inside p (.keeping host product)))
  | keepNone {m : Machine σ ε π} {p : Nat} {host : HookHost} {product : Option π}
      (here : m.threads t = .inside p (.keeping host product))
      (needless : ((m.group.provider p).hook.isSome || (m.group.provider p).finished) = true) :
    Step t m .nothing
      (((m.put (m.group.provisionOf (.ok product) p).2).free (.slot p)).move t
        (.inside p (.leaving (m.group.provisionOf (.ok product) p).1)))
  | keep {m : Machine σ ε π} {p : Nat} {host : HookHost} {product : Option π}
      (here : m.threads t = .inside p (.keeping host product))
      (needed : ((m.group.provider p).hook.isSome || (m.group.provider p).finished) = false) :
    Step t m .nothing (m.move t (.inside p (.registering host product)))
  | register {m : Machine σ ε π} {p : Nat} {host : HookHost} {product : Option π} {id : HookId}
      (here : m.threads t = .inside p (.registering host product))
      (accepted : (m.group.registerHook host p).1 = .ok id) :
    Step t m (.registered p id)
      ((m.put (m.group.registerHook host p).2).move t (.inside p (.noting product id)))
  | note {m : Machine σ ε π} {p : Nat} {product : Option π} {id : HookId}
      (here : m.threads t = .inside p (.noting product id)) :
    Step t m .nothing
      (((m.put ((m.group.update p fun q => { q with hook := some id }).provisionOf
          (.ok product) p).2).free (.slot p)).move t
        (.inside p (.leaving ((m.group.update p fun q => { q with hook := some id }).provisionOf
          (.ok product) p).1)))
  | refuse {m : Machine σ ε π} {p : Nat} {host : HookHost} {product : Option π} {reason : String}
      (here : m.threads t = .inside p (.registering host product))
      (refused : (m.group.registerHook host p).1 = .error reason) :
    Step t m .nothing
      (((m.put (m.group.registerHook host p).2).free (.slot p)).move t
        (.teardown p (.refusal (.exitHook reason)) .flagging))
  | leave {m : Machine σ ε π} {p : Nat} {provision : Provision ε π}
      (here : m.threads t = .inside p (.leaving provision)) :
    Step t m (.filled p provision)
      (((m.put (m.group.update p fun q => { q with provided := some provision })).free
        (.cell p)).move t (.answering p provision))
  | answer {m : Machine σ ε π} {p : Nat} {provision : Provision ε π}
      (here : m.threads t = .answering p provision) :
    Step t m (.provided p provision)
      ((m.put (m.group.record p .provideCompleted)).move t .idle)
  -- Tearing down.
  | flag {m : Machine σ ε π} {p : Nat} {asker : Asker ε}
      (here : m.threads t = .teardown p asker .flagging)
      (clear : (m.group.provider p).finished = false) :
    Step t m (.flagged p)
      ((m.put ((m.group.update p fun q => { q with finished := true }).record p
        .finishStarted)).move t (.teardown p asker .locking))
  | flagged {m : Machine σ ε π} {p : Nat} {asker : Asker ε}
      (here : m.threads t = .teardown p asker .flagging)
      (set : (m.group.provider p).finished = true) :
    Step t m .nothing (m.move t (.teardown p asker (.ended (.ok ()))))
  | lockDown {m : Machine σ ε π} {p : Nat} {asker : Asker ε}
      (here : m.threads t = .teardown p asker .locking)
      (unheld : m.holder (.lifecycle p) = none) :
    Step t m .nothing ((m.take (.lifecycle p) t).move t (.teardown p asker .sweeping))
  | sweep {m : Machine σ ε π} {p : Nat} {asker : Asker ε}
      (here : m.threads t = .teardown p asker .sweeping) :
    Step t m (.decommissioned p (m.group.run p Lifecycle.decommission).1
        ((m.group.provider p).lifecycle.decommissionCalls m.group.world))
      (((m.put (m.group.run p Lifecycle.decommission).2).free (.lifecycle p)).move t
        (.teardown p asker (.telling (m.group.run p Lifecycle.decommission).1)))
  | tell {m : Machine σ ε π} {p : Nat} {asker : Asker ε}
      {outcome : Except (LifecycleError ε) Unit}
      (here : m.threads t = .teardown p asker (.telling outcome)) :
    Step t m .nothing
      ((m.put (m.group.record p (.finishCompleted (failureOf outcome)))).move t
        (.teardown p asker (.ended outcome)))
  -- What follows a teardown.
  | finish {m : Machine σ ε π} {p : Nat} {outcome : Except (LifecycleError ε) Unit}
      (here : m.threads t = .teardown p .finish (.ended outcome)) :
    Step t m (.finished p outcome) (m.move t .idle)
  | finishNow {m : Machine σ ε π} {p : Nat} {outcome : Except (LifecycleError ε) Unit}
      (here : m.threads t = .teardown p .finishNow (.ended outcome)) :
    Step t m (.finished p outcome) ((m.free (.slot p)).move t .idle)
  | hookSucceeded {m : Machine σ ε π} {p ran : Nat} {left : List Nat}
      (here : m.threads t = .teardown p (.exitHook ran left) (.ended (.ok ()))) :
    Step t m .nothing (m.move t (.firing ran left))
  | hookFailed {m : Machine σ ε π} {p ran : Nat} {left : List Nat} {cause : LifecycleError ε}
      (here : m.threads t = .teardown p (.exitHook ran left) (.ended (.error cause))) :
    Step t m .nothing
      ((m.put (m.group.record p (.exitTeardownFailed cause))).move t (.firing ran left))
  | refusedDown {m : Machine σ ε π} {p : Nat} {cause : LifecycleError ε}
      {outcome : Except (LifecycleError ε) Unit}
      (here : m.threads t = .teardown p (.refusal cause) (.ended outcome)) :
    Step t m .nothing
      ((m.put (m.group.provisionOf (.error cause) p).2).move t
        (.inside p (.leaving (m.group.provisionOf (.error cause) p).1)))
  -- Finishing.
  | defer {m : Machine σ ε π} {p : Nat} (here : m.threads t = .deferring p) :
    Step t m (.finished p (.ok ())) ((m.put (m.group.record p .finishDeferred)).move t .idle)
  | seize {m : Machine σ ε π} {p : Nat} (here : m.threads t = .seizing p)
      (unheld : m.holder (.slot p) = none) :
    Step t m .nothing ((m.take (.slot p) t).move t (.withdrawing p))
  | withdraw {m : Machine σ ε π} {p : Nat} (here : m.threads t = .withdrawing p) :
    Step t m .nothing
      ((m.put (m.group.update p fun q => { q with hook := none })).move t
        (.dropping p (m.group.provider p).hook))
  | drop {m : Machine σ ε π} {p : Nat} {taken : Option HookId}
      (here : m.threads t = .dropping p taken) :
    Step t m (.withdrawn p)
      ((m.put (m.group.dropHook p taken)).move t (.teardown p .finishNow .flagging))
  -- Firing.
  | drain {m : Machine σ ε π} {host : HookHost} (here : m.threads t = .draining host) :
    Step t m (.drained host)
      ((m.put (m.group.drainHooks host).2).move t
        (.firing (m.group.drainHooks host).1.length (m.group.drainHooks host).1))
  | hook {m : Machine σ ε π} {p ran : Nat} {left : List Nat}
      (here : m.threads t = .firing ran (p :: left)) :
    Step t m .nothing (m.move t (.teardown p (.exitHook ran left) .flagging))
  | fired {m : Machine σ ε π} {ran : Nat} (here : m.threads t = .firing ran []) :
    Step t m (.fired ran) (m.move t .idle)

/-- A schedule: any threads, one step after the other, with what the steps showed. -/
inductive Run (first : Machine σ ε π) : List (Seen ε π) → Machine σ ε π → Prop where
  | refl : Run first [] first
  | step {m next : Machine σ ε π} {trace : List (Seen ε π)} {seen : Seen ε π} {t : Nat}
      (before : Run first trace m) (step : Step t m seen next) : Run first (trace ++ [seen]) next

theorem Run.trans {first middle last : Machine σ ε π} {trace later : List (Seen ε π)}
    (before : Run first trace middle) (after : Run middle later last) :
    Run first (trace ++ later) last := by
  induction after with
  | refl => simpa using before
  | step _ step ih =>
    rw [← List.append_assoc]
    exact .step ih step

/-- A run to an event in the middle of its trace, the step that shows it, and the rest. -/
theorem Run.split {first last : Machine σ ε π} {before after : List (Seen ε π)} {seen : Seen ε π}
    (run : Run first (before ++ seen :: after) last) :
    ∃ t middle next, Run first before middle ∧ Step t middle seen next ∧ Run next after last := by
  induction after using List.reverseRecOn generalizing last with
  | nil =>
    generalize whole : before ++ [seen] = trace at run
    cases run with
    | refl => simp at whole
    | step earlier step =>
      obtain ⟨rfl, same⟩ := List.append_inj' whole rfl
      obtain rfl : seen = _ := by simpa using same
      exact ⟨_, _, _, earlier, step, .refl⟩
  | append_singleton after latest ih =>
    generalize whole : before ++ seen :: (after ++ [latest]) = trace at run
    rw [← List.cons_append, ← List.append_assoc] at whole
    cases run with
    | refl => simp at whole
    | step earlier step =>
      obtain ⟨rfl, same⟩ := List.append_inj' whole rfl
      obtain rfl : latest = _ := by simpa using same
      obtain ⟨t, middle, next, start, shown, rest⟩ := ih earlier
      exact ⟨t, middle, next, start, shown, rest.step step⟩

/-- A step leaves every other thread where it stands. -/
theorem Step.threads_of_ne {t u : Nat} {m next : Machine σ ε π} {seen : Seen ε π}
    (step : Step t m seen next) (other : u ≠ t) : next.threads u = m.threads u := by
  cases step <;> simp [Function.update_of_ne other]

/-- What holds of the others before a step and of the mover after it holds everywhere after it. -/
theorem Step.forall_threads {t : Nat} {m next : Machine σ ε π} {seen : Seen ε π}
    (step : Step t m seen next) (property : Point ε π → Prop) (mover : property (next.threads t))
    (others : ∀ u, u ≠ t → property (m.threads u)) (u : Nat) : property (next.threads u) := by
  by_cases here : u = t
  · rwa [here]
  · rw [step.threads_of_ne here]
    exact others u here

end ContainerFixture
