import ContainerFixture.Provider

/-!
# Providers that share exit hooks

Providers over one world, with the registries of exit hooks that they share. Each operation comes in
two forms. The one that ends in `With` is given what happens when an event is emitted. The plain one
lets every observer take note of its events and then act, each reaction once; since a reaction is
used up before it is performed, the number of reactions left bounds how deep they nest.
-/

namespace ContainerFixture

/-- Providers over one world and the registries that they share. A hook is the place of the provider
that it tears down. -/
structure ProviderGroup (σ ε π : Type) where
  world : σ
  providers : List (Provider σ ε π)
  manual : HookRegistry Nat := {}
  process : HookRegistry Nat := {}

namespace ProviderGroup

variable {σ ε π : Type}

/-- A provider that has nothing to provide, for places where there is none. -/
private def vacant : Provider σ ε π := { lifecycle := { stages := [] }, scope := .owned }

def provider (g : ProviderGroup σ ε π) (p : Nat) : Provider σ ε π := g.providers.getD p vacant

def update (g : ProviderGroup σ ε π) (p : Nat) (f : Provider σ ε π → Provider σ ε π) :
    ProviderGroup σ ε π :=
  { g with providers := g.providers.modify p f }

def run {α : Type} (g : ProviderGroup σ ε π) (p : Nat)
    (step : Lifecycle σ ε π → σ → α × Lifecycle σ ε π × σ) : α × ProviderGroup σ ε π :=
  let (a, lifecycle, world) := step (g.provider p).lifecycle g.world
  (a, { (g.update p fun q => { q with lifecycle }) with world })

/-- Makes a provision that no other shares. -/
def provisionOf (outcome : Except (LifecycleError ε) (Option π)) (p : Nat)
    (g : ProviderGroup σ ε π) : Provision ε π × ProviderGroup σ ε π :=
  let (provision, q) := (g.provider p).fresh outcome
  (provision, g.update p fun _ => q)

/-- Registers the teardown of the provider at `p`, unless the host takes no hook. -/
def registerHook (host : HookHost) (p : Nat) (g : ProviderGroup σ ε π) :
    Except String HookId × ProviderGroup σ ε π :=
  match host with
  | .manual => let (id, manual) := g.manual.register p; (.ok id, { g with manual })
  | .process => let (id, process) := g.process.register p; (.ok id, { g with process })
  | .refusing reason => (.error reason, g)

/-- Drops a pending hook, if the host has it. -/
def deregisterHook (host : HookHost) (id : HookId) (g : ProviderGroup σ ε π) :
    ProviderGroup σ ε π :=
  match host with
  | .manual => { g with manual := (g.manual.deregister id).2 }
  | .process => { g with process := (g.process.deregister id).2 }
  | .refusing _ => g

/-- Takes all pending hooks of a host out, newest first. -/
def drainHooks (host : HookHost) (g : ProviderGroup σ ε π) : List Nat × ProviderGroup σ ε π :=
  match host with
  | .manual => let (hooks, manual) := g.manual.drain; (hooks, { g with manual })
  | .process => let (hooks, process) := g.process.drain; (hooks, { g with process })
  | .refusing _ => ([], g)

/-- Tells the observer of the provider at `p`, who takes note. -/
def record (p : Nat) (event : Event ε) (g : ProviderGroup σ ε π) : ProviderGroup σ ε π :=
  g.update p fun q => { q with told := event :: q.told }

/-! ### Operations, given what an event does -/

section
variable (emit : Nat → Event ε → ProviderGroup σ ε π → ProviderGroup σ ε π)

/-- Tears the provider down, unless that was done before. -/
def teardownWith (p : Nat) (g : ProviderGroup σ ε π) :
    Except (LifecycleError ε) Unit × ProviderGroup σ ε π :=
  if (g.provider p).finished then (.ok (), g)
  else
    let g := emit p .finishStarted (g.update p fun q => { q with finished := true })
    let (outcome, g) := g.run p Lifecycle.decommission
    let failure := match outcome with
      | .ok () => none
      | .error cause => some cause
    (outcome, emit p (.finishCompleted failure) g)

/-- What an exit hook does: it tears its provider down and tells the observer of a failure. -/
def teardownAtExitWith (p : Nat) (g : ProviderGroup σ ε π) : ProviderGroup σ ε π :=
  match teardownWith emit p g with
  | (.ok (), g) => g
  | (.error cause, g) => emit p (.exitTeardownFailed cause) g

/-- Runs the hooks of a host that are pending at the start, newest first, and answers how many. -/
def fireWith (host : HookHost) (g : ProviderGroup σ ε π) : Nat × ProviderGroup σ ε π :=
  let (hooks, g) := g.drainHooks host
  (hooks.length, hooks.foldl (fun g p => teardownAtExitWith emit p g) g)

/-- Ends the use of the provider. Only an owned provider is torn down by it. -/
def finishWith (p : Nat) (g : ProviderGroup σ ε π) :
    Except (LifecycleError ε) Unit × ProviderGroup σ ε π :=
  match (g.provider p).scope with
  | .owned => teardownWith emit p g
  | .global _ => (.ok (), emit p .finishDeferred g)

/-- Takes the exit hook back and tears the provider down, whatever its scope. -/
def finishNowWith (p : Nat) (g : ProviderGroup σ ε π) :
    Except (LifecycleError ε) Unit × ProviderGroup σ ε π :=
  let q := g.provider p
  let g := g.update p fun q => { q with hook := none }
  let g := match q.hook, q.scope with
    | some id, .global host => g.deregisterHook host id
    | _, _ => g
  teardownWith emit p g

/-- Registers the exit hook of a provider that was just commissioned, unless it has one or was
finished meanwhile. -/
def keepForExit (host : HookHost) (p : Nat) (g : ProviderGroup σ ε π) :
    Except (LifecycleError ε) Unit × ProviderGroup σ ε π :=
  if (g.provider p).hook.isSome || (g.provider p).finished then (.ok (), g)
  else
    match g.registerHook host p with
    | (.ok id, g) => (.ok (), g.update p fun q => { q with hook := some id })
    | (.error reason, g) => (.error (.exitHook reason), g)

/-- Commissions the lifecycle. A global provider whose hook is refused is torn down on the spot. -/
def commissionWith (p : Nat) (g : ProviderGroup σ ε π) : Provision ε π × ProviderGroup σ ε π :=
  if (g.provider p).finished then g.provisionOf (.error .alreadyFinished) p
  else
    match (emit p .commissionStarted g).run p Lifecycle.commission with
    | (.error cause, g) =>
      (emit p (.commissionFailed cause) g).provisionOf (.error cause) p
    | (.ok product, g) =>
      let g := emit p .commissionSucceeded g
      match (g.provider p).scope with
      | .owned => g.provisionOf (.ok product) p
      | .global host =>
        match g.keepForExit host p with
        | (.ok (), g) => g.provisionOf (.ok product) p
        | (.error cause, g) => (teardownWith emit p g).2.provisionOf (.error cause) p

/-- Provides: the first call commissions, and later ones share its outcome. A finished provider has
nothing more to provide. -/
def provideWith (p : Nat) (g : ProviderGroup σ ε π) : Provision ε π × ProviderGroup σ ε π :=
  if (g.provider p).finished then g.provisionOf (.error .alreadyFinished) p
  else
    let g := emit p .provideStarted g
    let (provision, g) := match (g.provider p).provided with
      | some provision => (provision, g)
      | none =>
        let (provision, g) := commissionWith emit p g
        (provision, g.update p fun q => { q with provided := some provision })
    (provision, emit p .provideCompleted g)

/-- Performs what an observer of the provider at `p` chose to do. Nobody waits here: `finishNow` for
an event of a `finishNow` of the same provider goes on and finds the provider finished, where it
would block for ever with a lock that the outer one holds on the slot of the exit hook. -/
def performWith (reaction : Reaction) (p : Nat) (g : ProviderGroup σ ε π) : ProviderGroup σ ε π :=
  match reaction with
  | .finish => (finishWith emit p g).2
  | .finishNow => (finishNowWith emit p g).2
  | .fire => (fireWith emit .manual g).2

end

/-! ### Operations -/

/-- Emits an event: the observer takes note and then performs its reaction to that kind of event, if
one is left, which may go `depth` deep. -/
def emitWithin : Nat → Nat → Event ε → ProviderGroup σ ε π → ProviderGroup σ ε π
  | 0, p, event, g => g.record p event
  | depth + 1, p, event, g =>
    let g := g.record p event
    match (g.provider p).reactions.lookup event.kind with
    | none => g
    | some reaction =>
      let g := g.update p fun q =>
        { q with reactions := q.reactions.filter fun entry => entry.1 ≠ event.kind }
      performWith (emitWithin depth) reaction p g

/-- How many reactions the observers have left. -/
def reactionsLeft (g : ProviderGroup σ ε π) : Nat :=
  g.providers.foldl (fun left q => left + q.reactions.length) 0

/-- Emits an event with as deep a nesting of reactions as can occur. -/
def emitFrom (g : ProviderGroup σ ε π) :
    Nat → Event ε → ProviderGroup σ ε π → ProviderGroup σ ε π :=
  emitWithin g.reactionsLeft

def provide (p : Nat) (g : ProviderGroup σ ε π) : Provision ε π × ProviderGroup σ ε π :=
  provideWith g.emitFrom p g

def finish (p : Nat) (g : ProviderGroup σ ε π) :
    Except (LifecycleError ε) Unit × ProviderGroup σ ε π :=
  finishWith g.emitFrom p g

def finishNow (p : Nat) (g : ProviderGroup σ ε π) :
    Except (LifecycleError ε) Unit × ProviderGroup σ ε π :=
  finishNowWith g.emitFrom p g

def fire (host : HookHost) (g : ProviderGroup σ ε π) : Nat × ProviderGroup σ ε π :=
  fireWith g.emitFrom host g

end ProviderGroup

end ContainerFixture
