import ContainerFixture.ExitHook
import ContainerFixture.Provider.Event

/-!
# Providers

A provider runs a lifecycle's commission at most once, hands the same provision to every caller, and
runs its decommission at most once: when its owner asks, or from an exit hook.
-/

namespace ContainerFixture

/-- Where exit hooks are registered. -/
inductive HookHost where
  /-- Hooks that run when they are told to. -/
  | manual
  /-- Hooks that run at the end of the process. -/
  | process
  /-- A host that takes no hook. -/
  | refusing (reason : String)
deriving DecidableEq, Repr

inductive Scope where
  /-- When its owner finishes it. -/
  | owned
  /-- At exit: the first successful commission registers a hook, and finishing is only noted. -/
  | global (host : HookHost)
deriving DecidableEq, Repr

namespace Scope

def isGlobal : Scope → Bool
  | owned => false
  | global _ => true

def text : Scope → String
  | owned => "Local"
  | global _ => "Global"

end Scope

/-- The outcome of a commission. Provisions with one serial are one and the same outcome. -/
structure Provision (ε π : Type) where
  serial : Nat
  outcome : Except (LifecycleError ε) (Option π)

namespace Provision

variable {ε π : Type}

/-- The product, or the failure of the only commission there was. -/
def get (p : Provision ε π) : Except (LifecycleError ε) (Option π) :=
  p.outcome.mapError .firstProvision

/-- Whether two provisions of one provider hold the same value or the same failure. -/
def sharesOutcomeWith (p q : Provision ε π) : Bool := p.serial = q.serial

end Provision

/-- What an observer does from inside an event, besides taking note of it. -/
inductive Reaction where
  | finish
  | finishNow
  | fire
deriving DecidableEq, Repr

/-- A lifecycle with its scope, what has been provided, and what was told to the observer. -/
structure Provider (σ ε π : Type) where
  lifecycle : Lifecycle σ ε π
  scope : Scope
  /-- What the observer does the first time that it is told of a kind of event. -/
  reactions : List (EventKind × Reaction) := []
  finished : Bool := false
  provided : Option (Provision ε π) := none
  /-- The exit hook registered last and not taken back. -/
  hook : Option HookId := none
  /-- How many provisions have been made. -/
  made : Nat := 0
  /-- The events so far, newest first. -/
  told : List (Event ε) := []

namespace Provider

variable {σ ε π : Type}

/-- The events so far, oldest first. -/
def events (p : Provider σ ε π) : List (Event ε) := p.told.reverse

def text (p : Provider σ ε π) : String :=
  s!"CachingProvider \x7b scope: {p.scope.text}, provided: {p.provided.isSome}, "
    ++ s!"finished: {p.finished}, .. \x7d"

/-- Whether the provider says that an exit hook is registered for it. -/
def hasExitHook (p : Provider σ ε π) : Bool := p.hook.isSome

/-- An outcome that no other provision shares. -/
def fresh (outcome : Except (LifecycleError ε) (Option π)) (p : Provider σ ε π) :
    Provision ε π × Provider σ ε π :=
  (⟨p.made, outcome⟩, { p with made := p.made + 1 })

end Provider

end ContainerFixture
