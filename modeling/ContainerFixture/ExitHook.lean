/-!
# Exit hooks

A registry of what is still to be done before the process ends. Numbers are given out once, from 1.
Firing takes every pending hook out of the registry before the first of them runs; they run newest
first, and what they register waits for the next firing.
-/

namespace ContainerFixture

structure HookId where
  number : Nat
deriving DecidableEq, Repr

/-- Pending hooks and the next number to give out. -/
structure HookRegistry (α : Type) where
  nextNumber : Nat := 1
  /-- The pending hooks, newest first. -/
  pending : List (HookId × α) := []

namespace HookRegistry

variable {α : Type}

/-- Adds a hook and answers its number. -/
def register (hook : α) (r : HookRegistry α) : HookId × HookRegistry α :=
  (⟨r.nextNumber⟩,
    { nextNumber := r.nextNumber + 1, pending := (⟨r.nextNumber⟩, hook) :: r.pending })

/-- Drops a pending hook and answers whether it was pending. -/
def deregister (id : HookId) (r : HookRegistry α) : Bool × HookRegistry α :=
  (r.pending.any fun entry => entry.1 = id,
    { r with pending := r.pending.filter fun entry => entry.1 ≠ id })

/-- Takes every pending hook out, newest first. -/
def drain (r : HookRegistry α) : List α × HookRegistry α :=
  (r.pending.map Prod.snd, { r with pending := [] })

end HookRegistry

end ContainerFixture
