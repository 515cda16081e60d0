import ContainerFixture.ExitHook

/-!
# Rehearsed exit hooks

Hooks that enter their name in a journal, register further hooks, deregister others and may then
panic. A panic stops the hook that raised it and no other.
-/

namespace ContainerFixture

/-- A hook told what to do when it runs. -/
structure ScriptedHook where
  name : String
  /-- The hooks that it registers. -/
  registers : List ScriptedHook
  /-- The hooks that it deregisters, each by its place among all that were given a number. -/
  deregisters : List Nat
  panics : Bool

/-- A registry of scripted hooks, the numbers given out so far, and the journal. -/
structure HookRehearsal where
  registry : HookRegistry ScriptedHook := {}
  /-- The numbers given out, oldest first. -/
  issued : List HookId := []
  /-- The journal, newest entry first. -/
  journal : List String := []

namespace HookRehearsal

/-- The journal in the order in which it was written. -/
def entries (r : HookRehearsal) : List String := r.journal.reverse

def register (hook : ScriptedHook) (r : HookRehearsal) : HookId × HookRehearsal :=
  let (id, registry) := r.registry.register hook
  (id, { r with registry, issued := r.issued ++ [id] })

/-- Deregisters the hook that was given the number at a place, if there is one. -/
def deregister? (place : Nat) (r : HookRehearsal) : Option (Bool × HookRehearsal) :=
  r.issued[place]?.map fun id =>
    let (was, registry) := r.registry.deregister id
    (was, { r with registry })

/-- Runs one hook. Its panic, if any, comes last and has nothing left to stop. -/
def run (r : HookRehearsal) (hook : ScriptedHook) : HookRehearsal :=
  let r := { r with journal := hook.name :: r.journal }
  let r := hook.registers.foldl (fun r hook => (r.register hook).2) r
  hook.deregisters.foldl (fun r place =>
    match r.deregister? place with
    | none => r
    | some (was, r) => { r with journal := s!"deregister {place}: {was}" :: r.journal }) r

/-- Runs the hooks pending at the start, newest first, and answers how many there were. -/
def fire (r : HookRehearsal) : Nat × HookRehearsal :=
  let (hooks, registry) := r.registry.drain
  (hooks.length, hooks.foldl run { r with registry })

end HookRehearsal

end ContainerFixture
