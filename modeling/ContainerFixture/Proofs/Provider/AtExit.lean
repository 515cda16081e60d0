import ContainerFixture.Proofs.Provider.Sequential

/-!
# A provider that is torn down at the end of the process

The only provider of a group leaves its teardown to the exit hooks of the process. Once it has
provided, it is torn down by whoever comes first: its owner, who takes the hook back, or the hook.
After that the process has nothing left to do.
-/

namespace ContainerFixture.ProviderGroup

variable {σ ε π : Type}

/-- The only provider has provided, its lifecycle is this one, and its exit hook is pending. -/
structure DueAtExit (l : Lifecycle σ ε π) (g : ProviderGroup σ ε π) : Prop where
  alone : g.providers.length = 1
  quiet : (g.provider 0).reactions = []
  settled : (g.provider 0).scope = .global .process
  running : (g.provider 0).finished = false
  lifecycle : (g.provider 0).lifecycle = l
  hook : ∃ id, (g.provider 0).hook = some id ∧ g.process.pending = [(id, 0)]

/-- The only provider is not finished, and its lifecycle is this one. -/
structure Holds (l : Lifecycle σ ε π) (g : ProviderGroup σ ε π) : Prop where
  alone : g.providers.length = 1
  quiet : (g.provider 0).reactions = []
  running : (g.provider 0).finished = false
  lifecycle : (g.provider 0).lifecycle = l

section
variable {stages : List (Stage σ ε π)} {world after : σ} {l : Lifecycle σ ε π}

/-- Nothing is left to the process when the commissioning failed. -/
theorem provide_unwound {scope : Scope} {cause : LifecycleError ε}
    (refused : Lifecycle.commission { stages } world = (.error cause, l, after)) :
    ∃ g, (ofChains world [(stages, scope)]).provide 0 = (⟨0, .error cause⟩, g) ∧
      g.process.pending = [] ∧ g.world = after := by
  have quiet := unreactive_of_alone (g := ofChains world [(stages, scope)]) rfl rfl
  rw [provide, quiet.emitFrom, provideWith_refused (by simp) rfl rfl refused]
  exact ⟨_, rfl, rfl, rfl⟩

theorem provide_due {product : Option π}
    (accepted : Lifecycle.commission { stages } world = (.ok product, l, after)) :
    ∃ g, (ofChains world [(stages, .global .process)]).provide 0 = (⟨0, .ok product⟩, g) ∧
      DueAtExit l g ∧ g.world = after := by
  have quiet := unreactive_of_alone (g := ofChains world [(stages, .global .process)]) rfl rfl
  rw [provide, quiet.emitFrom, provideWith_accepted (by simp) rfl rfl rfl rfl accepted rfl]
  exact ⟨_, rfl, ⟨rfl, rfl, rfl, rfl, rfl, _, rfl, rfl⟩, rfl⟩

/-- Whichever host has taken the exit hook, the provider holds what was commissioned. -/
theorem provide_held {host : HookHost} {product : Option π}
    (taken : ∀ reason, host ≠ .refusing reason)
    (accepted : Lifecycle.commission { stages } world = (.ok product, l, after)) :
    ∃ g, (ofChains world [(stages, .global host)]).provide 0 = (⟨0, .ok product⟩, g) ∧
      Holds l g ∧ g.world = after := by
  have quiet := unreactive_of_alone (g := ofChains world [(stages, .global host)]) rfl rfl
  rw [provide, quiet.emitFrom]
  cases host with
  | refusing reason => exact absurd rfl (taken reason)
  | manual | process =>
    rw [provideWith_accepted (by simp) rfl rfl rfl rfl accepted rfl]
    exact ⟨_, rfl, ⟨rfl, rfl, rfl, rfl⟩, rfl⟩

end

/-- Finishing now decommissions what the provider holds. -/
theorem Holds.finishNow {l : Lifecycle σ ε π} {g : ProviderGroup σ ε π} (holds : Holds l g) :
    (g.finishNow 0).1 = (l.decommission g.world).1 := by
  have inside : 0 < g.providers.length := by
    rw [holds.alone]
    exact Nat.zero_lt_one
  have there := provider_unhooked inside
  rw [ProviderGroup.finishNow, (unreactive_of_alone holds.alone holds.quiet).emitFrom,
    finishNowWith_unhooked, teardownWith_record (by rw [length_unhooked]; exact inside)
      (by rw [there]; exact holds.running), there, world_unhooked, holds.lifecycle]

/-- With no hook pending the end of the process changes nothing. -/
theorem world_fire_spent {g : ProviderGroup σ ε π} (spent : g.process.pending = []) :
    (g.fire .process).2.world = g.world := by
  simp [fire, fireWith, drainHooks, HookRegistry.drain, spent]

namespace DueAtExit

variable {l : Lifecycle σ ε π} {g : ProviderGroup σ ε π}

theorem inside (due : DueAtExit l g) : 0 < g.providers.length := by
  rw [due.alone]
  exact Nat.zero_lt_one

theorem unreactive (due : DueAtExit l g) : g.Unreactive := unreactive_of_alone due.alone due.quiet

/-- It does not depend on the world. -/
theorem elsewhere (due : DueAtExit l g) (world : σ) : DueAtExit l { g with world } :=
  ⟨due.alone, due.quiet, due.settled, due.running, due.lifecycle, due.hook⟩

/-- The owner takes the hook back before the teardown. -/
theorem finishNow (due : DueAtExit l g) :
    ∃ g', g.finishNow 0 = ((l.decommission g.world).1, g') ∧ g'.process.pending = [] ∧
      g'.world = (l.decommission g.world).2.2 := by
  obtain ⟨id, held, pending⟩ := due.hook
  have there := provider_unhooked due.inside
  have inside : 0 < (g.unhooked 0).providers.length := by
    rw [length_unhooked]
    exact due.inside
  have spent : ((g.unhooked 0).registry .process).pending = [] := by
    have scope : ((g.update 0 fun q => { q with hook := none }).provider 0).scope =
        .global .process := by
      simp [due.settled]
    rw [unhooked, held, registry_dropHook, scope]
    simp [registry, HookRegistry.deregister, pending, update]
  rw [ProviderGroup.finishNow, due.unreactive.emitFrom, finishNowWith_unhooked,
    teardownWith_record inside (by rw [there]; exact due.running), there, due.lifecycle,
    world_unhooked]
  exact ⟨_, rfl, spent, rfl⟩

/-- Without the owner the hook does it. -/
theorem fire (due : DueAtExit l g) :
    (g.fire .process).2.world = (l.decommission g.world).2.2 := by
  obtain ⟨id, -, pending⟩ := due.hook
  have hooks : (g.drainHooks .process).1 = [0] := by rw [drainHooks_fst, registry, pending]; rfl
  have there : (g.drainHooks .process).2.provider 0 = g.provider 0 := provider_drainHooks ..
  have inside : 0 < (g.drainHooks .process).2.providers.length := by
    rw [length_drainHooks]
    exact due.inside
  rw [ProviderGroup.fire, due.unreactive.emitFrom, fireWith]
  dsimp only
  rw [hooks, List.foldl_cons, List.foldl_nil,
    teardownAtExitWith_record inside (by rw [there]; exact due.running), there, due.lifecycle,
    world_drainHooks]
  rfl

end DueAtExit

end ContainerFixture.ProviderGroup
