import ContainerFixture.Proofs.Provider.Solo
import ContainerFixture.Proofs.Lifecycle.Invariants
import Mathlib.Data.List.Basic

/-!
# Calls one after the other

What each call leaves of a group when the observers only take note and nobody else moves: at most
one provider is changed, the world is what the lifecycle of that provider makes of it, and the
registry of manual exit hooks gains or loses at most the hook of that provider.
-/

namespace ContainerFixture

variable {σ ε π : Type}

namespace Provider

/-- The provider once its observer was told of an event. -/
def hearing (event : Event ε) (q : Provider σ ε π) : Provider σ ε π :=
  { q with told := event :: q.told }

/-- The provider once it was torn down. -/
def tornDown (outcome : Except (LifecycleError ε) Unit) (q : Provider σ ε π) : Provider σ ε π :=
  { q with
    finished := true
    lifecycle := { q.lifecycle with committed := [] }
    told := .finishCompleted (failureOf outcome) :: .finishStarted :: q.told }

/-- The provider once its exit hook has run. -/
def tornDownAtExit (outcome : Except (LifecycleError ε) Unit) (q : Provider σ ε π) :
    Provider σ ε π :=
  match outcome with
  | .ok () => q.tornDown outcome
  | .error cause =>
    { q.tornDown outcome with told := .exitTeardownFailed cause :: (q.tornDown outcome).told }

variable (outcome : Except (LifecycleError ε) Unit) (q : Provider σ ε π)

@[simp] theorem tornDownAtExit_finished : (q.tornDownAtExit outcome).finished = true := by
  cases outcome <;> rfl

@[simp] theorem tornDownAtExit_lifecycle :
    (q.tornDownAtExit outcome).lifecycle = { q.lifecycle with committed := [] } := by
  cases outcome <;> rfl

@[simp] theorem tornDownAtExit_provided : (q.tornDownAtExit outcome).provided = q.provided := by
  cases outcome <;> rfl

@[simp] theorem tornDownAtExit_scope : (q.tornDownAtExit outcome).scope = q.scope := by
  cases outcome <;> rfl

@[simp] theorem tornDownAtExit_reactions :
    (q.tornDownAtExit outcome).reactions = q.reactions := by
  cases outcome <;> rfl

@[simp] theorem tornDownAtExit_hook : (q.tornDownAtExit outcome).hook = q.hook := by
  cases outcome <;> rfl

end Provider

/-- The registry without the hook that was in a slot. -/
def HookRegistry.without {α : Type} (taken : Option HookId) (registry : HookRegistry α) :
    HookRegistry α :=
  match taken with
  | none => registry
  | some id => (registry.deregister id).2

namespace ProviderGroup

/-- The group with another provider at a place, and the world moved on. -/
def put (p : Nat) (q : Provider σ ε π) (world : σ) (g : ProviderGroup σ ε π) :
    ProviderGroup σ ε π :=
  { g with providers := g.providers.set p q, world }

variable {g : ProviderGroup σ ε π} {p : Nat} {q q' : Provider σ ε π} {world world' : σ}
  {registry : HookRegistry Nat}

/-- The group with another registry of manual exit hooks. -/
def withManual (registry : HookRegistry Nat) (g : ProviderGroup σ ε π) : ProviderGroup σ ε π :=
  { g with manual := registry }

@[simp] theorem put_put : (g.put p q world).put p q' world' = g.put p q' world' := by
  simp [put]

@[simp] theorem world_put : (g.put p q world).world = world := rfl

@[simp] theorem manual_put : (g.put p q world).manual = g.manual := rfl

@[simp] theorem registry_put (host : HookHost) :
    (g.put p q world).registry host = g.registry host := by
  cases host <;> rfl

theorem registerHook_put (host : HookHost) (other : Nat) :
    (g.put p q world).registerHook host other =
      ((g.registerHook host other).1, (g.registerHook host other).2.put p q world) := by
  cases host <;> rfl

@[simp] theorem length_put : (g.put p q world).providers.length = g.providers.length := by
  simp [put]

theorem provider_put (inside : p < g.providers.length) (other : Nat) :
    (g.put p q world).provider other = if other = p then q else g.provider other := by
  by_cases same : other = p
  · subst same
    simp [put, provider, inside]
  · simp [put, provider, same, Ne.symm same]

theorem provider_put_self (inside : p < g.providers.length) : (g.put p q world).provider p = q := by
  rw [provider_put inside, if_pos rfl]

theorem update_eq_put (f : Provider σ ε π → Provider σ ε π) :
    g.update p f = g.put p (f (g.provider p)) g.world := by
  -- outside of the list neither of the two changes anything
  have same : g.providers.modify p f = g.providers.set p (f (g.provider p)) := by
    apply List.ext_getElem?
    intro i
    rw [List.getElem?_modify, List.getElem?_set]
    by_cases here : p = i
    · subst here
      cases found : g.providers[p]? with
      | none => simp_all
      | some q => simp_all [provider, (List.getElem?_eq_some_iff.mp found).1]
    · simp [here]
  simp [update, put, same]

@[simp] theorem put_withManual :
    (g.withManual registry).put p q world = (g.put p q world).withManual registry := rfl

@[simp] theorem provider_withManual (other : Nat) :
    (g.withManual registry).provider other = g.provider other := rfl

@[simp] theorem world_withManual : (g.withManual registry).world = g.world := rfl

@[simp] theorem manual_withManual : (g.withManual registry).manual = registry := rfl

@[simp] theorem length_withManual :
    (g.withManual registry).providers.length = g.providers.length := rfl

/-- Without reactions of the only provider there are none. -/
theorem unreactive_of_alone (alone : g.providers.length = 1)
    (quiet : (g.provider 0).reactions = []) : g.Unreactive := by
  intro p
  cases p with
  | zero => exact quiet
  | succ p =>
    have absent : g.providers[p + 1]? = none := by
      rw [List.getElem?_eq_none_iff, alone]
      omega
    rw [provider, List.getD_eq_getElem?_getD, absent]
    rfl

theorem run_eq_put {α : Type} (step : Lifecycle σ ε π → σ → α × Lifecycle σ ε π × σ) :
    g.run p step =
      let (a, lifecycle, world) := step (g.provider p).lifecycle g.world
      (a, g.put p { g.provider p with lifecycle } world) := by
  simp only [run, update_eq_put]
  rfl

section
variable (inside : p < g.providers.length)
include inside

theorem update_put (f : Provider σ ε π → Provider σ ε π) :
    (g.put p q world).update p f = g.put p (f q) world := by
  rw [update_eq_put, provider_put_self inside, put_put, world_put]

theorem teardownWith_record (running : (g.provider p).finished = false) :
    g.teardownWith record p =
      let (outcome, _, world) := (g.provider p).lifecycle.decommission g.world
      (outcome, g.put p ((g.provider p).tornDown outcome) world) := by
  rw [teardownWith_clear record running]
  simp only [record_eq, update_eq_put, put_put, run_eq_put, provider_put_self inside,
    world_put]
  rfl

theorem teardownAtExitWith_record (running : (g.provider p).finished = false) :
    g.teardownAtExitWith record p =
      let (outcome, _, world) := (g.provider p).lifecycle.decommission g.world
      g.put p ((g.provider p).tornDownAtExit outcome) world := by
  rw [teardownAtExitWith, teardownWith_record inside running]
  rcases (g.provider p).lifecycle.decommission g.world with ⟨_ | cause, _, world⟩
  · dsimp only
    rw [record_eq, update_put inside]
    rfl
  · rfl

/-! ### Providing -/

omit inside in
theorem provideWith_finished (finished : (g.provider p).finished = true) :
    g.provideWith record p = (⟨(g.provider p).made, .error .alreadyFinished⟩,
      g.put p { g.provider p with made := (g.provider p).made + 1 } g.world) := by
  simp only [provideWith, finished, if_true, provisionOf, Provider.fresh, update_eq_put]

theorem provideWith_provided {provision : Provision ε π}
    (running : (g.provider p).finished = false)
    (provided : (g.provider p).provided = some provision) :
    g.provideWith record p = (provision, g.put p { g.provider p with
      told := .provideCompleted :: .provideStarted :: (g.provider p).told } g.world) := by
  simp only [provideWith, running, record_eq, update_eq_put, provider_put_self inside, provided,
    put_put, world_put]
  rfl

theorem provideWith_new (running : (g.provider p).finished = false)
    (new : (g.provider p).provided = none) :
    g.provideWith record p =
      let (provision, g) := commissionWith record p
        (g.put p ((g.provider p).hearing .provideStarted) g.world)
      (provision, (g.update p fun q => { q with provided := some provision }).update p
        (Provider.hearing .provideCompleted)) := by
  have told : record p .provideStarted g =
      g.put p ((g.provider p).hearing .provideStarted) g.world := update_eq_put _
  have empty : ((g.put p ((g.provider p).hearing .provideStarted) g.world).provider p).provided =
      none := by
    rw [provider_put_self inside]
    exact new
  rw [provideWith, if_neg (by simp [running]), told]
  simp only [empty]
  rfl

/-- The first call ends with the provision of its commissioning. -/
theorem provideWith_commissioned {g' : ProviderGroup σ ε π} {provision : Provision ε π}
    (running : (g.provider p).finished = false) (new : (g.provider p).provided = none)
    (known : p < g'.providers.length) (commissioned : commissionWith record p
      (g.put p ((g.provider p).hearing .provideStarted) g.world) = (provision, g'.put p q world)) :
    g.provideWith record p = (provision, g'.put p
      { q with provided := some provision, told := .provideCompleted :: q.told } world) := by
  rw [provideWith_new inside running new, commissioned]
  simp only [update_eq_put, put_put, provider_put_self known, world_put]
  rfl

theorem commissionWith_refused {cause : LifecycleError ε} {l : Lifecycle σ ε π}
    (running : (g.provider p).finished = false)
    (refused : (g.provider p).lifecycle.commission g.world = (.error cause, l, world)) :
    g.commissionWith record p = (⟨(g.provider p).made, .error cause⟩, g.put p { g.provider p with
      lifecycle := l
      made := (g.provider p).made + 1
      told := .commissionFailed cause :: .commissionStarted :: (g.provider p).told } world) := by
  simp only [commissionWith, running, record_eq, update_eq_put, run_eq_put,
    provider_put_self inside, put_put, world_put, refused, provisionOf, Provider.fresh]
  rfl

theorem commissionWith_ok {product : Option π} {l : Lifecycle σ ε π}
    (running : (g.provider p).finished = false)
    (commissioned : (g.provider p).lifecycle.commission g.world = (.ok product, l, world)) :
    g.commissionWith record p =
      let readied := g.put p { g.provider p with
        lifecycle := l
        told := .commissionSucceeded :: .commissionStarted :: (g.provider p).told } world
      match (g.provider p).scope with
      | .owned => readied.provisionOf (.ok product) p
      | .global host => readied.keptWith record host product p := by
  simp only [commissionWith, running, record_eq, update_eq_put, run_eq_put,
    provider_put_self inside, put_put, world_put, commissioned]
  cases (g.provider p).scope <;> rfl

/-- A hook that is taken is put into the slot. -/
theorem keptWith_accepted {host : HookHost} {id : HookId} (product : Option π)
    (running : (g.provider p).finished = false) (bare : (g.provider p).hook = none)
    (accepted : (g.registerHook host p).1 = .ok id) :
    g.keptWith record host product p = (⟨(g.provider p).made, .ok product⟩,
      (g.registerHook host p).2.put p { g.provider p with
        hook := some id, made := (g.provider p).made + 1 } (g.registerHook host p).2.world) := by
  have there : (g.registerHook host p).2.provider p = g.provider p := provider_registerHook ..
  have known : p < (g.registerHook host p).2.providers.length := by
    rw [length_registerHook]
    exact inside
  rw [keptWith, keepForExit, if_neg (by simp [bare, running])]
  rcases registered : g.registerHook host p with ⟨answer, registering⟩
  rw [registered] at accepted there known
  dsimp only at accepted there known
  subst accepted
  simp only [provisionOf, Provider.fresh, update_eq_put, provider_put_self known, put_put,
    world_put, there]

/-- Without a hook the provider is torn down on the spot. -/
theorem keptWith_refused (reason : String) (product : Option π)
    (running : (g.provider p).finished = false) (bare : (g.provider p).hook = none) :
    g.keptWith record (.refusing reason) product p =
      let (outcome, _, world) := (g.provider p).lifecycle.decommission g.world
      (⟨(g.provider p).made, .error (.exitHook reason)⟩, g.put p
        { (g.provider p).tornDown outcome with made := (g.provider p).made + 1 } world) := by
  have refused : g.keepForExit (.refusing reason) p = (.error (.exitHook reason), g) := by
    rw [keepForExit, if_neg (by simp [bare, running])]
    rfl
  rw [keptWith, refused]
  dsimp only
  rw [teardownWith_record inside running]
  simp only [provisionOf, Provider.fresh, update_eq_put, provider_put_self inside, put_put,
    world_put]
  rfl

theorem provideWith_refused {cause : LifecycleError ε} {l : Lifecycle σ ε π}
    (running : (g.provider p).finished = false) (new : (g.provider p).provided = none)
    (refused : (g.provider p).lifecycle.commission g.world = (.error cause, l, world)) :
    g.provideWith record p = (⟨(g.provider p).made, .error cause⟩, g.put p { g.provider p with
      lifecycle := l
      made := (g.provider p).made + 1
      provided := some ⟨(g.provider p).made, .error cause⟩
      told := .provideCompleted :: .commissionFailed cause :: .commissionStarted ::
        .provideStarted :: (g.provider p).told } world) := by
  have here : (g.put p ((g.provider p).hearing .provideStarted) g.world).provider p =
      (g.provider p).hearing .provideStarted := provider_put_self inside
  -- the commissioning starts from the group in which the observer was told of the call
  have asked := commissionWith_refused
    (g := g.put p ((g.provider p).hearing .provideStarted) g.world)
    (by rwa [length_put]) (by rw [here]; exact running) (by rw [here]; exact refused)
  rw [put_put, here] at asked
  exact provideWith_commissioned inside running new inside asked

/-- A hook that is taken is registered with the first call. -/
theorem provideWith_accepted {host : HookHost} {id : HookId} {product : Option π}
    {l : Lifecycle σ ε π} (running : (g.provider p).finished = false)
    (new : (g.provider p).provided = none) (scope : (g.provider p).scope = .global host)
    (bare : (g.provider p).hook = none)
    (commissioned : (g.provider p).lifecycle.commission g.world = (.ok product, l, world))
    (accepted : (g.registerHook host p).1 = .ok id) :
    g.provideWith record p = (⟨(g.provider p).made, .ok product⟩,
      (g.registerHook host p).2.put p { g.provider p with
        lifecycle := l
        made := (g.provider p).made + 1
        provided := some ⟨(g.provider p).made, .ok product⟩
        hook := some id
        told := .provideCompleted :: .commissionSucceeded :: .commissionStarted ::
          .provideStarted :: (g.provider p).told } world) := by
  have here : (g.put p ((g.provider p).hearing .provideStarted) g.world).provider p =
      (g.provider p).hearing .provideStarted := provider_put_self inside
  have asked := commissionWith_ok
    (g := g.put p ((g.provider p).hearing .provideStarted) g.world)
    (by rwa [length_put]) (by rw [here]; exact running) (by rw [here]; exact commissioned)
  -- what the provider is when its exit hook is about to be registered
  let readied : Provider σ ε π := { g.provider p with
    lifecycle := l
    told := .commissionSucceeded :: .commissionStarted :: .provideStarted :: (g.provider p).told }
  have there : (g.put p readied world).provider p = readied := provider_put_self inside
  have kept := keptWith_accepted (length_put.symm ▸ inside) product
    (by rw [there]; exact running) (by rw [there]; exact bare)
    (by rw [registerHook_put]; exact accepted)
  have settled : ((g.provider p).hearing .provideStarted).scope = .global host := scope
  rw [there, registerHook_put, put_put] at kept
  rw [put_put, here, settled] at asked
  exact provideWith_commissioned inside running new (by rwa [length_registerHook])
    (asked.trans kept)

theorem provideWith_manual {product : Option π} {l : Lifecycle σ ε π}
    (running : (g.provider p).finished = false) (new : (g.provider p).provided = none)
    (scope : (g.provider p).scope = .global .manual) (bare : (g.provider p).hook = none)
    (commissioned : (g.provider p).lifecycle.commission g.world = (.ok product, l, world)) :
    g.provideWith record p = (⟨(g.provider p).made, .ok product⟩, (g.put p { g.provider p with
      lifecycle := l
      made := (g.provider p).made + 1
      provided := some ⟨(g.provider p).made, .ok product⟩
      hook := some ⟨g.manual.nextNumber⟩
      told := .provideCompleted :: .commissionSucceeded :: .commissionStarted ::
        .provideStarted :: (g.provider p).told } world).withManual (g.manual.register p).2) :=
  provideWith_accepted inside running new scope bare commissioned rfl

/-! ### Finishing -/

omit inside in
theorem finishWith_global {host : HookHost} (scope : (g.provider p).scope = .global host) :
    g.finishWith record p = (.ok (), g.put p { g.provider p with
      told := .finishDeferred :: (g.provider p).told } g.world) := by
  simp only [finishWith, scope, record_eq, update_eq_put]

omit inside in
/-- The group without the hook of a provider. -/
def unhooked (p : Nat) (g : ProviderGroup σ ε π) : ProviderGroup σ ε π :=
  (g.update p fun q => { q with hook := none }).dropHook p (g.provider p).hook

omit inside in
@[simp] theorem length_unhooked : (g.unhooked p).providers.length = g.providers.length := by
  rw [unhooked, length_dropHook, length_update]

omit inside in
@[simp] theorem world_unhooked : (g.unhooked p).world = g.world := by
  rw [unhooked, world_dropHook]
  rfl

theorem provider_unhooked : (g.unhooked p).provider p = { g.provider p with hook := none } := by
  rw [unhooked, provider_dropHook, update_eq_put, provider_put_self inside]

omit inside in
/-- Finishing now is a teardown without the hook. -/
theorem finishNowWith_unhooked :
    g.finishNowWith record p = teardownWith record p (g.unhooked p) := finishNowWith_eq ..

omit inside in
/-- Finishing now first takes the hook out of the slot and drops it. -/
theorem finishNowWith_manual (scope : (g.provider p).scope = .global .manual) :
    g.finishNowWith record p = teardownWith record p
      ((g.put p { g.provider p with hook := none } g.world).withManual
        (g.manual.without (g.provider p).hook)) := by
  simp only [finishNowWith, update_eq_put, scope]
  cases (g.provider p).hook <;> rfl

theorem finishNowWith_finished (scope : (g.provider p).scope = .global .manual)
    (finished : (g.provider p).finished = true) :
    g.finishNowWith record p = (.ok (), (g.put p { g.provider p with hook := none }
      g.world).withManual (g.manual.without (g.provider p).hook)) := by
  rw [finishNowWith_manual scope, teardownWith_set]
  rw [provider_withManual, provider_put_self inside]
  exact finished

theorem finishNowWith_running (scope : (g.provider p).scope = .global .manual)
    (running : (g.provider p).finished = false) :
    g.finishNowWith record p =
      let (outcome, _, world) := (g.provider p).lifecycle.decommission g.world
      (outcome, (g.put p (Provider.tornDown outcome { g.provider p with hook := none })
        world).withManual (g.manual.without (g.provider p).hook)) := by
  rw [finishNowWith_manual scope, teardownWith_record]
  · simp only [provider_withManual, provider_put_self inside, world_withManual, world_put,
      put_withManual, put_put]
  · rwa [length_withManual, length_put]
  · rwa [provider_withManual, provider_put_self inside]

/-! ### Firing -/

end

theorem fireWith_manual (emit : Nat → Event ε → ProviderGroup σ ε π → ProviderGroup σ ε π) :
    fireWith emit .manual g = ((g.manual.pending.map Prod.snd).length,
      (g.manual.pending.map Prod.snd).foldl (fun g p => teardownAtExitWith emit p g)
        (g.withManual { g.manual with pending := [] })) := rfl

/-- What the hooks of some providers leave of a group, run one after the other. -/
structure Swept (ps : List Nat) (g after : ProviderGroup σ ε π) : Prop where
  length : after.providers.length = g.providers.length
  manual : after.manual = g.manual
  world : after.world = ps.foldl
    (fun world p => (CommittedStage.sweep (g.provider p).lifecycle.committed world).2) g.world
  others : ∀ p, p ∉ ps → after.provider p = g.provider p
  torn : ∀ p ∈ ps, ∃ outcome, after.provider p = (g.provider p).tornDownAtExit outcome

theorem swept_foldl {ps : List Nat} (distinct : ps.Nodup)
    (running : ∀ p ∈ ps, p < g.providers.length ∧ (g.provider p).finished = false) :
    Swept ps g (ps.foldl (fun g p => teardownAtExitWith record p g) g) := by
  -- a hook changes no other provider, so those left are swept as they stood at the start
  induction ps generalizing g with
  | nil => exact ⟨rfl, rfl, rfl, fun _ _ => rfl, by simp⟩
  | cons first rest ih =>
    obtain ⟨inside, clear⟩ := running first List.mem_cons_self
    obtain ⟨apart, distinct⟩ := List.nodup_cons.mp distinct
    have other {p : Nat} (mem : p ∈ rest) : p ≠ first := fun same => apart (same ▸ mem)
    rw [List.foldl_cons, teardownAtExitWith_record inside clear]
    rcases swept : (g.provider first).lifecycle.decommission g.world with ⟨outcome, l, world⟩
    have moved : world = (CommittedStage.sweep (g.provider first).lifecycle.committed g.world).2 :=
      (congrArg (·.2.2) swept).symm
    have left (p : Nat) (mem : p ∈ rest) :
        (g.put first ((g.provider first).tornDownAtExit outcome) world).provider p =
          g.provider p := by
      rw [provider_put inside, if_neg (other mem)]
    have further := ih (g := g.put first ((g.provider first).tornDownAtExit outcome) world) distinct
      fun p mem => by
        rw [length_put, left p mem]
        exact running p (List.mem_cons_of_mem _ mem)
    refine ⟨further.length.trans length_put, further.manual, ?_, ?_, ?_⟩
    · rw [further.world, List.foldl_cons, ← moved, world_put]
      exact List.foldl_ext _ _ _ fun world p mem => by rw [left p mem]
    · intro p absent
      rw [further.others p fun mem => absent (List.mem_cons_of_mem _ mem), provider_put inside,
        if_neg fun same : p = first => absent (same ▸ List.mem_cons_self)]
    · intro p mem
      rcases List.mem_cons.mp mem with rfl | mem
      · exact ⟨outcome, (further.others p apart).trans (provider_put_self inside)⟩
      · obtain ⟨outcome', torn⟩ := further.torn p mem
        exact ⟨outcome', by rw [torn, left p mem]⟩

end ProviderGroup

end ContainerFixture
