import ContainerFixture.Proofs.Provider.Interleaving

/-!
# What the operations on a group change

Each operation changes one provider, or one registry of exit hooks, and leaves the rest alone.
-/

namespace ContainerFixture.ProviderGroup

variable {σ ε π : Type} (g : ProviderGroup σ ε π) (q p : Nat)

/-! ### Providers -/

theorem provider_update (f : Provider σ ε π → Provider σ ε π) :
    (g.update q f).provider p =
      if q = p ∧ p < g.providers.length then f (g.provider p) else g.provider p := by
  simp only [provider, update, List.getD_eq_getElem?_getD, List.getElem?_modify]
  by_cases same : q = p
  · by_cases known : p < g.providers.length
    · simp [same, known]
    · simp [known]
  · simp [same]

section
variable (f : Provider σ ε π → Provider σ ε π)

theorem field_update {α : Type} (field : Provider σ ε π → α) :
    field ((g.update q f).provider p) =
      if q = p ∧ p < g.providers.length then field (f (g.provider p))
      else field (g.provider p) := by
  rw [provider_update]
  split <;> rfl

@[simp] theorem lifecycle_update : ((g.update q f).provider p).lifecycle =
    if q = p ∧ p < g.providers.length then (f (g.provider p)).lifecycle
    else (g.provider p).lifecycle := field_update g q p f Provider.lifecycle

@[simp] theorem scope_update : ((g.update q f).provider p).scope =
    if q = p ∧ p < g.providers.length then (f (g.provider p)).scope
    else (g.provider p).scope := field_update g q p f Provider.scope

@[simp] theorem reactions_update : ((g.update q f).provider p).reactions =
    if q = p ∧ p < g.providers.length then (f (g.provider p)).reactions
    else (g.provider p).reactions := field_update g q p f Provider.reactions

@[simp] theorem finished_update : ((g.update q f).provider p).finished =
    if q = p ∧ p < g.providers.length then (f (g.provider p)).finished
    else (g.provider p).finished := field_update g q p f Provider.finished

@[simp] theorem provided_update : ((g.update q f).provider p).provided =
    if q = p ∧ p < g.providers.length then (f (g.provider p)).provided
    else (g.provider p).provided := field_update g q p f Provider.provided

@[simp] theorem hook_update : ((g.update q f).provider p).hook =
    if q = p ∧ p < g.providers.length then (f (g.provider p)).hook
    else (g.provider p).hook := field_update g q p f Provider.hook

@[simp] theorem made_update : ((g.update q f).provider p).made =
    if q = p ∧ p < g.providers.length then (f (g.provider p)).made
    else (g.provider p).made := field_update g q p f Provider.made

@[simp] theorem length_update : (g.update q f).providers.length = g.providers.length := by
  simp [update]

end

@[simp] theorem record_eq (event : Event ε) :
    g.record q event = g.update q fun r => { r with told := event :: r.told } := rfl

@[simp] theorem provisionOf_fst (outcome : Except (LifecycleError ε) (Option π)) :
    (g.provisionOf outcome q).1 = ⟨(g.provider q).made, outcome⟩ := rfl

@[simp] theorem provisionOf_snd (outcome : Except (LifecycleError ε) (Option π)) :
    (g.provisionOf outcome q).2 = g.update q fun r => { r with made := r.made + 1 } := by
  have same :
      g.providers.modify q (fun _ => { g.provider q with made := (g.provider q).made + 1 }) =
      g.providers.modify q fun r => { r with made := r.made + 1 } := by
    apply List.ext_getElem?
    intro i
    rw [List.getElem?_modify, List.getElem?_modify]
    by_cases here : q = i
    · subst here
      cases found : g.providers[q]? <;> simp [provider, found]
    · simp [here]
  simp [provisionOf, Provider.fresh, update, same]

@[simp] theorem provider_run {α : Type} (step : Lifecycle σ ε π → σ → α × Lifecycle σ ε π × σ) :
    (g.run q step).2.provider p = (g.update q fun r =>
      { r with lifecycle := (step (g.provider q).lifecycle g.world).2.1 }).provider p := rfl

@[simp] theorem length_run {α : Type} (step : Lifecycle σ ε π → σ → α × Lifecycle σ ε π × σ) :
    (g.run q step).2.providers.length = g.providers.length := by
  simp [run, update]

@[simp] theorem run_fst {α : Type} (step : Lifecycle σ ε π → σ → α × Lifecycle σ ε π × σ) :
    (g.run q step).1 = (step (g.provider q).lifecycle g.world).1 := rfl

theorem provider_ofChains (world : σ) {chains : List (List (Stage σ ε π) × Scope)} {p : Nat}
    (known : p < chains.length) : (ofChains world chains).provider p =
      { lifecycle := { stages := chains[p].1 }, scope := chains[p].2 } := by
  simp [provider, ofChains, known]

theorem provider_ofChains_new (world : σ) (chains : List (List (Stage σ ε π) × Scope)) (p : Nat) :
    ∃ stages scope, (ofChains world chains).provider p = { lifecycle := { stages }, scope } := by
  by_cases known : p < chains.length
  · exact ⟨_, _, provider_ofChains world known⟩
  · have absent : (ofChains world chains).providers[p]? = none := by simpa [ofChains] using known
    refine ⟨[], .owned, ?_⟩
    rw [provider, List.getD_eq_getElem?_getD, absent]
    rfl

@[simp] theorem reactions_ofChains (world : σ) (chains : List (List (Stage σ ε π) × Scope)) :
    ((ofChains world chains).provider p).reactions = [] := by
  obtain ⟨stages, scope, new⟩ := provider_ofChains_new world chains p
  rw [new]

/-- There is no global provider where there is none. -/
theorem known_of_global {g : ProviderGroup σ ε π} {p : Nat} {host : HookHost}
    (scope : (g.provider p).scope = .global host) : p < g.providers.length := by
  by_contra unknown
  have absent : g.providers[p]? = none := by simpa using unknown
  have owned : (g.provider p).scope = .owned := by
    rw [provider, List.getD_eq_getElem?_getD, absent]
    rfl
  simp [owned] at scope

@[simp] theorem length_ofChains (world : σ) (chains : List (List (Stage σ ε π) × Scope)) :
    (ofChains world chains).providers.length = chains.length := by
  simp [ofChains]

/-! ### Registries -/

/-- The registry of a host. One that takes no hook has none. -/
def registry (g : ProviderGroup σ ε π) : HookHost → HookRegistry Nat
  | .manual => g.manual
  | .process => g.process
  | .refusing _ => {}

variable (host other : HookHost) (id : HookId)

@[simp] theorem registry_update (f : Provider σ ε π → Provider σ ε π) :
    (g.update q f).registry other = g.registry other := by
  cases other <;> rfl

@[simp] theorem registry_run {α : Type} (step : Lifecycle σ ε π → σ → α × Lifecycle σ ε π × σ) :
    (g.run q step).2.registry other = g.registry other := by
  cases other <;> rfl

@[simp] theorem provider_registerHook : (g.registerHook host q).2.provider p = g.provider p := by
  cases host <;> rfl

@[simp] theorem length_registerHook :
    (g.registerHook host q).2.providers.length = g.providers.length := by
  cases host <;> rfl

@[simp] theorem world_registerHook : (g.registerHook host q).2.world = g.world := by
  cases host <;> rfl

/-- A host that accepts hooks gives out the next number of its registry. -/
theorem registerHook_ok {g : ProviderGroup σ ε π} {q : Nat} {host : HookHost} {id : HookId}
    (accepted : (g.registerHook host q).1 = .ok id) :
    id = ((g.registry host).register q).1 ∧ ∀ other, (g.registerHook host q).2.registry other =
      if other = host then ((g.registry host).register q).2 else g.registry other := by
  cases host with
  | refusing reason => simp [registerHook] at accepted
  | manual | process =>
    simp only [registerHook, Except.ok.injEq] at accepted
    refine ⟨accepted.symm, fun other => ?_⟩
    cases other <;> simp [registerHook, registry]

/-- Only a host that takes no hook refuses one, and then nothing changes. -/
theorem registerHook_error {g : ProviderGroup σ ε π} {q : Nat} {host : HookHost} {reason : String}
    (refused : (g.registerHook host q).1 = .error reason) :
    host = .refusing reason ∧ (g.registerHook host q).2 = g := by
  cases host <;> simp_all [registerHook]

@[simp] theorem provider_deregisterHook :
    (g.deregisterHook host id).provider p = g.provider p := by
  cases host <;> rfl

@[simp] theorem length_deregisterHook :
    (g.deregisterHook host id).providers.length = g.providers.length := by
  cases host <;> rfl

theorem registry_deregisterHook : (g.deregisterHook host id).registry other =
    if other = host then ((g.registry host).deregister id).2 else g.registry other := by
  cases host <;> cases other <;> simp [deregisterHook, registry, HookRegistry.deregister]

@[simp] theorem provider_drainHooks : (g.drainHooks host).2.provider p = g.provider p := by
  cases host <;> rfl

@[simp] theorem length_drainHooks :
    (g.drainHooks host).2.providers.length = g.providers.length := by
  cases host <;> rfl

@[simp] theorem world_drainHooks : (g.drainHooks host).2.world = g.world := by
  cases host <;> rfl

theorem drainHooks_fst : (g.drainHooks host).1 = (g.registry host).pending.map Prod.snd := by
  cases host <;> rfl

theorem registry_drainHooks : (g.drainHooks host).2.registry other =
    if other = host then { g.registry host with pending := [] } else g.registry other := by
  cases host <;> cases other <;> simp [drainHooks, registry, HookRegistry.drain]

variable (taken : Option HookId)

@[simp] theorem provider_dropHook : (g.dropHook q taken).provider p = g.provider p := by
  simp only [dropHook]
  split <;> simp

@[simp] theorem length_dropHook :
    (g.dropHook q taken).providers.length = g.providers.length := by
  simp only [dropHook]
  split <;> simp

@[simp] theorem world_dropHook : (g.dropHook q taken).world = g.world := by
  simp only [dropHook]
  split
  · cases ‹HookHost› <;> rfl
  · rfl

/-- A hook that is dropped leaves the registry of its host. -/
theorem registry_dropHook : (g.dropHook q taken).registry other =
    match taken with
    | some id =>
      if (g.provider q).scope = .global other then ((g.registry other).deregister id).2
      else g.registry other
    | none => g.registry other := by
  cases taken with
  | none => rfl
  | some id =>
    cases scope : (g.provider q).scope with
    | owned => simp [dropHook, scope]
    | global host =>
      simp only [dropHook, scope, registry_deregisterHook, Scope.global.injEq]
      by_cases same : host = other
      · simp [same]
      · simp [same, Ne.symm same]

end ContainerFixture.ProviderGroup
