import ContainerFixture.Proofs.Provider.Cell

/-!
# Exit hooks between a slot and a registry

Where the exit hook of a provider is, and which threads are about to do something to it. The slot and
the registry are not changed together: a pending hook is in the slot or in the hands of the thread
that registered it (`Noted`), until a finisher takes it out of the slot and then drops it. No other
provider's hook has the same number (`Numbered`), so that nobody else drops it.
-/

namespace ContainerFixture

variable {σ ε π : Type}

/-! ### The hooks of one provider in a registry -/

namespace HookRegistry

variable (r : HookRegistry Nat) (p q : Nat) (id : HookId)

/-- The pending hooks of a provider. -/
def hooksOf (p : Nat) (r : HookRegistry Nat) : List HookId :=
  (r.pending.filter fun entry => entry.2 = p).map Prod.fst

@[simp] theorem hooksOf_register : (r.register q).2.hooksOf p =
    if q = p then (r.register q).1 :: r.hooksOf p else r.hooksOf p := by
  by_cases same : q = p <;> simp [hooksOf, register, same]

@[simp] theorem hooksOf_deregister :
    (r.deregister id).2.hooksOf p = (r.hooksOf p).filter fun other => other ≠ id := by
  simp only [hooksOf, deregister, List.filter_map, List.filter_filter]
  congr 2
  funext entry
  simp [Bool.and_comm]

@[simp] theorem hooksOf_drained : { r with pending := [] : HookRegistry Nat }.hooksOf p = [] := rfl

theorem mem_pending_iff : p ∈ r.pending.map Prod.snd ↔ r.hooksOf p ≠ [] := by
  simp [hooksOf, List.filter_eq_nil_iff]

end HookRegistry

/-! ### Numbers are given out once -/

section
variable {t : Nat} {m next : Machine σ ε π} {seen : Seen ε π} {p : Nat}

/-- The exit hooks registered with one host have numbers that were given out, and different ones. -/
structure Numbered (trace : List (Seen ε π)) (m : Machine σ ε π) : Prop where
  issued : ∀ q host id, (m.group.provider q).scope = .global host → .registered q id ∈ trace →
    id.number < (m.group.registry host).nextNumber
  distinct : ∀ q r host id, (m.group.provider q).scope = .global host →
    (m.group.provider r).scope = .global host → .registered q id ∈ trace →
    .registered r id ∈ trace → q = r

theorem Step.nextNumber_le (step : Step t m seen next) (host : HookHost) :
    (m.group.registry host).nextNumber ≤ (next.group.registry host).nextNumber := by
  rcases step.registry_cases with ⟨q, other, _, _, -, -, -, -, registries⟩ |
    ⟨q, taken, -, -, -, after⟩ | ⟨other, _, -, -, registries⟩ | ⟨-, -, registries⟩
  · rw [registries]
    split <;> simp [*, HookRegistry.register]
  · rw [after, ProviderGroup.registry_dropHook]
    split
    · split <;> simp [HookRegistry.deregister]
    · exact Nat.le_refl _
  · rw [registries]
    split <;> simp [*]
  · exact Nat.le_of_eq (by rw [registries])

/-- A hook is registered with the next number of its host. -/
theorem Step.number_of_registered {q : Nat} {id : HookId}
    (step : Step t m (.registered q id) next) : ∃ host product,
      m.threads t = .inside q (.registering host product) ∧
      id.number = (m.group.registry host).nextNumber ∧
      id.number < (next.group.registry host).nextNumber := by
  obtain ⟨host, product, latest, shown, here, -, number, registries⟩ :=
    step.registering_of_registers (p := q) (by simp [Seen.registers])
  obtain rfl : id = latest := by simpa using shown
  refine ⟨host, product, here, by simp [number, HookRegistry.register], ?_⟩
  simp [registries, number, HookRegistry.register]

theorem Step.numbered {trace : List (Seen ε π)} (step : Step t m seen next)
    (cells : ∀ q, q < m.group.providers.length → CellInvariant q trace m)
    (numbered : Numbered trace m) : Numbered (trace ++ [seen]) next := by
  -- A thread about to register a hook does it with the host of its provider.
  have latest {q : Nat} {host : HookHost} {id : HookId}
      (scope : (m.group.provider q).scope = .global host) (shown : seen = .registered q id) :
      (∃ product, m.threads t = .inside q (.registering host product)) ∧
        id.number = (m.group.registry host).nextNumber ∧
        id.number < (next.group.registry host).nextNumber := by
    subst shown
    obtain ⟨other, product, here, number, below⟩ := step.number_of_registered
    have known := ProviderGroup.known_of_global scope
    obtain ⟨-, -, global, -⟩ := (here ▸ (cells q known).known t) rfl
    obtain rfl : host = other := by simpa [scope] using global
    exact ⟨⟨product, here⟩, number, below⟩
  constructor
  · intro q host id scope shown
    rw [step.scope] at scope
    rcases List.mem_append.mp shown with before | now
    · exact Nat.lt_of_lt_of_le (numbered.issued q host id scope before) (step.nextNumber_le host)
    · exact (latest scope (List.mem_singleton.mp now).symm).2.2
  · -- A number that a step gives out is above those given out before.
    intro q r host id scope scope' shown shown'
    rw [step.scope] at scope scope'
    rcases List.mem_append.mp shown with before | now <;>
      rcases List.mem_append.mp shown' with before' | now'
    · exact numbered.distinct q r host id scope scope' before before'
    · have below := numbered.issued q host id scope before
      have number := (latest scope' (List.mem_singleton.mp now').symm).2.1
      omega
    · have below := numbered.issued r host id scope' before'
      have number := (latest scope (List.mem_singleton.mp now).symm).2.1
      omega
    · have same := (List.mem_singleton.mp now).trans (List.mem_singleton.mp now').symm
      simp only [Seen.registered.injEq] at same
      exact same.1

/-- The only hook that a provider registered. -/
theorem registered_unique {trace : List (Seen ε π)}
    (once : trace.countP (Seen.registers p) = 1) {id other : HookId}
    (registered : .registered p id ∈ trace) (registered' : .registered p other ∈ trace) :
    id = other := by
  rw [List.countP_eq_length_filter] at once
  obtain ⟨only, all⟩ := List.length_eq_one_iff.mp once
  have mine : .registered p id ∈ trace.filter (Seen.registers p) := by
    simp [registered, Seen.registers]
  have theirs : .registered p other ∈ trace.filter (Seen.registers p) := by
    simp [registered', Seen.registers]
  rw [all, List.mem_singleton] at mine theirs
  simpa using mine.trans theirs.symm

/-! ### Who is about to tear the provider down -/

/-- The exit hooks that the teardown of a provider has in hand: its own, if it is one, and those to
run after it. -/
def Asker.hooks (q : Nat) : Asker ε → List Nat
  | .exitHook _ left => q :: left
  | .finish | .finishNow | .refusal _ => []

theorem Asker.own_or_left {q : Nat} {asker : Asker ε} (bound : p = q ∨ p ∈ asker.hooks q) :
    p = q ∨ p ∈ (asker.hooks q).tail := by
  cases asker <;> simp_all [hooks]

/-- Whether a thread has the exit hook of a provider in hand. -/
def Point.fires (p : Nat) : Point ε π → Prop
  | .firing _ left => p ∈ left
  | .teardown q asker _ => p ∈ asker.hooks q
  | _ => False

/-- Whether a thread is at the teardown of a provider, or is about to drop its exit hook, or has it
in hand. -/
def Point.fells (p : Nat) : Point ε π → Prop
  | .firing _ left => p ∈ left
  | .dropping q _ => p = q
  | .teardown q asker _ => p = q ∨ p ∈ asker.hooks q
  | _ => False

/-- Whether a thread will see to it that the flag of a provider is set. -/
def Point.bound (p : Nat) : Point ε π → Prop
  | .firing _ left => p ∈ left
  | .dropping q _ => p = q
  | .teardown q asker .flagging => p = q ∨ p ∈ asker.hooks q
  | .teardown q asker _ => p ∈ (asker.hooks q).tail
  | _ => False

/-- A thread gets the exit hook of a provider in hand by draining a registry. -/
theorem Step.fires_cases (step : Step t m seen next) (fires : (next.threads t).fires p) :
    (m.threads t).fires p ∨ ∃ host, seen = .drained host := by
  cases step <;> simp_all [Point.fires, Asker.hooks]

/-- A thread gets to the teardown of a global provider whose host takes hooks by emptying its slot
or by draining a registry. -/
theorem Step.fells_cases {trace : List (Seen ε π)} {host : HookHost} (step : Step t m seen next)
    (cell : CellInvariant p trace m) (scope : (m.group.provider p).scope = .global host)
    (accepts : ∀ reason, host ≠ .refusing reason) (fells : (next.threads t).fells p) :
    (m.threads t).fells p ∨ m.threads t = .withdrawing p ∨ ∃ other, seen = .drained other := by
  cases step
  case refuse q other product reason here refused =>
    obtain rfl : p = q := by simpa [Point.fells, Asker.hooks] using fells
    obtain ⟨rfl, -⟩ := ProviderGroup.registerHook_error refused
    obtain ⟨-, -, global, -⟩ := (here ▸ cell.known t) rfl
    rw [scope] at global
    exact absurd (Scope.global.inj global) (accepts reason)
  all_goals simp_all [Point.fells, Asker.hooks]

/-- A thread that will see to it that the flag is set goes on to do so, until it is set. -/
theorem Step.bound_cases (step : Step t m seen next) (known : p < m.group.providers.length)
    (bound : (m.threads t).bound p) :
    (next.threads t).bound p ∨ (next.group.provider p).finished = true := by
  cases step
  case flag q asker here clear =>
    rw [here] at bound
    rcases Asker.own_or_left bound with rfl | left
    · exact Or.inr (by simp [known])
    · exact Or.inl (by simpa [Point.bound] using left)
  case flagged q asker here set =>
    rw [here] at bound
    rcases Asker.own_or_left bound with rfl | left
    · exact Or.inr (by simpa using set)
    · exact Or.inl (by simpa [Point.bound] using left)
  all_goals simp_all [Point.bound, Asker.hooks]

/-- Whoever tears down a global provider whose host takes hooks does it from its exit hook or holds
its slot. -/
theorem CellInvariant.slot_of_fells {trace : List (Seen ε π)} {host : HookHost} {u : Nat}
    (cell : CellInvariant p trace m) (scope : (m.group.provider p).scope = .global host)
    (accepts : ∀ reason, host ≠ .refusing reason) (fells : (m.threads u).fells p)
    (unarmed : ¬(m.threads u).fires p) : .slot p ∈ (m.threads u).held := by
  have known := cell.known u
  cases point : m.threads u with
  | teardown q asker progress =>
    rw [point] at known fells unarmed
    have same : p = q := fells.resolve_right unarmed
    subst same
    cases asker with
    | finish => simp [known rfl] at scope
    | finishNow => simp [Point.held, Asker.held]
    | exitHook ran left => simp [Point.fires, Asker.hooks] at unarmed
    | refusal cause =>
      obtain ⟨-, -, reason, refusing, -⟩ := known rfl
      rw [scope] at refusing
      exact absurd (Scope.global.inj refusing) (accepts reason)
  | dropping q taken =>
    rw [point] at fells
    obtain rfl : p = q := fells
    simp [Point.held]
  | firing ran left =>
    rw [point] at fells unarmed
    exact absurd fells unarmed
  | _ => simp [point, Point.fells] at fells

/-! ### Where a pending hook is -/

/-- The only pending hook of a provider is this one, with this host. -/
structure Pends (host : HookHost) (p : Nat) (id : HookId) (m : Machine σ ε π) : Prop where
  only : (m.group.registry host).hooksOf p = [id]
  elsewhere : ∀ other, other ≠ host → (m.group.registry other).hooksOf p = []

theorem Pends.of_same {host : HookHost} {id : HookId} (pends : Pends host p id m)
    (same : ∀ other, (next.group.registry other).hooksOf p = (m.group.registry other).hooksOf p) :
    Pends host p id next where
  only := (same host).trans pends.only
  elsewhere other foreign := (same other).trans (pends.elsewhere other foreign)

/-- The slot of a provider is filled, or a thread is about to fill it. -/
def Noted (p : Nat) (m : Machine σ ε π) : Prop :=
  (m.group.provider p).hook.isSome = true ∨
    ∃ t product id, m.threads t = .inside p (.noting product id)

/-- The hooks taken out of a registry are those that were pending, and none is left. -/
theorem Step.firing_of_drained {host : HookHost} (step : Step t m (.drained host) next) :
    (∃ ran left, next.threads t = .firing ran left ∧
      (p ∈ left ↔ (m.group.registry host).hooksOf p ≠ [])) ∧
    (next.group.registry host).hooksOf p = [] := by
  rcases step.registry_cases with ⟨_, _, _, _, shown, -⟩ | ⟨_, _, shown, -⟩ |
    ⟨other, ran, shown, there, registries⟩ | ⟨-, undrained, -⟩
  · simp at shown
  · simp at shown
  · obtain rfl : host = other := by simpa using shown
    exact ⟨⟨ran, _, there, (m.group.registry host).mem_pending_iff p⟩, by simp [registries]⟩
  · exact absurd rfl (undrained host)

/-- A provider without pending hooks gets one only by registering it. -/
theorem Step.hooksOf_eq_nil (step : Step t m seen next) (unregistered : seen.registers p = false)
    (absent : ∀ other, (m.group.registry other).hooksOf p = []) (other : HookHost) :
    (next.group.registry other).hooksOf p = [] := by
  rcases step.registry_cases with ⟨q, host, _, _, rfl, -, -, -, registries⟩ |
    ⟨q, taken, -, -, -, after⟩ | ⟨host, _, -, -, registries⟩ | ⟨-, -, registries⟩
  · have apart : q ≠ p := by simpa [Seen.registers] using unregistered
    rw [registries]
    split <;> simp [absent, apart]
  · rw [after, ProviderGroup.registry_dropHook]
    split
    · split <;> simp [absent]
    · exact absent other
  · rw [registries]
    split <;> simp [absent]
  · rw [registries, absent]

/-- Dropping the hook of another provider, which has another number, leaves a pending hook. -/
theorem Pends.dropHook {trace : List (Seen ε π)} {host : HookHost} {q : Nat} {id : HookId}
    {taken : Option HookId} (pends : Pends host p id m) (numbered : Numbered trace m)
    (scope : (m.group.provider p).scope = .global host) (apart : q ≠ p)
    (mine : .registered p id ∈ trace)
    (theirs : ∀ number, taken = some number → q < m.group.providers.length →
      .registered q number ∈ trace) (other : HookHost) :
    ((m.group.dropHook q taken).registry other).hooksOf p =
      (m.group.registry other).hooksOf p := by
  rw [ProviderGroup.registry_dropHook]
  split
  · rename_i number
    split
    · rename_i at_host
      by_cases foreign : other = host
      · subst foreign
        have registered := theirs number rfl (ProviderGroup.known_of_global at_host)
        have differ : id ≠ number := fun shared =>
          apart (numbered.distinct q p other id at_host scope (shared ▸ registered) mine)
        simp [pends.only, differ]
      · simp [pends.elsewhere other foreign]
    · rfl
  · rfl

/-- A pending hook stays, unless its registry is drained or it is dropped by its own provider's
finisher. -/
theorem Step.pends_cases {trace : List (Seen ε π)} {host : HookHost} {id : HookId}
    (step : Step t m seen next)
    (cells : ∀ q, q < m.group.providers.length → CellInvariant q trace m)
    (numbered : Numbered trace m) (scope : (m.group.provider p).scope = .global host)
    (registered : .registered p id ∈ trace) (unregisters : seen.registers p = false)
    (pends : Pends host p id m) (undropped : ∀ taken, m.threads t ≠ .dropping p taken) :
    Pends host p id next ∨
      seen = .drained host ∧ ∀ other, (next.group.registry other).hooksOf p = [] := by
  rcases step.registry_cases with ⟨q, other, _, _, rfl, -, -, -, registries⟩ |
    ⟨q, taken, -, here, -, after⟩ | ⟨other, _, rfl, -, registries⟩ | ⟨-, -, registries⟩
  · have apart : q ≠ p := by simpa [Seen.registers] using unregisters
    refine Or.inl (pends.of_same fun host' => ?_)
    rw [registries]
    split
    · rename_i there
      simp [there, apart]
    · rfl
  · have apart : q ≠ p := by
      rintro rfl
      exact undropped taken here
    refine Or.inl (pends.of_same fun host' => ?_)
    rw [after]
    refine pends.dropHook numbered scope apart registered (fun number taking known => ?_) host'
    subst taking
    exact (here ▸ (cells q known).known t) rfl
  · by_cases same : other = host
    · subst same
      refine Or.inr ⟨rfl, fun host' => ?_⟩
      rw [registries]
      split
      · rfl
      · rename_i foreign
        exact pends.elsewhere host' foreign
    · refine Or.inl ⟨?_, fun host' foreign => ?_⟩
      · simp [registries, Ne.symm same, pends.only]
      · rw [registries]
        split <;> simp [pends.elsewhere host' foreign]
  · exact Or.inl (pends.of_same fun host' => by rw [registries])

theorem Step.noted_of_noting {product : Option π} {id : HookId} (step : Step t m seen next)
    (known : p < m.group.providers.length) (here : m.threads t = .inside p (.noting product id)) :
    (next.group.provider p).hook = some id := by
  cases step <;> simp_all

/-- Only a finisher takes the hook of a provider out of its slot. -/
theorem Step.noted (step : Step t m seen next) (known : p < m.group.providers.length)
    (noted : Noted p m) (unseized : m.threads t ≠ .withdrawing p) : Noted p next := by
  rcases noted with hooked | ⟨u, product, id, there⟩
  · rcases step.slot_cases with ⟨q, _, _, _, -, -, hooks⟩ | ⟨q, here, -, hooks⟩ | hooks
    · refine Or.inl ?_
      rw [hooks]
      split
      · rfl
      · exact hooked
    · have apart : q ≠ p := by
        rintro rfl
        exact unseized here
      exact Or.inl (by simpa [hooks, apart] using hooked)
    · exact Or.inl (by rwa [hooks])
  · by_cases mover : u = t
    · subst mover
      exact Or.inl (by simp [step.noted_of_noting known there])
    · exact Or.inr ⟨u, product, id, by rwa [step.threads_of_ne mover]⟩

theorem Step.dropped_of_dropping {taken : Option HookId} (step : Step t m seen next)
    (here : m.threads t = .dropping p taken) : next.threads t = .teardown p .finishNow .flagging ∧
      next.group = m.group.dropHook p taken := by
  cases step <;> simp_all

/-- A finisher finds the hook in the slot, since whoever was to put it there held the slot too. -/
theorem Step.dropping_of_withdrawing {trace : List (Seen ε π)} {id : HookId}
    (step : Step t m seen next) (guarded : Guarded m) (cell : CellInvariant p trace m)
    (once : trace.countP (Seen.registers p) = 1) (registered : .registered p id ∈ trace)
    (noted : Noted p m) (here : m.threads t = .withdrawing p) :
    next.threads t = .dropping p (some id) := by
  have filled : (m.group.provider p).hook = some id := by
    rcases noted with hooked | ⟨u, product, other, there⟩
    · obtain ⟨other, hook⟩ := Option.isSome_iff_exists.mp hooked
      rw [hook, registered_unique once registered (cell.noted other hook)]
    · have mine : .slot p ∈ (m.threads t).held := by simp [here, Point.held]
      have theirs : .slot p ∈ (m.threads u).held := by
        simp [there, Point.held, Provisioning.held]
      simp [← guarded.unique mine theirs, there] at here
  cases step <;> simp_all

end

end ContainerFixture
