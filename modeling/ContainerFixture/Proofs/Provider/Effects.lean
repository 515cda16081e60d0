import ContainerFixture.Proofs.Provider.Guards

/-!
# What a step can do

The inversion lemmas of `Step`. Each says once, for one part of a provider, which steps change that
part, from which place they do it, and that all others leave it alone.
-/

namespace ContainerFixture

variable {σ ε π : Type}

/-! ### What a label tells of one provider -/

namespace Seen

/-- Whether the lifecycle's commission ran. -/
def commissions (p : Nat) : Seen ε π → Bool
  | commissioned q _ _ => q = p
  | _ => false

/-- Whether the lifecycle's decommission ran. -/
def decommissions (p : Nat) : Seen ε π → Bool
  | decommissioned q _ _ => q = p
  | _ => false

/-- Whether an exit hook was registered. -/
def registers (p : Nat) : Seen ε π → Bool
  | registered q _ => q = p
  | _ => false

def stageCalls (p : Nat) : Seen ε π → List StageCall
  | commissioned q _ calls | decommissioned q _ calls => if q = p then calls else []
  | _ => []

end Seen

variable {t : Nat} {m next : Machine σ ε π} {seen : Seen ε π} {p : Nat}

/-! ### What no step changes -/

theorem Step.length (step : Step t m seen next) :
    next.group.providers.length = m.group.providers.length := by
  cases step <;> simp

theorem Step.scope (step : Step t m seen next) :
    (next.group.provider p).scope = (m.group.provider p).scope := by
  cases step <;> simp

theorem Step.reactions (step : Step t m seen next) :
    (next.group.provider p).reactions = (m.group.provider p).reactions := by
  cases step <;> simp

/-! ### The flag, and who is to sweep -/

/-- Whether a thread set the flag and has yet to sweep. -/
def Point.tearing (p : Nat) : Point ε π → Bool
  | .teardown q _ .locking | .teardown q _ .sweeping => q = p
  | _ => false

/-- A teardown sets the flag if it was clear, and sweeps later. No other step has a part in it. -/
theorem Step.teardown_cases (step : Step t m seen next) (known : p < m.group.providers.length) :
    (∃ asker, seen = .flagged p ∧ m.threads t = .teardown p asker .flagging ∧
      next.threads t = .teardown p asker .locking ∧ (m.group.provider p).finished = false ∧
      (next.group.provider p).finished = true) ∨
    (∃ asker outcome calls, seen = .decommissioned p outcome calls ∧
      m.threads t = .teardown p asker .sweeping ∧
      next.threads t = .teardown p asker (.telling outcome) ∧
      (next.group.provider p).finished = (m.group.provider p).finished) ∨
    (seen ≠ .flagged p ∧ seen.decommissions p = false ∧
      (next.threads t).tearing p = (m.threads t).tearing p ∧
      (next.group.provider p).finished = (m.group.provider p).finished) := by
  cases step
  case flag q asker here clear =>
    by_cases same : q = p
    · subst same
      exact Or.inl ⟨asker, rfl, here, by simp, clear, by simp [known]⟩
    · refine Or.inr (Or.inr ⟨by simp [same], rfl, ?_, by simp [same]⟩)
      simp [here, Point.tearing, same]
  case sweep q asker here =>
    by_cases same : q = p
    · subst same
      exact Or.inr (Or.inl ⟨asker, _, _, rfl, here, by simp, by simp⟩)
    · refine Or.inr (Or.inr ⟨by simp, ?_, by simp [here, Point.tearing, same], by simp⟩)
      simp [Seen.decommissions, same]
  all_goals exact Or.inr (Or.inr ⟨by simp, rfl, by simp [*, Point.tearing], by simp⟩)

theorem Step.flagging_of_flagged (step : Step t m (.flagged p) next) :
    ∃ asker, m.threads t = .teardown p asker .flagging := by
  cases step with
  | flag here => exact ⟨_, here⟩

/-! ### The lifecycle -/

/-- The lifecycle is commissioned from inside the cell and decommissioned by a teardown. -/
theorem Step.lifecycle_cases (step : Step t m seen next) (known : p < m.group.providers.length) :
    (seen = .commissioned p ((m.group.provider p).lifecycle.commission m.group.world).1
        ((m.group.provider p).lifecycle.commissionCalls m.group.world) ∧
      m.threads t = .inside p .commissioning ∧
      next.threads t = .inside p
        (.commissioned ((m.group.provider p).lifecycle.commission m.group.world).1) ∧
      (next.group.provider p).lifecycle =
        ((m.group.provider p).lifecycle.commission m.group.world).2.1) ∨
    (∃ asker, seen = .decommissioned p
        ((m.group.provider p).lifecycle.decommission m.group.world).1
        ((m.group.provider p).lifecycle.decommissionCalls m.group.world) ∧
      m.threads t = .teardown p asker .sweeping ∧
      (next.group.provider p).lifecycle =
        ((m.group.provider p).lifecycle.decommission m.group.world).2.1) ∨
    (seen.commissions p = false ∧ seen.decommissions p = false ∧ seen.stageCalls p = [] ∧
      (next.group.provider p).lifecycle = (m.group.provider p).lifecycle) := by
  cases step
  case commission q here =>
    by_cases same : q = p
    · subst same
      exact Or.inl ⟨rfl, here, by simp, by simp [known]⟩
    · refine Or.inr (Or.inr ⟨?_, rfl, ?_, by simp [same]⟩)
      · simp [Seen.commissions, same]
      · simp [Seen.stageCalls, same]
  case sweep q asker here =>
    by_cases same : q = p
    · subst same
      exact Or.inr (Or.inl ⟨asker, rfl, here, by simp [known]⟩)
    · refine Or.inr (Or.inr ⟨rfl, ?_, ?_, by simp [same]⟩)
      · simp [Seen.decommissions, same]
      · simp [Seen.stageCalls, same]
  all_goals exact Or.inr (Or.inr ⟨rfl, rfl, rfl, by simp⟩)

theorem Step.sweeping_of_decommissions (step : Step t m seen next)
    (decommissions : seen.decommissions p = true) :
    ∃ asker, m.threads t = .teardown p asker .sweeping := by
  cases step <;> simp [Seen.decommissions] at decommissions
  case sweep asker here =>
    subst decommissions
    exact ⟨asker, here⟩

theorem Step.commissioning_of_commissions (step : Step t m seen next)
    (commissions : seen.commissions p = true) : m.threads t = .inside p .commissioning := by
  cases step <;> simp [Seen.commissions] at commissions
  case commission here =>
    subst commissions
    exact here

/-! ### The cell -/

/-- The cell is entered when it is empty and free, and it is filled when it is left. -/
theorem Step.cell_cases (step : Step t m seen next) (known : p < m.group.providers.length) :
    (seen = .entered p ∧ next.threads t = .inside p .locking ∧
      (m.group.provider p).provided = none ∧ (next.group.provider p).provided = none ∧
      m.holder (.cell p) = none ∧ next.holder (.cell p) = some t) ∨
    (∃ provision, seen = .filled p provision ∧ m.threads t = .inside p (.leaving provision) ∧
      (next.group.provider p).provided = some provision ∧ next.holder (.cell p) = none) ∨
    ((next.group.provider p).provided = (m.group.provider p).provided ∧
      next.holder (.cell p) = m.holder (.cell p)) := by
  cases step
  case enter q here empty unheld =>
    by_cases same : q = p
    · subst same
      exact Or.inl ⟨rfl, by simp, empty, by simpa using empty, unheld, by simp⟩
    · exact Or.inr (Or.inr ⟨by simp, by simp [Function.update_of_ne, Ne.symm same]⟩)
  case leave q provision here =>
    by_cases same : q = p
    · subst same
      exact Or.inr (Or.inl ⟨provision, rfl, here, by simp [known], by simp⟩)
    · exact Or.inr (Or.inr ⟨by simp [same], by simp [Function.update_of_ne, Ne.symm same]⟩)
  all_goals exact Or.inr (Or.inr ⟨by simp, by simp⟩)

/-! ### Exit hooks -/

/-- The slot is filled from inside the cell, and emptied to finish on the spot. -/
theorem Step.slot_cases (step : Step t m seen next) :
    (∃ q product id provision, m.threads t = .inside q (.noting product id) ∧
      next.threads t = .inside q (.leaving provision) ∧
      ∀ r, (next.group.provider r).hook =
        if q = r ∧ r < m.group.providers.length then some id else (m.group.provider r).hook) ∨
    (∃ q, m.threads t = .withdrawing q ∧
      next.threads t = .dropping q (m.group.provider q).hook ∧
      ∀ r, (next.group.provider r).hook =
        if q = r ∧ r < m.group.providers.length then none else (m.group.provider r).hook) ∨
    (∀ r, (next.group.provider r).hook = (m.group.provider r).hook) := by
  cases step
  case note q product id here =>
    exact Or.inl ⟨q, product, id, ⟨(m.group.provider q).made, .ok product⟩, here, by simp, by simp⟩
  case withdraw q here => exact Or.inr (Or.inl ⟨q, here, by simp, by simp⟩)
  all_goals exact Or.inr (Or.inr (by simp))

/-- A hook is registered from inside the cell. It leaves its registry when it is dropped, to finish
on the spot, or when the registry is drained. -/
theorem Step.registry_cases (step : Step t m seen next) :
    (∃ q host product id, seen = .registered q id ∧
      m.threads t = .inside q (.registering host product) ∧
      next.threads t = .inside q (.noting product id) ∧
      id = ((m.group.registry host).register q).1 ∧
      ∀ other, next.group.registry other =
        if other = host then ((m.group.registry host).register q).2
        else m.group.registry other) ∨
    (∃ q taken, seen = .withdrawn q ∧ m.threads t = .dropping q taken ∧
      next.threads t = .teardown q .finishNow .flagging ∧ next.group = m.group.dropHook q taken) ∨
    (∃ host ran, seen = .drained host ∧
      next.threads t = .firing ran ((m.group.registry host).pending.map Prod.snd) ∧
      ∀ other, next.group.registry other =
        if other = host then { m.group.registry host with pending := [] }
        else m.group.registry other) ∨
    ((∀ q, seen.registers q = false ∧ seen ≠ .withdrawn q) ∧ (∀ host, seen ≠ .drained host) ∧
      ∀ other, next.group.registry other = m.group.registry other) := by
  cases step
  case register q host product id here accepted =>
    obtain ⟨number, registries⟩ := ProviderGroup.registerHook_ok accepted
    exact Or.inl ⟨q, host, product, id, rfl, here, by simp, number, by simpa using registries⟩
  case drop q taken here => exact Or.inr (Or.inl ⟨q, taken, rfl, here, by simp, by simp⟩)
  case drain host here =>
    refine Or.inr (Or.inr (Or.inl ⟨host, (m.group.drainHooks host).1.length, rfl, ?_, ?_⟩))
    · simp [ProviderGroup.drainHooks_fst]
    · exact fun other => ProviderGroup.registry_drainHooks _ host other
  case refuse refused =>
    rw [(ProviderGroup.registerHook_error refused).2]
    exact Or.inr (Or.inr (Or.inr ⟨fun _ => ⟨rfl, by simp⟩, by simp, by simp⟩))
  all_goals exact Or.inr (Or.inr (Or.inr ⟨fun _ => ⟨rfl, by simp⟩, by simp, by simp⟩))

theorem Step.registering_of_registers (step : Step t m seen next)
    (registers : seen.registers p = true) : ∃ host product id, seen = .registered p id ∧
      m.threads t = .inside p (.registering host product) ∧
      next.threads t = .inside p (.noting product id) ∧
      id = ((m.group.registry host).register p).1 ∧
      ∀ other, next.group.registry other =
        if other = host then ((m.group.registry host).register p).2
        else m.group.registry other := by
  rcases step.registry_cases with ⟨q, host, product, id, rfl, here, there, number, registries⟩ |
    ⟨q, _, rfl, -⟩ | ⟨_, _, rfl, -⟩ | ⟨unregisters, -⟩
  · obtain rfl : q = p := by simpa [Seen.registers] using registers
    exact ⟨host, product, id, rfl, here, there, number, registries⟩
  · simp [Seen.registers] at registers
  · simp [Seen.registers] at registers
  · simp [unregisters p] at registers

end ContainerFixture
