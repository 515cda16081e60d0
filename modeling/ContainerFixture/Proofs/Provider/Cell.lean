import ContainerFixture.Proofs.Provider.Teardown

/-!
# Computing once

The only provision of a provider is made by the one thread that is inside its cell. What such a
thread knows at each place is `Point.Known`: how often the provider was commissioned and its exit
hook registered so far, and what the provision is. No other thread can make that untrue, because it
would need a guard that the thread holds. `CellInvariant` adds what holds while nobody is inside.
-/

namespace ContainerFixture

variable {σ ε π : Type}

/-- A provision that the cell is filled with: what the commission answered, or a failure because the
provider was finished first, or because its host took no hook. No call that was turned away has a
share in it. -/
structure Settled (p : Nat) (trace : List (Seen ε π)) (m : Machine σ ε π)
    (provision : Provision ε π) : Prop where
  origin : (∃ calls, .commissioned p provision.outcome calls ∈ trace) ∨
    .abandoned p provision ∈ trace ∨
    ∃ reason, (m.group.provider p).scope = .global (.refusing reason) ∧
      provision.outcome = .error (.exitHook reason)
  serial_lt : provision.serial < (m.group.provider p).made
  unshared : ∀ other, .turnedAway p other ∈ trace → other.serial ≠ provision.serial

/-- What a thread inside the cell of a provider knows. -/
def Provisioning.Known (p : Nat) (trace : List (Seen ε π)) (m : Machine σ ε π) :
    Provisioning ε π → Prop
  | .locking | .rechecking =>
    trace.countP (Seen.commissions p) = 0 ∧ trace.countP (Seen.registers p) = 0
  | .commissioning =>
    trace.countP (Seen.commissions p) = 0 ∧ trace.countP (Seen.registers p) = 0 ∧
      trace.countP (Seen.decommissions p) = 0
  | .commissioned outcome =>
    trace.countP (Seen.commissions p) = 1 ∧ trace.countP (Seen.registers p) = 0 ∧
      ∃ calls, .commissioned p outcome calls ∈ trace
  | .claiming host product | .keeping host product | .registering host product =>
    trace.countP (Seen.commissions p) = 1 ∧ trace.countP (Seen.registers p) = 0 ∧
      (m.group.provider p).scope = .global host ∧
      ∃ calls, .commissioned p (.ok product) calls ∈ trace
  | .noting product id =>
    trace.countP (Seen.commissions p) = 1 ∧ trace.countP (Seen.registers p) = 1 ∧
      .registered p id ∈ trace ∧ ∃ calls, .commissioned p (.ok product) calls ∈ trace
  | .leaving provision =>
    trace.countP (Seen.commissions p) ≤ 1 ∧ trace.countP (Seen.registers p) ≤ 1 ∧
      Settled p trace m provision

/-- What a thread knows about a provider. -/
def Point.Known (p : Nat) (trace : List (Seen ε π)) (m : Machine σ ε π) : Point ε π → Prop
  | .inside q progress => q = p → progress.Known p trace m
  | .teardown q (.refusal cause) _ => q = p →
    trace.countP (Seen.commissions p) = 1 ∧ trace.countP (Seen.registers p) = 0 ∧
      ∃ reason, (m.group.provider p).scope = .global (.refusing reason) ∧ cause = .exitHook reason
  | .teardown q .finish _ => q = p → (m.group.provider p).scope = .owned
  | .answering q provision => q = p → (m.group.provider p).provided = some provision
  | .dropping q (some id) => q = p → .registered p id ∈ trace
  | _ => True

/-- What holds of the cell of a provider between steps. -/
structure CellInvariant (p : Nat) (trace : List (Seen ε π)) (m : Machine σ ε π) : Prop where
  known : ∀ t, (m.threads t).Known p trace m
  -- Nothing was done before the cell was entered.
  unopened : (m.group.provider p).provided = none → m.holder (.cell p) = none →
    trace.countP (Seen.commissions p) = 0 ∧ trace.countP (Seen.registers p) = 0
  occupied : m.holder (.cell p) ≠ none → (m.group.provider p).provided = none
  filled : ∀ provision, (m.group.provider p).provided = some provision →
    trace.countP (Seen.commissions p) ≤ 1 ∧ trace.countP (Seen.registers p) ≤ 1 ∧
      Settled p trace m provision
  -- Every call that got past its first look at the flag returns what the cell holds.
  returned : ∀ provision, .provided p provision ∈ trace →
    (m.group.provider p).provided = some provision
  turned_away : ∀ provision, .turnedAway p provision ∈ trace →
    provision.serial < (m.group.provider p).made
  noted : ∀ id, (m.group.provider p).hook = some id → .registered p id ∈ trace

theorem Point.Known.counts {p : Nat} {trace : List (Seen ε π)} {m : Machine σ ε π}
    {point : Point ε π} (known : point.Known p trace m) (inside : .cell p ∈ point.held) :
    trace.countP (Seen.commissions p) ≤ 1 ∧ trace.countP (Seen.registers p) ≤ 1 := by
  cases point with
  | inside q progress =>
    have same : q = p := by cases progress <;> simp_all [held, Provisioning.held]
    have before := known same
    cases progress <;> simp only [Provisioning.Known] at before <;> omega
  | teardown q asker progress =>
    cases asker with
    | refusal cause =>
      have same : q = p := by cases progress <;> simp_all [held, Asker.held, Teardown.held]
      obtain ⟨once, unhooked, -⟩ := known same
      omega
    | finish | finishNow | exitHook =>
      cases progress <;> simp [held, Asker.held, Teardown.held] at inside
  | _ => simp [held] at inside

/-- A provider is commissioned at most once, and its exit hook is registered at most once. -/
theorem CellInvariant.counts {p : Nat} {trace : List (Seen ε π)} {m : Machine σ ε π}
    (cell : CellInvariant p trace m) (guarded : Guarded m) :
    trace.countP (Seen.commissions p) ≤ 1 ∧ trace.countP (Seen.registers p) ≤ 1 := by
  cases holder : m.holder (.cell p) with
  | some t => exact (cell.known t).counts ((guarded t _).mpr holder)
  | none =>
    cases full : (m.group.provider p).provided with
    | some provision =>
      obtain ⟨once, hooked, -⟩ := cell.filled provision full
      exact ⟨once, hooked⟩
    | none =>
      obtain ⟨unmade, unhooked⟩ := cell.unopened full holder
      omega

/-! ### What a step does to provisions -/

section
variable {t : Nat} {m next : Machine σ ε π} {seen : Seen ε π} {p : Nat}

/-- A call that is turned away makes a provision of its own, and serials are given out once. -/
theorem Step.made_cases (step : Step t m seen next) (known : p < m.group.providers.length) :
    (∃ provision, seen = .turnedAway p provision ∧
      provision.serial = (m.group.provider p).made ∧
      provision.outcome = .error .alreadyFinished ∧ (m.group.provider p).finished = true ∧
      (next.group.provider p).made = (m.group.provider p).made + 1) ∨
    ((∀ provision, seen ≠ .turnedAway p provision) ∧
      (m.group.provider p).made ≤ (next.group.provider p).made) := by
  cases step
  case turnAway q here set =>
    by_cases same : q = p
    · subst same
      exact Or.inl ⟨_, rfl, rfl, rfl, set, by simp [known]⟩
    · exact Or.inr ⟨by simp [same], by simp [same]⟩
  all_goals
    refine Or.inr ⟨by simp, ?_⟩
    simp
    try split <;> omega

/-- A commission and a registration are made from inside the cell. -/
theorem Step.inside_of_counted (step : Step t m seen next)
    (counted : seen.commissions p = true ∨ seen.registers p = true) :
    .cell p ∈ (m.threads t).held := by
  rcases counted with commissions | registers
  · rw [step.commissioning_of_commissions commissions]
    simp [Point.held, Provisioning.held]
  · obtain ⟨host, product, id, -, here, -⟩ := step.registering_of_registers registers
    simp [here, Point.held, Provisioning.held]

theorem Settled.later {trace : List (Seen ε π)} {provision : Provision ε π}
    (settled : Settled p trace m provision) (step : Step t m seen next)
    (known : p < m.group.providers.length) : Settled p (trace ++ [seen]) next provision := by
  have grown : (m.group.provider p).made ≤ (next.group.provider p).made := by
    rcases step.made_cases known with ⟨_, -, -, -, -, more⟩ | ⟨-, more⟩ <;> omega
  refine ⟨?_, by have := settled.serial_lt; omega, fun other shown => ?_⟩
  · rw [step.scope]
    rcases settled.origin with ⟨calls, commissioned⟩ | abandoned | refused
    · exact Or.inl ⟨calls, by simp [commissioned]⟩
    · exact Or.inr (Or.inl (by simp [abandoned]))
    · exact Or.inr (Or.inr refused)
  · rcases List.mem_append.mp shown with before | latest
    · exact settled.unshared other before
    · rcases step.made_cases known with ⟨provision, rfl, serial, -⟩ | ⟨none, -⟩
      · have below := settled.serial_lt
        obtain rfl : other = provision := by simpa using latest
        omega
      · exact absurd (List.mem_singleton.mp latest).symm (none other)

/-- What a thread knows stays true while others take steps, since they hold none of its guards. -/
theorem Point.Known.later {trace : List (Seen ε π)} {point : Point ε π}
    (held : point.Known p trace m) (step : Step t m seen next)
    (known : p < m.group.providers.length)
    (uncounted : .cell p ∈ point.held → seen.commissions p = false ∧ seen.registers p = false)
    (unswept : point = .inside p .commissioning → seen.decommissions p = false)
    (kept : ∀ provision, (m.group.provider p).provided = some provision →
      (next.group.provider p).provided = some provision) :
    point.Known p (trace ++ [seen]) next := by
  cases point with
  | inside q progress =>
    intro same
    subst same
    have before := held rfl
    have counts := uncounted (by cases progress <;> simp [Point.held, Provisioning.held])
    cases progress with
    | locking | rechecking => simpa [Provisioning.Known, counts] using before
    | commissioning =>
      have quiet := unswept rfl
      simpa [Provisioning.Known, counts, quiet] using before
    | commissioned outcome =>
      obtain ⟨once, unhooked, calls, shown⟩ := before
      exact ⟨by simp [counts, once], by simp [counts, unhooked], calls, by simp [shown]⟩
    | claiming host product | keeping host product | registering host product =>
      obtain ⟨once, unhooked, scope, calls, shown⟩ := before
      exact ⟨by simp [counts, once], by simp [counts, unhooked], by rw [step.scope, scope], calls,
        by simp [shown]⟩
    | noting product id =>
      obtain ⟨once, hooked, registered, calls, shown⟩ := before
      exact ⟨by simp [counts, once], by simp [counts, hooked], by simp [registered], calls,
        by simp [shown]⟩
    | leaving provision =>
      obtain ⟨once, hooked, settled⟩ := before
      exact ⟨by simp [counts, once], by simp [counts, hooked], settled.later step known⟩
  | teardown q asker progress =>
    cases asker with
    | refusal cause =>
      intro same
      subst same
      obtain ⟨once, unhooked, refused⟩ := held rfl
      have counts := uncounted (by simp [Point.held, Asker.held])
      exact ⟨by simp [counts, once], by simp [counts, unhooked], by rwa [step.scope]⟩
    | finish =>
      intro same
      rw [step.scope]
      exact held same
    | finishNow | exitHook => trivial
  | answering q provision => exact fun same => kept provision (held same)
  | dropping q taken =>
    cases taken with
    | none => trivial
    | some id => exact fun same => List.mem_append_left _ (held same)
  | _ => trivial

/-- A provision that a step makes inside the cell. -/
theorem CellInvariant.settled {trace : List (Seen ε π)} {provision : Provision ε π}
    (cell : CellInvariant p trace m)
    (origin : (∃ calls, .commissioned p provision.outcome calls ∈ trace ++ [seen]) ∨
      .abandoned p provision ∈ trace ++ [seen] ∨
      ∃ reason, (next.group.provider p).scope = .global (.refusing reason) ∧
        provision.outcome = .error (.exitHook reason))
    (serial : provision.serial = (m.group.provider p).made)
    (made : (next.group.provider p).made = (m.group.provider p).made + 1)
    (unseen : ∀ other, seen ≠ .turnedAway p other) :
    Settled p (trace ++ [seen]) next provision := by
  refine ⟨origin, by omega, fun other shown => ?_⟩
  rcases List.mem_append.mp shown with before | latest
  · have below := cell.turned_away other before
    omega
  · exact absurd (List.mem_singleton.mp latest).symm (unseen other)

theorem Step.answering_of_provided {provision : Provision ε π}
    (step : Step t m (.provided p provision) next) : m.threads t = .answering p provision := by
  cases step
  assumption

/-- What the cell holds, it keeps. -/
theorem Step.provided_kept {trace : List (Seen ε π)} {provision : Provision ε π}
    (step : Step t m seen next) (known : p < m.group.providers.length) (guarded : Guarded m)
    (cell : CellInvariant p trace m)
    (full : (m.group.provider p).provided = some provision) :
    (next.group.provider p).provided = some provision := by
  rcases step.cell_cases known with ⟨-, -, empty, -⟩ | ⟨_, -, here, -⟩ | ⟨same, -⟩
  · simp [empty] at full
  · have holder : m.holder (.cell p) = some t :=
      (guarded t _).mp (by simp [here, Point.held, Provisioning.held])
    simp [cell.occupied (by simp [holder])] at full
  · rw [same, full]

/-- A thread outside the cell makes no step that counts. -/
theorem Step.uncounted (step : Step t m seen next) (guarded : Guarded m)
    (outside : m.holder (.cell p) ≠ some t) :
    seen.commissions p = false ∧ seen.registers p = false := by
  have impossible (counted : seen.commissions p = true ∨ seen.registers p = true) : False :=
    outside ((guarded t _).mp (step.inside_of_counted counted))
  exact ⟨Bool.eq_false_iff.mpr fun commissions => impossible (Or.inl commissions),
    Bool.eq_false_iff.mpr fun registers => impossible (Or.inr registers)⟩

/-- What a thread knows of the place that it leaves is still true after its step, unless the step
counts. -/
theorem Step.still_known {trace : List (Seen ε π)} (step : Step t m seen next)
    (known : p < m.group.providers.length) (guarded : Guarded m) (cell : CellInvariant p trace m)
    (uncommissioned : seen.commissions p = false) (unregistered : seen.registers p = false) :
    (m.threads t).Known p (trace ++ [seen]) next := by
  refine (cell.known t).later step known (fun _ => ⟨uncommissioned, unregistered⟩) (fun here => ?_)
    fun provision => step.provided_kept known guarded cell
  refine Bool.eq_false_iff.mpr fun decommissions => ?_
  obtain ⟨asker, elsewhere⟩ := step.sweeping_of_decommissions decommissions
  simp [here] at elsewhere

/-- A thread that moves on inside the cell knows what its new place says. -/
theorem Step.known {trace : List (Seen ε π)} (step : Step t m seen next)
    (known : p < m.group.providers.length) (guarded : Guarded m) (phase : TeardownPhase p trace m)
    (cell : CellInvariant p trace m) : (next.threads t).Known p (trace ++ [seen]) next := by
  have still := step.still_known known guarded cell
  have before := cell.known t
  cases step <;> simp only [Machine.threads_move, Function.update_self]
  -- On the way to the cell and out of it.
  case callFinish here known scope =>
    rintro rfl
    simpa using scope
  case share here full =>
    rintro rfl
    simpa using full
  case enter here empty unheld =>
    rintro rfl
    simpa [Provisioning.Known, Seen.commissions, Seen.registers] using cell.unopened empty unheld
  case leave here =>
    rintro rfl
    simp [known]
  -- The commission section. Only the commission itself counts.
  case lock here unheld => exact fun same => (here ▸ still rfl rfl) same
  case begin here clear =>
    rintro rfl
    obtain ⟨unmade, unhooked⟩ := (here ▸ still rfl rfl) rfl
    exact ⟨unmade, unhooked, by simp [phase.unswept_of_clear clear, Seen.decommissions]⟩
  case commission q here =>
    rintro rfl
    obtain ⟨unmade, unhooked, -⟩ := (here ▸ before) rfl
    exact ⟨by simp [unmade, Seen.commissions], by simp [unhooked, Seen.registers],
      (m.group.provider q).lifecycle.commissionCalls m.group.world, by simp⟩
  case succeedGlobal product host here scope =>
    rintro rfl
    obtain ⟨once, unhooked, commissioned⟩ := (here ▸ still rfl rfl) rfl
    exact ⟨once, unhooked, by simpa using scope, commissioned⟩
  -- The exit hook.
  case claim here unheld => exact fun same => (here ▸ still rfl rfl) same
  case keep here needed => exact fun same => (here ▸ still rfl rfl) same
  case register here accepted =>
    rintro rfl
    obtain ⟨once, unhooked, -, calls, shown⟩ := (here ▸ before) rfl
    exact ⟨by simp [once, Seen.commissions], by simp [unhooked, Seen.registers], by simp, calls,
      by simp [shown]⟩
  case withdraw q here =>
    cases hooked : (m.group.provider q).hook with
    | none => trivial
    | some id =>
      rintro rfl
      exact List.mem_append_left _ (cell.noted id hooked)
  case refuse reason here refused =>
    rintro rfl
    obtain ⟨once, unhooked, scope, -⟩ := (here ▸ still rfl rfl) rfl
    obtain ⟨rfl, -⟩ := ProviderGroup.registerHook_error refused
    exact ⟨once, unhooked, reason, scope, rfl⟩
  -- The provision is made, which no other step inside the cell does.
  case abandon here set =>
    rintro rfl
    obtain ⟨unmade, unhooked⟩ := (here ▸ still rfl rfl) rfl
    exact ⟨by omega, by omega, cell.settled (Or.inr (Or.inl (by simp))) rfl (by simp [known])
      (by simp)⟩
  case fail here | succeed here scope =>
    rintro rfl
    obtain ⟨once, unhooked, commissioned⟩ := (here ▸ still rfl rfl) rfl
    exact ⟨by omega, by omega, cell.settled (Or.inl commissioned) (by simp [known])
      (by simp [known]) (by simp)⟩
  case keepNone here needless =>
    rintro rfl
    obtain ⟨once, unhooked, -, commissioned⟩ := (here ▸ still rfl rfl) rfl
    exact ⟨by omega, by omega, cell.settled (Or.inl commissioned) rfl (by simp [known]) (by simp)⟩
  case note here =>
    rintro rfl
    obtain ⟨once, hooked, -, commissioned⟩ := (here ▸ still rfl rfl) rfl
    exact ⟨by omega, by omega, cell.settled (Or.inl commissioned) (by simp) (by simp [known])
      (by simp)⟩
  case refusedDown here =>
    rintro rfl
    obtain ⟨once, unhooked, reason, scope, rfl⟩ := (here ▸ still rfl rfl) rfl
    exact ⟨by omega, by omega,
      cell.settled (Or.inr (Or.inr ⟨reason, scope, rfl⟩)) rfl (by simp [known]) (by simp)⟩
  -- What is known in a teardown does not depend on how far it is.
  case flag q asker here clear | flagged q asker here set | lockDown q asker here unheld |
    sweep q asker here | tell q asker outcome here =>
    have same := here ▸ still rfl rfl
    cases asker <;> exact same
  all_goals trivial

theorem Step.cellInvariant {trace : List (Seen ε π)} (step : Step t m seen next)
    (known : p < m.group.providers.length) (guarded : Guarded m) (phase : TeardownPhase p trace m)
    (cell : CellInvariant p trace m) : CellInvariant p (trace ++ [seen]) next where
  known := by
    apply step.forall_threads (Point.Known p (trace ++ [seen]) next)
      (step.known known guarded phase cell)
    intro u other
    refine (cell.known u).later step known (fun inside => ?_) (fun here => ?_)
      fun provision => step.provided_kept known guarded cell
    · refine step.uncounted guarded fun holder => other ?_
      exact guarded.unique ((guarded t _).mpr holder) inside
    · -- The lifecycle is held there, and a sweep holds it too.
      refine Bool.eq_false_iff.mpr fun sweeps => other ?_
      obtain ⟨asker, there⟩ := step.sweeping_of_decommissions sweeps
      have held : .lifecycle p ∈ (m.threads t).held := by simp [there, Point.held, Teardown.held]
      exact guarded.unique held (by simp [here, Point.held, Provisioning.held])
  unopened empty free := by
    -- Nobody is inside before the step, so that it does not count.
    rcases step.cell_cases known with ⟨-, -, -, -, -, holder⟩ | ⟨_, -, -, full, -⟩ | ⟨same, kept⟩
    · simp [holder] at free
    · simp [full] at empty
    · rw [same] at empty
      rw [kept] at free
      have counts := step.uncounted (p := p) guarded (by simp [free])
      simpa [counts] using cell.unopened empty free
  occupied held := by
    rcases step.cell_cases known with ⟨-, -, -, empty, -⟩ | ⟨_, -, -, -, free⟩ | ⟨same, kept⟩
    · exact empty
    · exact absurd free held
    · rw [kept] at held
      rw [same, cell.occupied held]
  filled provision full := by
    rcases step.cell_cases known with ⟨-, -, -, empty, -⟩ | ⟨v, rfl, here, filled, -⟩ | ⟨same, -⟩
    · simp [empty] at full
    · -- The thread that leaves the cell knows what it fills it with.
      obtain rfl : v = provision := by simpa [filled] using full
      obtain ⟨once, hooked, settled⟩ := (here ▸ cell.known t) rfl
      exact ⟨by simpa [Seen.commissions] using once, by simpa [Seen.registers] using hooked,
        settled.later step known⟩
    · rw [same] at full
      obtain ⟨once, hooked, settled⟩ := cell.filled provision full
      have counts := step.uncounted (p := p) guarded fun holder => by
        simp [cell.occupied (by simp [holder])] at full
      exact ⟨by simpa [counts] using once, by simpa [counts] using hooked, settled.later step known⟩
  returned provision shown := by
    apply step.provided_kept known guarded cell
    rcases List.mem_append.mp shown with before | latest
    · exact cell.returned provision before
    · obtain rfl := List.mem_singleton.mp latest
      exact (step.answering_of_provided ▸ cell.known t) rfl
  turned_away provision shown := by
    rcases step.made_cases known with ⟨v, rfl, serial, -, -, made⟩ | ⟨none, grown⟩
    · rcases List.mem_append.mp shown with before | latest
      · have below := cell.turned_away provision before
        omega
      · obtain rfl : provision = v := by simpa using latest
        omega
    · rcases List.mem_append.mp shown with before | latest
      · exact Nat.lt_of_lt_of_le (cell.turned_away provision before) grown
      · exact absurd (List.mem_singleton.mp latest).symm (none provision)
  noted id hooked := by
    apply List.mem_append_left
    rcases step.slot_cases with ⟨q, product, latest, _, here, -, hooks⟩ | ⟨q, -, -, hooks⟩ | hooks
    · rw [hooks] at hooked
      split at hooked
      · rename_i place
        obtain ⟨rfl, -⟩ := place
        obtain rfl : latest = id := by simpa using hooked
        obtain ⟨-, -, registered, -⟩ := (here ▸ cell.known t) rfl
        exact registered
      · exact cell.noted id hooked
    · rw [hooks] at hooked
      split at hooked
      · simp at hooked
      · exact cell.noted id hooked
    · exact cell.noted id ((hooks p).symm.trans hooked)

end

section
variable {world : σ} {chains : List (List (Stage σ ε π) × Scope)} {trace : List (Seen ε π)}
  {m : Machine σ ε π} {p : Nat}

theorem Run.cellInvariant (run : Run (.atRest (.ofChains world chains)) trace m)
    (known : p < chains.length) : CellInvariant p trace m := by
  induction run with
  | refl =>
    have unused := ProviderGroup.provider_ofChains world known
    constructor <;> simp [Machine.atRest, unused, Point.Known]
  | step before step ih =>
    exact step.cellInvariant (by rwa [before.length]) before.guarded (before.teardownPhase known) ih

end

end ContainerFixture
