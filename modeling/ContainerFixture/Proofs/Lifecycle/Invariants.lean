import ContainerFixture.Proofs.Lifecycle.Bracketing

/-!
# What the stages of a chain keep

A property of the world that every stage keeps, whether its calls succeed or fail, is kept by every
run of calls on a lifecycle (`Lifecycle.Upholds.run`). A stage that keeps every value of a view of
the world leaves that view alone.

A chain is taken apart along its stages: a pass over two chains is a pass over the one and then the
other, and a sweep of two stacks likewise.
-/

namespace ContainerFixture

variable {σ ε ε' π α β ν : Type} {inv : σ → Prop}

namespace Action

theorem bind_of_ok {step : Action σ ε α} {next : α → Action σ ε β} {s after : σ} {a : α}
    (done : step s = (.ok a, after)) : (step >>= next) s = next a after := by
  rw [bind_apply, done]

theorem bind_of_error {step : Action σ ε α} {next : α → Action σ ε β} {s after : σ} {cause : ε}
    (failed : step s = (.error cause, after)) : (step >>= next) s = (.error cause, after) := by
  rw [bind_apply, failed]

/-- The action keeps a property of the state, also when it fails. -/
def Keeps (inv : σ → Prop) (step : Action σ ε α) : Prop := ∀ s, inv s → inv (step s).2

namespace Keeps

theorem pure (a : α) : Keeps inv (Pure.pure a : Action σ ε α) := fun _ before => before

theorem fail (cause : ε) : Keeps inv (Action.fail cause : Action σ ε α) := fun _ before => before

theorem read (view : σ → α) : Keeps inv (Action.read view : Action σ ε α) := fun _ before => before

theorem ofExcept (outcome : Except ε α) : Keeps inv (Action.ofExcept outcome : Action σ ε α) :=
  fun _ before => before

theorem bind {step : Action σ ε α} {next : α → Action σ ε β} (first : step.Keeps inv)
    (rest : ∀ a, (next a).Keeps inv) : (step >>= next).Keeps inv := by
  intro s before
  have between := first s before
  rcases performed : step s with ⟨cause | a, after⟩ <;> rw [performed] at between
  · rw [bind_of_error performed]
    exact between
  · rw [bind_of_ok performed]
    exact rest a after between

theorem mapError {step : Action σ ε α} (f : ε → ε') (keeps : step.Keeps inv) :
    (step.mapError f).Keeps inv := keeps

theorem recover {step : Action σ ε α} (answer? : ε → Option α) (keeps : step.Keeps inv) :
    (step.recover answer?).Keeps inv := by
  intro s before
  have between := keeps s before
  unfold Action.recover
  rcases performed : step s with ⟨cause | a, after⟩ <;> rw [performed] at between
  · dsimp only
    split <;> exact between
  · exact between

end Keeps

end Action

namespace Stage

/-- Every call of the stage keeps a property of the world. -/
structure Keeps (inv : σ → Prop) (stage : Stage σ ε π) : Prop where
  commission : ∀ input, (stage.commission input).Keeps inv
  decommission : ∀ product, (stage.decommission product).Keeps inv

/-- No call of the stage changes what a view shows of the world. -/
def Leaves (view : σ → ν) (stage : Stage σ ε π) : Prop := ∀ v, stage.Keeps fun s => view s = v

/-- What the stage was given is what it produces. -/
def HandsOn (stage : Stage σ ε π) : Prop :=
  ∀ given s product after, stage.commission (some given) s = (.ok product, after) → product = given

end Stage

namespace CommittedStage

/-- What the outcome of a decommissioning adds to the failures of a sweep. -/
def report (key : StageKey) : Except ε Unit → List (StageFailure ε)
  | .ok () => []
  | .error cause => [⟨key, cause⟩]

theorem sweep_cons (newest : CommittedStage σ ε π) (older : List (CommittedStage σ ε π)) (s : σ) :
    sweep (newest :: older) s =
      ((sweep older (newest.stage.decommission newest.product s).2).1 ++
        report newest.key (newest.stage.decommission newest.product s).1,
      (sweep older (newest.stage.decommission newest.product s).2).2) := by
  simp only [sweep]
  cases (newest.stage.decommission newest.product s).1 with
  | ok _ => simp [report]
  | error cause => rfl

theorem sweep_append (newer older : List (CommittedStage σ ε π)) (s : σ) :
    sweep (newer ++ older) s =
      ((sweep older (sweep newer s).2).1 ++ (sweep newer s).1,
        (sweep older (sweep newer s).2).2) := by
  -- The newer stages are undone first, and what they report stands last.
  induction newer generalizing s with
  | nil => simp [sweep]
  | cons newest rest ih => simp only [List.cons_append, sweep_cons, ih, List.append_assoc]

theorem sweep_keeps {stack : List (CommittedStage σ ε π)}
    (keeps : ∀ committed ∈ stack, committed.stage.Keeps inv) {s : σ} (before : inv s) :
    inv (sweep stack s).2 := by
  induction stack generalizing s with
  | nil => exact before
  | cons newest older ih =>
    rw [sweep_cons]
    apply ih fun committed mem => keeps committed (List.mem_cons_of_mem _ mem)
    exact (keeps newest List.mem_cons_self).decommission newest.product s before

/-- A sweep reports failures of the stages on its stack only. -/
theorem mem_stack_of_mem_sweep {stack : List (CommittedStage σ ε π)} {s : σ}
    {failure : StageFailure ε} (reported : failure ∈ (sweep stack s).1) :
    ∃ committed ∈ stack, failure.key = committed.key := by
  induction stack generalizing s with
  | nil => cases reported
  | cons newest older ih =>
    rw [sweep_cons] at reported
    rcases List.mem_append.mp reported with before | last
    · obtain ⟨committed, mem, same⟩ := ih before
      exact ⟨committed, List.mem_cons_of_mem _ mem, same⟩
    · refine ⟨newest, List.mem_cons_self, ?_⟩
      cases outcome : (newest.stage.decommission newest.product s).1 with
      | ok _ => simp [outcome, report] at last
      | error cause =>
        rw [outcome, report, List.mem_singleton] at last
        rw [last]

end CommittedStage

namespace Lifecycle

/-! ### Passes over a chain -/

theorem climb_append (index : Nat) (input : Option π) (stack : List (CommittedStage σ ε π))
    (front rest : List (Stage σ ε π)) (s : σ) :
    climb index input stack (front ++ rest) s =
      match climb index input stack front s with
      | (.ok product, stack, s) => climb (index + front.length) product stack rest s
      | (.error failure, stack, s) => (.error failure, stack, s) := by
  -- What the front leaves on the stack is what the rest starts from, wherever the front began.
  induction front generalizing index input stack s with
  | nil => rfl
  | cons stage front ih =>
    simp only [List.cons_append, climb]
    rcases stage.commission input s with ⟨cause | product, after⟩
    · rfl
    · simp only [ih, List.length_cons, Nat.add_assoc, Nat.add_comm 1]

theorem climb_keeps {stages : List (Stage σ ε π)} (keeps : ∀ stage ∈ stages, stage.Keeps inv)
    (index : Nat) (input : Option π) (stack : List (CommittedStage σ ε π)) {s : σ}
    (before : inv s) : inv (climb index input stack stages s).2.2 := by
  induction stages generalizing index input stack s with
  | nil => exact before
  | cons stage rest ih =>
    have between := (keeps stage List.mem_cons_self).commission input s before
    simp only [climb]
    rcases commissioned : stage.commission input s with ⟨cause | product, after⟩ <;>
      rw [commissioned] at between
    · exact between
    · exact ih (fun later mem => keeps later (List.mem_cons_of_mem _ mem)) _ _ _ between

/-- A pass puts stages of its chain on the stack, each at its own place. -/
theorem climb_stack (index : Nat) (input : Option π) (stack : List (CommittedStage σ ε π))
    (stages : List (Stage σ ε π)) (s : σ) :
    ∃ added, (climb index input stack stages s).2.1 = added ++ stack ∧ ∀ committed ∈ added,
      committed.stage ∈ stages ∧ index ≤ committed.index ∧
        committed.index < index + stages.length := by
  induction stages generalizing index input stack s with
  | nil => exact ⟨[], rfl, by simp⟩
  | cons stage rest ih =>
    simp only [climb]
    rcases stage.commission input s with ⟨cause | product, after⟩
    · exact ⟨[], rfl, by simp⟩
    · -- The later stages come to lie on top of this one.
      obtain ⟨added, grown, placed⟩ :=
        ih (index + 1) (some product) (⟨index, stage, product⟩ :: stack) after
      refine ⟨added ++ [⟨index, stage, product⟩], by simp [grown], fun committed mem => ?_⟩
      rcases List.mem_append.mp mem with later | first
      · obtain ⟨inRest, above, below⟩ := placed committed later
        refine ⟨List.mem_cons_of_mem _ inRest, by omega, ?_⟩
        rw [List.length_cons]
        omega
      · rw [List.mem_singleton.mp first]
        simp

/-- A pass that comes through has put every stage of its chain on the stack, in order. -/
theorem climb_whole {index : Nat} {input product : Option π}
    {stack stack' : List (CommittedStage σ ε π)} {stages : List (Stage σ ε π)} {s s' : σ}
    (climbed : climb index input stack stages s = (.ok product, stack', s')) :
    stack'.reverse.map CommittedStage.stage =
      stack.reverse.map CommittedStage.stage ++ stages := by
  induction stages generalizing index input stack s with
  | nil =>
    cases climbed
    simp
  | cons stage rest ih =>
    simp only [climb] at climbed
    rcases commissioned : stage.commission input s with ⟨cause | own, after⟩
    · rw [commissioned] at climbed
      cases climbed
    · rw [commissioned] at climbed
      rw [ih climbed]
      simp

/-- With nothing committed, a commissioning leaves nothing committed or all of its chain. -/
theorem commission_cases {l : Lifecycle σ ε π} (free : l.committed = []) (s : σ) :
    (∃ cause after, l.commission s = (.error cause, l, after)) ∨
      ∃ product stack after, l.commission s = (.ok product, { l with committed := stack }, after) ∧
        stack.reverse.map CommittedStage.stage = l.stages := by
  have unchanged : { l with committed := [] } = l := by
    cases l
    cases free
    rfl
  simp only [commission, free, List.isEmpty_nil, if_true]
  rcases climbed : climb 0 none [] l.stages s with ⟨failure | product, stack, after⟩
  · exact .inl ⟨_, _, by rw [unchanged]⟩
  · exact .inr ⟨product, stack, after, rfl, by simpa using climb_whole climbed⟩

theorem climb_failure {index : Nat} {input : Option π} {stack stack' : List (CommittedStage σ ε π)}
    {stages : List (Stage σ ε π)} {s s' : σ} {failure : StageFailure ε}
    (stopped : climb index input stack stages s = (.error failure, stack', s')) :
    index ≤ failure.key.index ∧ failure.key.index < index + stages.length := by
  induction stages generalizing index input stack s with
  | nil => cases stopped
  | cons stage rest ih =>
    simp only [climb] at stopped
    rcases commissioned : stage.commission input s with ⟨cause | product, after⟩
    · rw [commissioned] at stopped
      cases stopped
      simp
    · rw [commissioned] at stopped
      have bounds := ih stopped
      rw [List.length_cons]
      omega

theorem climb_handsOn {index : Nat} {given : π} {stack stack' : List (CommittedStage σ ε π)}
    {stages : List (Stage σ ε π)} (handsOn : ∀ stage ∈ stages, stage.HandsOn) {s s' : σ}
    {product : Option π} (climbed : climb index (some given) stack stages s =
      (.ok product, stack', s')) : product = some given := by
  induction stages generalizing index stack s with
  | nil =>
    cases climbed
    rfl
  | cons stage rest ih =>
    simp only [climb] at climbed
    rcases commissioned : stage.commission (some given) s with ⟨cause | own, after⟩
    · rw [commissioned] at climbed
      cases climbed
    · rw [commissioned] at climbed
      have same := handsOn stage List.mem_cons_self given s own after commissioned
      subst same
      exact ih (fun later mem => handsOn later (List.mem_cons_of_mem _ mem)) climbed

/-- What every stage keeps, given a product that is fit for it and making one of its own, a pass
keeps. -/
theorem climb_fit {fit : π → Prop} {stages : List (Stage σ ε π)}
    (keeps : ∀ stage ∈ stages, ∀ given, fit given → ∀ s, inv s →
      inv (stage.commission (some given) s).2 ∧
        ∀ product, (stage.commission (some given) s).1 = .ok product → fit product)
    (index : Nat) {given : π} (fits : fit given) (stack : List (CommittedStage σ ε π)) {s : σ}
    (before : inv s) :
    inv (climb index (some given) stack stages s).2.2 ∧
      ∀ product, (climb index (some given) stack stages s).1 = .ok product →
        ∃ last, product = some last ∧ fit last := by
  induction stages generalizing index given stack s with
  | nil =>
    refine ⟨before, fun product done => ?_⟩
    cases done
    exact ⟨given, rfl, fits⟩
  | cons stage rest ih =>
    obtain ⟨between, made⟩ := keeps stage List.mem_cons_self given fits s before
    simp only [climb]
    rcases commissioned : stage.commission (some given) s with ⟨cause | own, after⟩ <;>
      rw [commissioned] at between made
    · exact ⟨between, fun product done => by cases done⟩
    · exact ih (fun later mem => keeps later (List.mem_cons_of_mem _ mem)) (index + 1)
        (made own rfl) (⟨index, stage, own⟩ :: stack) between

/-! ### Runs -/

/-- The invariant of a run: the committed stages are stages of the chain, and the world has a
property that the chain keeps. -/
structure Upholds (inv : σ → Prop) (l : Lifecycle σ ε π) (s : σ) : Prop where
  keeps : ∀ stage ∈ l.stages, stage.Keeps inv
  committed : ∀ committed ∈ l.committed, committed.stage ∈ l.stages
  holds : inv s

theorem Upholds.commission {l : Lifecycle σ ε π} {s : σ} (upheld : l.Upholds inv s) :
    (l.commission s).2.1.Upholds inv (l.commission s).2.2 := by
  by_cases free : l.committed = []
  · have after := climb_keeps upheld.keeps 0 none [] upheld.holds
    obtain ⟨added, grown, placed⟩ := climb_stack 0 none [] l.stages s
    rw [List.append_nil] at grown
    simp only [Lifecycle.commission, free, List.isEmpty_nil, if_true]
    rcases pass : climb 0 none [] l.stages s with ⟨failure | product, stack, reached⟩ <;>
      rw [pass] at after grown <;> subst grown
    · -- The unwinding undoes stages of the chain only, each of which keeps the property.
      refine ⟨upheld.keeps, by simp, ?_⟩
      exact CommittedStage.sweep_keeps (fun c mem => upheld.keeps _ (placed c mem).1) after
    · exact ⟨upheld.keeps, fun c mem => (placed c mem).1, after⟩
  · rw [commission_taken free]
    exact upheld

theorem Upholds.decommission {l : Lifecycle σ ε π} {s : σ} (upheld : l.Upholds inv s) :
    (l.decommission s).2.1.Upholds inv (l.decommission s).2.2 := by
  refine ⟨upheld.keeps, by simp, ?_⟩
  exact CommittedStage.sweep_keeps (fun c mem => upheld.keeps _ (upheld.committed c mem))
    upheld.holds

theorem Upholds.run {l : Lifecycle σ ε π} {s : σ} (upheld : l.Upholds inv s)
    (calls : List LifecycleCall) : (l.run s calls).1.Upholds inv (l.run s calls).2 := by
  induction calls using List.reverseRecOn with
  | nil => exact upheld
  | append_singleton calls call ih =>
    rw [run_concat]
    cases call with
    | commission => exact ih.commission
    | decommission => exact ih.decommission

end Lifecycle

end ContainerFixture
