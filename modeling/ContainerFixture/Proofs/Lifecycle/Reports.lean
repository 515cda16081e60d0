import ContainerFixture.Proofs.Lifecycle.Invariants

/-!
# What a lifecycle reports

The answers of a lifecycle against the outcomes of its stages. How the stages fare is told without
the lifecycle: `Ascent` is a commissioning of stages that comes through, `Descent` a decommissioning
of them with its outcomes, good or bad.

## Main result

`Lifecycle.run_told`: after any run of calls, the answer of the next one names the failures that
there were, each under its key, and no others.

## Proof strategy

A sweep puts failures into a map ordered by key (`gather`). As it goes from the newest stage to the
oldest, each lands in front of those before it, so no key meets another. What is listed determines
the list (`Reports.unique`), which gives the directions from the stages to the answers.
-/

namespace ContainerFixture

variable {σ ε π : Type}

/-- Stages commissioned in order, each given the product of the one before, with what they produced.
-/
inductive Ascent : Option π → List (Stage σ ε π) → σ → List π → σ → Prop where
  | nil (input : Option π) (s : σ) : Ascent input [] s [] s
  | cons {input : Option π} {stage : Stage σ ε π} {stages : List (Stage σ ε π)} {s middle last : σ}
      {product : π} {products : List π} (made : stage.commission input s = (.ok product, middle))
      (rest : Ascent (some product) stages middle products last) :
    Ascent input (stage :: stages) s (product :: products) last

/-- Stages decommissioned from the last to the first, with the outcome of each. -/
inductive Descent : List (Stage σ ε π) → List π → σ → List (Except ε Unit) → σ → Prop where
  | nil (s : σ) : Descent [] [] s [] s
  | cons {stage : Stage σ ε π} {stages : List (Stage σ ε π)} {product : π} {products : List π}
      {s middle last : σ} {outcome : Except ε Unit} {outcomes : List (Except ε Unit)}
      (rest : Descent stages products s outcomes middle)
      (released : stage.decommission product middle = (outcome, last)) :
    Descent (stage :: stages) (product :: products) s (outcome :: outcomes) last

/-- The failures among the outcomes of stages, under the places and names of these. -/
structure Reports (stages : List (Stage σ ε π)) (outcomes : List (Except ε Unit))
    (failures : List (StageFailure ε)) : Prop where
  listed : ∀ place name cause, ⟨⟨place, name⟩, cause⟩ ∈ failures ↔
    ∃ stage, stages[place]? = some stage ∧ stage.name = name ∧
      outcomes[place]? = some (.error cause)
  ordered : failures.Pairwise fun a b => a.key.index < b.key.index
  none_iff : failures = [] ↔ ∀ outcome ∈ outcomes, outcome = .ok ()

/-- A commissioning that fails at a stage: those before it came through, and they are undone. -/
inductive Undone (stages : List (Stage σ ε π)) (s : σ) :
    StageKey → ε → List (StageFailure ε) → Prop where
  | intro {front back : List (Stage σ ε π)} {stage : Stage σ ε π} {products : List π}
      {reached middle last : σ} {cause : ε} {outcomes : List (Except ε Unit)}
      {unwinding : List (StageFailure ε)} (chain : stages = front ++ stage :: back)
      (climbed : Ascent none front s products reached)
      (failed : stage.commission products.getLast? reached = (.error cause, middle))
      (swept : Descent front products middle outcomes last)
      (reports : Reports front outcomes unwinding) :
    Undone stages s ⟨front.length, stage.name⟩ cause unwinding

/-! ### A map of failures -/

/-- The order of the keys: by place, then by name. -/
def StageKey.Precedes (a b : StageKey) : Prop :=
  a.index < b.index ∨ a.index = b.index ∧ a.name < b.name

instance (a b : StageKey) : Decidable (a.Precedes b) :=
  inferInstanceAs (Decidable (_ ∨ _))

/-- Puts a failure into a map ordered by key, where it replaces one under its own key. -/
def insertFailure (failure : StageFailure ε) : List (StageFailure ε) → List (StageFailure ε)
  | [] => [failure]
  | first :: rest =>
    if failure.key.Precedes first.key then failure :: first :: rest
    else if failure.key = first.key then failure :: rest
    else first :: insertFailure failure rest

/-- The map that the outcomes of stages fill from the last to the first, the first of them standing
at `index`. -/
def gather (index : Nat) :
    List (Stage σ ε π) → List (Except ε Unit) → List (StageFailure ε)
  | stage :: stages, .error cause :: outcomes =>
    insertFailure ⟨⟨index, stage.name⟩, cause⟩ (gather (index + 1) stages outcomes)
  | _ :: stages, .ok () :: outcomes => gather (index + 1) stages outcomes
  | _, _ => []

theorem mem_insertFailure {failure other : StageFailure ε} {map : List (StageFailure ε)}
    (mem : other ∈ insertFailure failure map) : other = failure ∨ other ∈ map := by
  induction map with
  | nil => exact Or.inl (List.mem_singleton.mp mem)
  | cons first rest ih =>
    simp only [insertFailure] at mem
    split at mem
    · exact List.mem_cons.mp mem
    · split at mem
      · rcases List.mem_cons.mp mem with new | old
        · exact Or.inl new
        · exact Or.inr (List.mem_cons_of_mem _ old)
      · rcases List.mem_cons.mp mem with rfl | later
        · exact Or.inr List.mem_cons_self
        · exact (ih later).imp_right (List.mem_cons_of_mem _)

theorem insertFailure_of_lt {failure : StageFailure ε} {map : List (StageFailure ε)}
    (below : ∀ other ∈ map, failure.key.index < other.key.index) :
    insertFailure failure map = failure :: map := by
  cases map with
  | nil => rfl
  | cons first rest => exact if_pos (Or.inl (below first List.mem_cons_self))

theorem le_of_mem_gather {index : Nat} {stages : List (Stage σ ε π)}
    {outcomes : List (Except ε Unit)} {failure : StageFailure ε}
    (mem : failure ∈ gather index stages outcomes) : index ≤ failure.key.index := by
  induction stages generalizing index outcomes with
  | nil => simp [gather] at mem
  | cons stage stages ih =>
    rcases outcomes with _ | ⟨cause | _, outcomes⟩
    · simp [gather] at mem
    · rcases mem_insertFailure mem with rfl | later
      · exact Nat.le_refl index
      · exact Nat.le_of_succ_le (ih later)
    · exact Nat.le_of_succ_le (ih mem)

theorem gather_cons (index : Nat) (stage : Stage σ ε π) (stages : List (Stage σ ε π))
    (outcome : Except ε Unit) (outcomes : List (Except ε Unit)) :
    gather index (stage :: stages) (outcome :: outcomes) =
      CommittedStage.report ⟨index, stage.name⟩ outcome ++ gather (index + 1) stages outcomes := by
  cases outcome with
  | ok _ => rfl
  | error cause =>
    -- No failure is put over another, as those in the map already are of later stages.
    exact insertFailure_of_lt fun other mem => le_of_mem_gather mem

theorem mem_gather_iff {index place : Nat} {name : String} {cause : ε}
    {stages : List (Stage σ ε π)} {outcomes : List (Except ε Unit)} :
    ⟨⟨index + place, name⟩, cause⟩ ∈ gather index stages outcomes ↔
      ∃ stage, stages[place]? = some stage ∧ stage.name = name ∧
        outcomes[place]? = some (.error cause) := by
  induction stages generalizing index place outcomes with
  | nil => simp [gather]
  | cons stage stages ih =>
    cases outcomes with
    | nil => simp [gather]
    | cons outcome outcomes =>
      rw [gather_cons, List.mem_append]
      cases place with
      | zero =>
        -- Only the stage itself stands at this place, as the rest of the map lies behind it.
        have behind : ⟨⟨index, name⟩, cause⟩ ∉ gather (index + 1) stages outcomes :=
          fun mem => absurd (le_of_mem_gather mem) (Nat.not_succ_le_self index)
        cases outcome with
        | ok _ => simpa [CommittedStage.report] using behind
        | error own => simp [CommittedStage.report, behind, eq_comm]
      | succ place =>
        have elsewhere : ⟨⟨index + (place + 1), name⟩, cause⟩ ∉
            CommittedStage.report ⟨index, stage.name⟩ outcome := by
          cases outcome <;> simp [CommittedStage.report]
        have shifted : index + (place + 1) = index + 1 + place := by omega
        rw [or_iff_right elsewhere, shifted]
        simpa using ih

theorem gather_ordered (index : Nat) (stages : List (Stage σ ε π))
    (outcomes : List (Except ε Unit)) :
    (gather index stages outcomes).Pairwise fun a b => a.key.index < b.key.index := by
  induction stages generalizing index outcomes with
  | nil => exact .nil
  | cons stage stages ih =>
    rcases outcomes with _ | ⟨cause | _, outcomes⟩
    · exact .nil
    · rw [gather_cons]
      exact .cons (fun other mem => le_of_mem_gather mem) (ih (index + 1) outcomes)
    · exact ih (index + 1) outcomes

theorem gather_eq_nil_iff {index : Nat} {stages : List (Stage σ ε π)}
    {outcomes : List (Except ε Unit)} (complete : outcomes.length = stages.length) :
    gather index stages outcomes = [] ↔ ∀ outcome ∈ outcomes, outcome = .ok () := by
  induction stages generalizing index outcomes with
  | nil => simp [gather, List.length_eq_zero_iff.mp complete]
  | cons stage stages ih =>
    rcases outcomes with _ | ⟨cause | _, outcomes⟩
    · cases complete
    · simp [gather_cons, CommittedStage.report]
    · simpa [gather] using ih (Nat.succ.inj complete)

theorem gather_reports (stages : List (Stage σ ε π)) {outcomes : List (Except ε Unit)}
    (complete : outcomes.length = stages.length) :
    Reports stages outcomes (gather 0 stages outcomes) where
  listed place name cause := by
    have entry := @mem_gather_iff σ ε π 0 place name cause stages outcomes
    rwa [Nat.zero_add] at entry
  ordered := gather_ordered 0 stages outcomes
  none_iff := gather_eq_nil_iff complete

theorem Reports.unique {stages : List (Stage σ ε π)} {outcomes : List (Except ε Unit)}
    {one other : List (StageFailure ε)} (first : Reports stages outcomes one)
    (second : Reports stages outcomes other) : one = other := by
  have members : ∀ failure, failure ∈ one ↔ failure ∈ other := by
    intro failure
    exact (first.listed _ _ _).trans (second.listed _ _ _).symm
  have distinct {failures : List (StageFailure ε)} (reports : Reports stages outcomes failures) :
      failures.Nodup := reports.ordered.imp fun less same => by simp [same] at less
  -- The same failures, each once and in the one order that there is.
  have same : one.Perm other :=
    (List.perm_ext_iff_of_nodup (distinct first) (distinct second)).mpr members
  refine same.eq_of_pairwise ?_ first.ordered second.ordered
  intro a b _ _ less greater
  exact absurd (Nat.lt_trans less greater) (Nat.lt_irrefl _)

/-! ### Sweeps -/

namespace Descent

variable {stages : List (Stage σ ε π)} {products : List π} {s last : σ}
  {outcomes : List (Except ε Unit)}

theorem length_outcomes (swept : Descent stages products s outcomes last) :
    outcomes.length = stages.length := by
  induction swept with
  | nil => rfl
  | cons _ _ ih => simp [ih]

theorem exists_of_length (complete : products.length = stages.length) (s : σ) :
    ∃ outcomes last, Descent stages products s outcomes last := by
  induction stages generalizing products with
  | nil =>
    cases products with
    | nil => exact ⟨[], s, .nil s⟩
    | cons => cases complete
  | cons stage stages ih =>
    cases products with
    | nil => cases complete
    | cons product products =>
      obtain ⟨outcomes, middle, rest⟩ := ih (Nat.succ.inj complete)
      exact ⟨_ :: outcomes, _, .cons rest rfl⟩

end Descent

/-- Stages that were commissioned, with what they produced, the first of them at `index`. -/
def CommittedStage.place (index : Nat) :
    List (Stage σ ε π) → List π → List (CommittedStage σ ε π)
  | stage :: stages, product :: products =>
    ⟨index, stage, product⟩ :: place (index + 1) stages products
  | _, _ => []

namespace CommittedStage

variable {index : Nat} {stages : List (Stage σ ε π)} {products : List π}

theorem map_stage_place (complete : products.length = stages.length) :
    (place index stages products).map stage = stages := by
  induction stages generalizing index products with
  | nil => simp [place]
  | cons stage stages ih =>
    cases products with
    | nil => cases complete
    | cons product products => simp [place, ih (Nat.succ.inj complete)]

theorem map_product_place (complete : products.length = stages.length) :
    (place index stages products).map product = products := by
  induction stages generalizing index products with
  | nil => simp [place, List.length_eq_zero_iff.mp complete]
  | cons stage stages ih =>
    cases products with
    | nil => cases complete
    | cons product products => simp [place, ih (Nat.succ.inj complete)]

end CommittedStage

theorem Descent.sweep {stages : List (Stage σ ε π)} {products : List π} {s last : σ}
    {outcomes : List (Except ε Unit)} (swept : Descent stages products s outcomes last)
    (index : Nat) :
    CommittedStage.sweep (CommittedStage.place index stages products).reverse s =
      (gather index stages outcomes, last) := by
  induction swept generalizing index with
  | nil s => rfl
  | cons rest released ih =>
    -- The first stage lies at the bottom of the stack, and is released after all others.
    rw [CommittedStage.place, List.reverse_cons, CommittedStage.sweep_append, ih (index + 1)]
    rw [CommittedStage.sweep_cons, released, gather_cons]
    simp [CommittedStage.sweep, CommittedStage.key]

/-! ### Climbs -/

theorem getLast?_or (product : π) (products : List π) (input : Option π) :
    (product :: products).getLast?.or input = products.getLast?.or (some product) := by
  rw [List.getLast?_cons]
  cases products.getLast? <;> rfl

theorem Ascent.climb {input : Option π} {stages : List (Stage σ ε π)} {s last : σ}
    {products : List π} (ascent : Ascent input stages s products last) (index : Nat)
    (stack : List (CommittedStage σ ε π)) :
    Lifecycle.climb index input stack stages s = (.ok (products.getLast?.or input),
      (CommittedStage.place index stages products).reverse ++ stack, last) := by
  induction ascent generalizing index stack with
  | nil input s => simp [Lifecycle.climb, CommittedStage.place]
  | cons made rest ih =>
    rw [Lifecycle.climb, made, getLast?_or]
    simp only [ih, CommittedStage.place, List.reverse_cons, List.append_assoc,
      List.singleton_append]

theorem Ascent.length_products {input : Option π} {stages : List (Stage σ ε π)} {s last : σ}
    {products : List π} (ascent : Ascent input stages s products last) :
    products.length = stages.length := by
  induction ascent with
  | nil => rfl
  | cons _ _ ih => simp [ih]

theorem ascends_or_fails (input : Option π) (stages : List (Stage σ ε π)) (s : σ) :
    (∃ products last, Ascent input stages s products last) ∨
      ∃ front stage back products reached cause middle, stages = front ++ stage :: back ∧
        Ascent input front s products reached ∧
          stage.commission (products.getLast?.or input) reached = (.error cause, middle) := by
  induction stages generalizing input s with
  | nil => exact Or.inl ⟨[], s, .nil input s⟩
  | cons stage stages ih =>
    rcases made : stage.commission input s with ⟨cause | product, middle⟩
    · -- The first to fail is the one at hand, with nothing before it.
      exact Or.inr ⟨[], stage, stages, [], s, cause, middle, rfl, .nil input s, made⟩
    · rcases ih (some product) middle with ⟨products, last, rest⟩ |
        ⟨front, failing, back, products, reached, cause, after, rfl, rest, failed⟩
      · exact Or.inl ⟨_, last, .cons made rest⟩
      · refine Or.inr ⟨stage :: front, failing, back, _, reached, cause, after, rfl,
          .cons made rest, ?_⟩
        rwa [getLast?_or]

theorem ascends_or_undone (stages : List (Stage σ ε π)) (s : σ) :
    (∃ products last, Ascent none stages s products last) ∨
      ∃ key cause unwinding, Undone stages s key cause unwinding := by
  refine (ascends_or_fails none stages s).imp_right ?_
  rintro ⟨front, stage, back, products, reached, cause, middle, chain, climbed, failed⟩
  rw [Option.or_none] at failed
  obtain ⟨outcomes, last, swept⟩ := Descent.exists_of_length climbed.length_products middle
  have reports := gather_reports front swept.length_outcomes
  exact ⟨_, cause, _, .intro chain climbed failed swept reports⟩

namespace Lifecycle

variable {l : Lifecycle σ ε π} {s : σ}

/-! ### Calls -/

/-- The committed stages, in the order of the chain. -/
def held (l : Lifecycle σ ε π) : List (Stage σ ε π) :=
  (l.committed.map CommittedStage.stage).reverse

/-- What the committed stages produced. -/
def products (l : Lifecycle σ ε π) : List π := (l.committed.map CommittedStage.product).reverse

theorem commission_of_ascent (free : l.committed = []) {products : List π} {last : σ}
    (ascent : Ascent none l.stages s products last) :
    l.commission s = (.ok products.getLast?,
      { l with committed := (CommittedStage.place 0 l.stages products).reverse }, last) := by
  simp [commission, free, ascent.climb]

theorem commission_of_undone (free : l.committed = []) {key : StageKey} {cause : ε}
    {unwinding : List (StageFailure ε)} (undone : Undone l.stages s key cause unwinding) :
    (l.commission s).1 = .error (.commission key cause unwinding) ∧
      (l.commission s).2.1.committed = [] := by
  generalize chain : l.stages = stages at undone
  cases undone with
  | @intro front back stage products reached middle last _ outcomes _ split climbed failed swept
      reports =>
    subst split
    -- The climb goes through the front and stops at the stage behind it.
    have stopped := climb_append 0 none [] front (stage :: back) s
    simp only [climbed.climb, climb, Option.or_none, failed] at stopped
    simp only [commission, free, chain, stopped, List.isEmpty_nil, if_true, List.append_nil,
      swept.sweep, Nat.zero_add]
    rw [reports.unique (gather_reports front swept.length_outcomes)]
    exact ⟨rfl, trivial⟩

/-! ### Main result -/

/-- What the calls of a lifecycle answer, by how its stages fare. -/
structure Told (l : Lifecycle σ ε π) (s : σ) : Prop where
  -- What is committed is nothing, or the whole chain.
  whole : l.held = [] ∨ l.held = l.stages
  -- With nothing committed, a commissioning answers the last product just if all stages come
  -- through, which are then committed with their products.
  ok_iff : l.held = [] → ∀ product, (l.commission s).1 = .ok product ↔
    ∃ products last, Ascent none l.stages s products last ∧ product = products.getLast?
  keeps : l.held = [] → ∀ products last, Ascent none l.stages s products last →
    (l.commission s).2.1.held = l.stages ∧ (l.commission s).2.1.products = products
  -- Else it answers which stage was the first to fail, why, and what failed as the others were
  -- undone.
  error_iff : l.held = [] → ∀ failure, (l.commission s).1 = .error failure ↔
    ∃ key cause unwinding, Undone l.stages s key cause unwinding ∧
      failure = .commission key cause unwinding
  -- A decommissioning calls all that is committed, and answers what failed.
  released : ∃ outcomes last, Descent l.held l.products s outcomes last ∧
    ((l.decommission s).1 = .ok () ↔ ∀ outcome ∈ outcomes, outcome = .ok ()) ∧
      ∀ failure, (l.decommission s).1 = .error failure ↔
        ∃ failures, failures ≠ [] ∧ Reports l.held outcomes failures ∧
          failure = .decommission failures

/-- What is committed is nothing, or the whole chain with what it produced. -/
def Placed (l : Lifecycle σ ε π) : Prop :=
  l.committed = [] ∨ ∃ products, products.length = l.stages.length ∧
    l.committed = (CommittedStage.place 0 l.stages products).reverse

theorem Placed.perform (placed : l.Placed) (s : σ) (call : LifecycleCall) :
    (l.perform s call).1.Placed := by
  cases call with
  | decommission => exact Or.inl rfl
  | commission =>
    by_cases free : l.committed = []
    · rcases ascends_or_undone l.stages s with ⟨products, last, ascent⟩ |
        ⟨key, cause, unwinding, undone⟩
      · refine Or.inr ⟨products, ?_⟩
        rw [Lifecycle.perform, commission_of_ascent free ascent]
        exact ⟨ascent.length_products, rfl⟩
      · exact Or.inl (commission_of_undone free undone).2
    · rwa [Lifecycle.perform, commission_taken free]

theorem run_placed (stages : List (Stage σ ε π)) (s : σ) (calls : List LifecycleCall) :
    (run { stages } s calls).1.Placed := by
  induction calls using List.reverseRecOn with
  | nil => exact Or.inl rfl
  | append_singleton calls call ih =>
    rw [run_concat]
    exact ih.perform _ call

theorem held_eq_nil_iff : l.held = [] ↔ l.committed = [] := by simp [held]

theorem held_place {products : List π} (complete : products.length = l.stages.length)
    (committed : l.committed = (CommittedStage.place 0 l.stages products).reverse) :
    l.held = l.stages ∧ l.products = products := by
  rw [held, Lifecycle.products, committed, List.map_reverse, List.map_reverse,
    List.reverse_reverse, List.reverse_reverse]
  exact ⟨CommittedStage.map_stage_place complete, CommittedStage.map_product_place complete⟩

theorem Placed.held (placed : l.Placed) : (l.held = [] ∨ l.held = l.stages) ∧
    l.products.length = l.held.length ∧
      l.committed = (CommittedStage.place 0 l.held l.products).reverse := by
  rcases placed with free | ⟨products, complete, committed⟩
  · simp [Lifecycle.held, Lifecycle.products, free, CommittedStage.place]
  · obtain ⟨whole, same⟩ := held_place complete committed
    rw [whole, same]
    exact ⟨Or.inr rfl, complete, committed⟩

theorem Placed.decommission_told (placed : l.Placed) (s : σ) :
    ∃ outcomes last, Descent l.held l.products s outcomes last ∧
      ((l.decommission s).1 = .ok () ↔ ∀ outcome ∈ outcomes, outcome = .ok ()) ∧
        ∀ failure, (l.decommission s).1 = .error failure ↔
          ∃ failures, failures ≠ [] ∧ Reports l.held outcomes failures ∧
            failure = .decommission failures := by
  obtain ⟨-, complete, committed⟩ := placed.held
  obtain ⟨outcomes, last, swept⟩ := Descent.exists_of_length complete s
  have reports := gather_reports l.held swept.length_outcomes
  have answer : (l.decommission s).1 =
      if (gather 0 l.held outcomes).isEmpty then .ok ()
      else .error (.decommission (gather 0 l.held outcomes)) := by
    rw [decommission, committed, swept.sweep]
  refine ⟨outcomes, last, swept, ?_⟩
  rw [answer, ← reports.none_iff]
  -- In either case a report that is not the one at hand is excluded by `Reports.unique`.
  by_cases none : gather 0 l.held outcomes = []
  · rw [none] at reports ⊢
    refine ⟨by simp, fun failure => ⟨fun refused => by simp at refused, ?_⟩⟩
    rintro ⟨failures, some, others, -⟩
    exact absurd (others.unique reports) some
  · rw [if_neg (by simpa using none)]
    refine ⟨by simp [none], fun failure => ⟨fun refused => ?_, ?_⟩⟩
    · exact ⟨_, none, reports, (Except.error.inj refused).symm⟩
    · rintro ⟨failures, -, others, rfl⟩
      rw [others.unique reports]

theorem Placed.told (placed : l.Placed) (s : σ) : l.Told s where
  whole := placed.held.1
  released := placed.decommission_told s
  keeps nothing products last ascent := by
    rw [commission_of_ascent (held_eq_nil_iff.mp nothing) ascent]
    exact held_place ascent.length_products rfl
  ok_iff nothing product := by
    have free := held_eq_nil_iff.mp nothing
    constructor
    · intro answered
      -- A chain that is undone gives another answer.
      rcases ascends_or_undone l.stages s with ⟨products, last, ascent⟩ |
        ⟨key, cause, unwinding, undone⟩
      · rw [commission_of_ascent free ascent] at answered
        exact ⟨products, last, ascent, (Except.ok.inj answered).symm⟩
      · rw [(commission_of_undone free undone).1] at answered
        cases answered
    · rintro ⟨products, last, ascent, rfl⟩
      rw [commission_of_ascent free ascent]
  error_iff nothing failure := by
    have free := held_eq_nil_iff.mp nothing
    constructor
    · intro refused
      rcases ascends_or_undone l.stages s with ⟨products, last, ascent⟩ |
        ⟨key, cause, unwinding, undone⟩
      · rw [commission_of_ascent free ascent] at refused
        cases refused
      · rw [(commission_of_undone free undone).1] at refused
        exact ⟨key, cause, unwinding, undone, (Except.error.inj refused).symm⟩
    · rintro ⟨key, cause, unwinding, undone, rfl⟩
      exact (commission_of_undone free undone).1

/-- After any run of calls on a lifecycle over any chain, the answers of the next call tell all
failures and only those. -/
theorem run_told (stages : List (Stage σ ε π)) (s : σ) (calls : List LifecycleCall) :
    (run { stages } s calls).1.stages = stages ∧
      (run { stages } s calls).1.Told (run { stages } s calls).2 :=
  ⟨run_stages _ s calls, (run_placed stages s calls).told _⟩

-- Two stages of one name cannot be undone, and each has an entry of its own.
example :
    let stage (making releasing : Except String Unit) : Stage Unit String Unit :=
      { name := "pull"
        commission := fun _ s => (making, s)
        decommission := fun _ s => (releasing, s) }
    let stages := [stage (.ok ()) (.error "busy"), stage (.ok ()) (.ok ()),
      stage (.ok ()) (.error "stuck"), stage (.error "offline") (.ok ())]
    (commission { stages } ()).1 = .error (.commission ⟨3, "pull"⟩ "offline"
      [⟨⟨0, "pull"⟩, "busy"⟩, ⟨⟨2, "pull"⟩, "stuck"⟩]) := rfl

end Lifecycle

end ContainerFixture
