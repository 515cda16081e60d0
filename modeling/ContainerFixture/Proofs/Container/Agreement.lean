import ContainerFixture.Proofs.Container.Survivors

/-!
# Handles and the engine

Main result: `ContainerPlan.states_agree`. Between any calls on the lifecycle of a plan over an
engine under test, every handle says of its container what the engine knows, but for the containers
that the engine is to remove by itself: those are called removed when they are only left to it, and
also when they run on because their stop failed. The second is a defect (`removed_while_running`).

A run is a series of lives (`History`), the last of which may not be over. What is known of a
container is changed by the calls of its own life alone.
-/

namespace ContainerFixture

open CommittedStage (sweep)

/-! ### Calls about one container -/

theorem Exchange.learn_elsewhere {exchange : Exchange} {known : Knowledge} {id : ContainerId}
    (elsewhere : exchange.about? ≠ some id) : exchange.learn known id = known id := by
  rcases exchange with ⟨request, answer⟩
  cases request with
  | create params =>
    rcases answer with cause | creation
    · rfl
    · refine Function.update_of_ne (fun same => elsewhere ?_) _ _
      rw [same]
      rfl
  | start other | stop other timeout | remove other force =>
    rcases answer with cause | _
    · rfl
    · refine Function.update_of_ne (fun same => elsewhere ?_) _ _
      rw [same]
      rfl
  | exec | copyTo | copyFrom | followLogs | portBindings => rfl

theorem SelfContained.after_elsewhere {calls : List Exchange} (own : SelfContained calls)
    {known : Knowledge} {id : ContainerId}
    (elsewhere : ∀ creation ∈ creations calls, creation.id ≠ id) :
    known.after calls id = known id := by
  have untold : ∀ exchange ∈ calls, exchange.about? ≠ some id := by
    intro exchange mem told
    obtain ⟨creation, created, same⟩ := own exchange mem id told
    exact elsewhere creation created same
  -- A part of the calls need not be self-contained, but it tells nothing of the container either.
  clear own elsewhere
  induction calls generalizing known with
  | nil => rfl
  | cons exchange rest ih =>
    refine Eq.trans ?_ (Exchange.learn_elsewhere (untold exchange List.mem_cons_self))
    exact ih fun x mem => untold x (List.mem_cons_of_mem _ mem)

/-! ### What a state says -/

/-- What the engine knows of a container in some state. A removed container is not known, or it
removes itself and is not to be stopped, or it removes itself and could not be stopped. -/
def Agrees (params : Params) (id : ContainerId) (calls : List Exchange) (known : Option Presence) :
    ContainerState → Prop
  | .defined => False
  | .created | .stopped => known = some ⟨params, false⟩
  | .started => known = some ⟨params, true⟩
  | .removed => known = none ∨ params.autoRemove = true ∧
      (params.commandType = .exitingImmediately ∨ ∃ timeout cause,
        ⟨.stop id timeout, .error cause⟩ ∈ calls ∧ cause.isNotFound = false)

theorem Agrees.mono {params : Params} {id : ContainerId} {calls more : List Exchange}
    {known : Option Presence} {state : ContainerState} (agrees : Agrees params id calls known state)
    (kept : ∀ exchange ∈ calls, exchange ∈ more) : Agrees params id more known state := by
  cases state with
  | defined | created | started | stopped => exact agrees
  | removed =>
    rcases agrees with gone | ⟨auto, exits | ⟨timeout, cause, refused, lapsed⟩⟩
    · exact Or.inl gone
    · exact Or.inr ⟨auto, Or.inl exits⟩
    · exact Or.inr ⟨auto, Or.inr ⟨timeout, cause, kept _ refused, lapsed⟩⟩

theorem Fate.agrees {params : Params} {id : ContainerId} {calls : List Exchange}
    {failures : List (StageFailure ContainerError)} {state : ContainerState}
    {known : Option Presence} (fate : Fate params id calls failures state known) :
    Agrees params id calls known state := by
  cases fate with
  | gone => exact Or.inl rfl
  | created | started | stopped => rfl
  | leftToEngine removesItself exits => exact Or.inr ⟨removesItself, Or.inl exits⟩
  | abandoned _ removesItself timeout cause lapsed refused =>
    exact Or.inr ⟨removesItself, Or.inr ⟨timeout, cause, refused, lapsed⟩⟩

/-- Every container has a state, which agrees with what is known of it unless its identifier was
given again. -/
structure Agreement (params : Params) (known : Knowledge) (calls : List Exchange)
    (states : List ContainerState) : Prop where
  complete : (creations calls).length = states.length
  agrees : ∀ older creation newer, creations calls = older ++ creation :: newer →
    (∀ later ∈ newer, later.id ≠ creation.id) →
    Agrees params creation.id calls (known.after calls creation.id)
      (states.getD older.length .defined)

/-- An element of a list that was extended is the new one, or it was there before. -/
theorem concat_eq_append_cons {α : Type} {xs older newer : List α} {new x : α}
    (listed : xs ++ [new] = older ++ x :: newer) :
    (xs = older ∧ new = x ∧ newer = []) ∨ ∃ between, xs = older ++ x :: between ∧
      newer = between ++ [new] := by
  rcases List.eq_nil_or_concat newer with rfl | ⟨between, last, rfl⟩
  · obtain ⟨before, same⟩ := List.append_inj' listed rfl
    exact Or.inl ⟨before, (List.cons.inj same).1, rfl⟩
  · rw [List.concat_eq_append, ← List.cons_append, ← List.append_assoc] at listed
    obtain ⟨before, same⟩ := List.append_inj' listed rfl
    obtain ⟨rfl, -⟩ := List.cons.inj same
    exact Or.inr ⟨between, before, List.concat_eq_append⟩

namespace Agreement

variable {params : Params} {known : Knowledge} {calls made : List Exchange}
  {states : List ContainerState}

theorem empty : Agreement params known [] [] where
  complete := rfl
  agrees older creation newer none := by simp [creations] at none

/-- A life without a container changes nothing. -/
theorem append_none (agreement : Agreement params known calls states) (own : SelfContained made)
    (none : creations made = []) : Agreement params known (calls ++ made) states where
  complete := by
    rw [creations_append, none, List.append_nil]
    exact agreement.complete
  agrees older creation newer listed later := by
    rw [creations_append, none, List.append_nil] at listed
    rw [Knowledge.after_append, own.after_elsewhere (by simp [none])]
    have agrees := agreement.agrees older creation newer listed later
    exact agrees.mono fun exchange mem => List.mem_append_left _ mem

/-- A life with a container adds its state, and changes nothing of the others. -/
theorem append_one {new : Creation} {state : ContainerState}
    (agreement : Agreement params known calls states) (own : SelfContained made)
    (one : creations made = [new])
    (agrees : Agrees params new.id made ((known.after calls).after made new.id) state) :
    Agreement params known (calls ++ made) (states ++ [state]) where
  complete := by simp [creations_append, one, agreement.complete]
  agrees older creation newer listed later := by
    rw [creations_append, one] at listed
    rw [Knowledge.after_append]
    rcases concat_eq_append_cons listed with ⟨rfl, rfl, rfl⟩ | ⟨between, earlier, rfl⟩
    · -- The container is the new one, and its state the last.
      have place : (states ++ [state]).getD (creations calls).length .defined = state := by
        simp [agreement.complete]
      rw [place]
      exact agrees.mono fun exchange mem => List.mem_append_right _ mem
    · -- The container is an older one, and the new one has another identifier.
      have elsewhere : ∀ c ∈ creations made, c.id ≠ creation.id := by
        intro c mem
        rw [one] at mem
        exact later c (List.mem_append_right _ mem)
      have before := agreement.agrees older creation between earlier fun c mem =>
        later c (List.mem_append_left _ mem)
      have inside : older.length < states.length := by
        rw [← agreement.complete, earlier]
        simp
      have place : (states ++ [state]).getD older.length .defined =
          states.getD older.length .defined := by
        rw [List.getD_eq_getElem?_getD, List.getElem?_append_left inside,
          List.getD_eq_getElem?_getD]
      rw [own.after_elsewhere elsewhere, place]
      exact before.mono fun exchange mem => List.mem_append_left _ mem

end Agreement

/-! ### Lives that are over -/

namespace ContainerPlan

section lives

variable {E : Type} {plan : ContainerPlan E} {calls : List Exchange} {states : List ContainerState}

/-- The calls and the states of a series of lives that are over. -/
inductive History (plan : ContainerPlan E) : List Exchange → List ContainerState → Prop where
  | none : History plan [] []
  | broken {calls made : List Exchange} {states added : List ContainerState}
      {error : LifecycleError ContainerError} (before : History plan calls states)
      (broken : plan.Broken error made added) : History plan (calls ++ made) (states ++ added)
  | served {calls made : List Exchange} {states : List ContainerState} {creation : Creation}
      {failures : List (StageFailure ContainerError)} {state : ContainerState}
      (before : History plan calls states)
      (taken : plan.TakenDown creation.id made failures state) :
    History plan
      (calls ++ ⟨.create plan.params, .ok creation⟩ :: ⟨.start creation.id, .ok ()⟩ :: made)
      (states ++ [state])

theorem History.agreement (history : plan.History calls states) {known : Knowledge}
    (consistent : known.Consistent calls) : Agreement plan.params known calls states := by
  induction history with
  | none => exact .empty
  | broken before broken ih =>
    obtain ⟨first, second⟩ := Knowledge.consistent_append.mp consistent
    rcases broken.fate second with ⟨rfl, none⟩ | ⟨creation, state, rfl, one, fate⟩
    · rw [List.append_nil]
      exact (ih first).append_none broken.selfContained none
    · exact (ih first).append_one broken.selfContained one fate.agrees
  | served before taken ih =>
    obtain ⟨first, second⟩ := Knowledge.consistent_append.mp consistent
    refine (ih first).append_one taken.selfContained ?_ (taken.fate_of_created second).agrees
    exact congrArg (_ :: ·) taken.creations

end lives

/-! ### Runs -/

section runs

variable {E : Type} [Engine E] {plan : ContainerPlan (Recorded E)}

/-- Where a lifecycle stands between calls: every life is over, or a container is being held. -/
inductive Reached (plan : ContainerPlan (Recorded E)) :
    Lifecycle (Bench (Recorded E)) ContainerError Container → Bench (Recorded E) → Prop where
  | idle {l : Lifecycle (Bench (Recorded E)) ContainerError Container} {b : Bench (Recorded E)}
      (chain : l.stages = plan.stages) (free : l.committed = [])
      (history : plan.History b.vital b.states) : Reached plan l b
  | serving {l : Lifecycle (Bench (Recorded E)) ContainerError Container} {b : Bench (Recorded E)}
      {calls : List Exchange} {older : List ContainerState} {creation : Creation}
      (chain : l.stages = plan.stages) (history : plan.History calls older)
      (held : plan.Holds (.ofCreation older.length plan.params creation) l.committed)
      (vital : b.vital =
        calls ++ [⟨.create plan.params, .ok creation⟩, ⟨.start creation.id, .ok ()⟩])
      (states : b.states = older ++ [.started]) : Reached plan l b

variable {l : Lifecycle (Bench (Recorded E)) ContainerError Container} {b : Bench (Recorded E)}

theorem Reached.commission (reached : plan.Reached l b) (discreet : plan.Discreet) :
    plan.Reached (l.commission b).2.1 (l.commission b).2.2 := by
  cases reached with
  | serving chain history held vital states =>
    -- The lifecycle refuses a second commissioning, and nothing happens.
    rw [Lifecycle.commission_taken held.taken]
    exact .serving chain history held vital states
  | idle chain free history =>
    have effect := commission_effect discreet chain free b
    generalize l.commission b = commissioned at effect ⊢
    cases effect with
    | broken error calls added after broken vital states =>
      refine .idle chain rfl ?_
      rw [vital, states]
      exact history.broken broken
    | begun creation product stack after valid held vital states =>
      exact .serving chain history held vital states

theorem Reached.decommission (reached : plan.Reached l b) :
    plan.Reached (l.decommission b).2.1 (l.decommission b).2.2 := by
  cases reached with
  | idle chain free history =>
    have nothing : (l.decommission b).2.2 = b := by simp [Lifecycle.decommission, free, sweep]
    rw [nothing]
    exact .idle chain rfl history
  | serving chain history held vital states =>
    obtain ⟨made, failures, state, taken, -, vital', states'⟩ := decommission_effect held states
    refine .idle chain rfl ?_
    rw [vital', states', vital, List.append_assoc]
    exact history.served taken

/-- Every run of calls leads through a series of lives, by `Reached.commission` and
`Reached.decommission` for its last call. -/
theorem run_reached (discreet : plan.Discreet) {b : Bench (Recorded E)} (fresh : b.vital = [])
    (bare : b.states = []) (calls : List LifecycleCall) :
    plan.Reached (Lifecycle.run { stages := plan.stages } b calls).1
      (Lifecycle.run { stages := plan.stages } b calls).2 := by
  induction calls using List.reverseRecOn with
  | nil =>
    have start : plan.History b.vital b.states := by
      rw [fresh, bare]
      exact .none
    exact .idle rfl rfl start
  | append_singleton calls call ih =>
    rw [Lifecycle.run_concat]
    cases call with
    | commission => exact ih.commission discreet
    | decommission => exact ih.decommission

end runs

/-! ### Main result -/

variable {plan : ContainerPlan (Recorded Prompted)} {p : Prompted}

/-- Between any calls there is one handle for every creation, and unless its identifier was given
again, its state agrees with what the engine knows, as `Agrees` says. Nothing comes after the newest
handle, so its state always agrees. -/
theorem states_agree (stock : plan.Stock) (frank : p.engine.Frank)
    {calls : List LifecycleCall}
    {l : Lifecycle (Bench (Recorded Prompted)) ContainerError Container}
    {b : Bench (Recorded Prompted)}
    (reached : Lifecycle.run { stages := plan.stages } (Bench.opening p) calls = (l, b)) :
    (creations b.vital).length = b.states.length ∧
    ∀ older creation newer, creations b.vital = older ++ creation :: newer →
      (∀ later ∈ newer, later.id ≠ creation.id) →
      let c := Container.ofCreation older.length plan.params creation
      Agrees plan.params c.id b.vital (b.presence c.id) (b.state c) := by
  have upheld := stock.traced frank calls
  have stands := run_reached stock.discreet (b := Bench.opening p) rfl rfl calls
  rw [reached] at upheld stands
  dsimp only at upheld stands
  have consistent : p.engine.presence.Consistent b.vital := upheld.holds.consistent
  have known : b.presence = p.engine.presence.after b.vital := upheld.holds.presence
  have agreement : Agreement plan.params p.engine.presence b.vital b.states := by
    cases stands with
    | idle chain free history => exact history.agreement consistent
    | @serving before older creation chain history held vital states =>
      -- The life at hand is not over: its container was created and started, and no more.
      rw [vital] at consistent
      have first := (Knowledge.consistent_append.mp consistent).1
      have own : SelfContained
          [⟨.create plan.params, .ok creation⟩, ⟨.start creation.id, .ok ()⟩] :=
        selfContained_of_created fun exchange mem => by
          rw [List.mem_singleton.mp mem]
          rfl
      have one : creations [⟨.create plan.params, .ok creation⟩, ⟨.start creation.id, .ok ()⟩] =
          [creation] := rfl
      rw [vital, states]
      refine (history.agreement first).append_one own one ?_
      simp [Agrees, Knowledge.after, Exchange.learn]
  refine ⟨agreement.complete, fun older creation newer listed later => ?_⟩
  rw [known]
  exact agreement.agrees older creation newer listed later

/-- The handle of a container that could not be stopped. -/
theorem states_agree_of_wedged :
    let c := Container.ofCreation 0 redis.params ⟨MemoryEngine.idFor 1 redis.params.image, []⟩
    Agrees redis.params c.id wedgedOnce.2.vital (wedgedOnce.2.presence c.id)
      (wedgedOnce.2.state c) := by
  have created : creations wedgedOnce.2.vital =
      [⟨MemoryEngine.idFor 1 redis.params.image, []⟩] := by
    decide +kernel
  have agreement := states_agree redis_stock wedged_frank wedgedOnce_reached
  -- From here on nothing is computed.
  generalize wedgedOnce = world at *
  generalize MemoryEngine.idFor 1 redis.params.image = id at *
  exact agreement.2 [] ⟨id, []⟩ [] created fun later mem => absurd mem List.not_mem_nil

/-- A container that is to be stopped, and that the engine still runs, is called removed. -/
theorem removed_while_running :
    let c := Container.ofCreation 0 redis.params ⟨MemoryEngine.idFor 1 redis.params.image, []⟩
    wedgedOnce.2.state c = .removed ∧ wedgedOnce.2.presence c.id = some ⟨redis.params, true⟩ ∧
      redis.params.commandType = .blocking := by
  decide +kernel

end ContainerPlan

end ContainerFixture
