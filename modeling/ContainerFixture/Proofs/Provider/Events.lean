import ContainerFixture.Proofs.Provider.Sequential
import ContainerFixture.Proofs.Provider.Story

/-!
# What the observer is told

## Main result

`ProviderGroup.events_told`: through any calls on one provider, in any scope and with any stages,
its observer is told the `story` of these calls, word for word.

## Proof strategy

The story goes through four phases. `Stands` says what the provider and the registries of exit hooks
are in each of them; every call keeps it and adds to the events what the story tells
(`Stands.afterCall`).
-/

namespace ContainerFixture

variable {σ ε π : Type}

namespace ProviderGroup

/-- What a call leaves of a group of one provider. -/
def afterCall (g : ProviderGroup σ ε π) : ProviderCall → ProviderGroup σ ε π
  | .provide => (g.provide 0).2
  | .finish => (g.finish 0).2
  | .finishNow => (g.finishNow 0).2
  | .fire host => (g.fire host).2

def afterCalls (g : ProviderGroup σ ε π) (calls : List ProviderCall) : ProviderGroup σ ε π :=
  calls.foldl afterCall g

/-- What the observer of the only provider was told. -/
def reports (describe : ε → String) (g : ProviderGroup σ ε π) : List Report :=
  (g.provider 0).events.map (Event.report describe)

end ProviderGroup

/-! ### Phases of a provider -/

/-- What a provider and its world are in each phase. -/
inductive Provider.InPhase (stages : List (Stage σ ε π)) (start : σ) :
    ProviderPhase → Provider σ ε π → σ → Prop where
  | new {q : Provider σ ε π} (running : q.finished = false) (unprovided : q.provided = none)
      (bare : q.hook = none) (lifecycle : q.lifecycle = { stages }) :
    InPhase stages start .new q start
  | up {q : Provider σ ε π} {world : σ} {provision : Provision ε π} {product : Option π}
      (running : q.finished = false) (provided : q.provided = some provision)
      (commissioned : Lifecycle.commission { stages } start = (.ok product, q.lifecycle, world)) :
    InPhase stages start .up q world
  | failed {q : Provider σ ε π} {world : σ} {provision : Provision ε π}
      (running : q.finished = false) (provided : q.provided = some provision)
      (free : q.lifecycle.committed = []) :
    InPhase stages start .failed q world
  | ended {q : Provider σ ε π} {world : σ} (finished : q.finished = true) :
    InPhase stages start .ended q world

theorem Provider.InPhase.of_new {stages : List (Stage σ ε π)} {start world : σ}
    {q : Provider σ ε π} (provider : q.InPhase stages start .new world) :
    q.finished = false ∧ q.provided = none ∧ q.hook = none ∧ q.lifecycle = { stages } ∧
      world = start := by
  cases provider with
  | new running unprovided bare lifecycle => exact ⟨running, unprovided, bare, lifecycle, rfl⟩

theorem Provider.InPhase.of_ended {stages : List (Stage σ ε π)} {start world : σ}
    {q : Provider σ ε π} (provider : q.InPhase stages start .ended world) : q.finished = true := by
  cases provider with
  | ended finished => exact finished

theorem Provider.InPhase.of_up {stages : List (Stage σ ε π)} {start world : σ}
    {q : Provider σ ε π} (provider : q.InPhase stages start .up world) : ∃ product,
    Lifecycle.commission { stages } start = (.ok product, q.lifecycle, world) := by
  cases provider with
  | up running provided commissioned => exact ⟨_, commissioned⟩

theorem Provider.InPhase.of_provided {stages : List (Stage σ ε π)} {start world : σ}
    {phase : ProviderPhase} {q : Provider σ ε π} (provider : q.InPhase stages start phase world)
    (begun : phase ≠ .new) (live : phase ≠ .ended) :
    q.finished = false ∧ ∃ provision, q.provided = some provision := by
  cases provider with
  | new => exact absurd rfl begun
  | up running provided | failed running provided => exact ⟨running, _, provided⟩
  | ended => exact absurd rfl live

/-- A provider whose commissioning has just succeeded, before an exit hook is registered for it. -/
def Provider.readied (l : Lifecycle σ ε π) (q : Provider σ ε π) : Provider σ ε π :=
  { q with
    lifecycle := l
    told := .commissionSucceeded :: .commissionStarted :: .provideStarted :: q.told }

namespace ProviderGroup

/-- What a group of one provider is in each phase. Its exit hook is registered while it is up and to
be torn down at exit, and there is no other hook. -/
structure Stands (stages : List (Stage σ ε π)) (scope : Scope) (start : σ) (phase : ProviderPhase)
    (g : ProviderGroup σ ε π) : Prop where
  alone : g.providers.length = 1
  settled : (g.provider 0).scope = scope
  quiet : (g.provider 0).reactions = []
  provider : (g.provider 0).InPhase stages start phase g.world
  hooks : ∃ id, (phase = .up → scope.isGlobal = true → (g.provider 0).hook = some id) ∧
    ∀ host, (g.registry host).pending = if phase = .up ∧ scope = .global host then [(id, 0)] else []

namespace Stands

variable {stages : List (Stage σ ε π)} {scope : Scope} {start : σ} {phase : ProviderPhase}
  {g : ProviderGroup σ ε π}

theorem inside (stands : Stands stages scope start phase g) : 0 < g.providers.length := by
  rw [stands.alone]
  exact Nat.zero_lt_one

theorem unreactive (stands : Stands stages scope start phase g) : g.Unreactive :=
  unreactive_of_alone stands.alone stands.quiet

theorem ofChains (stages : List (Stage σ ε π)) (scope : Scope) (start : σ) :
    Stands stages scope start .new (ofChains start [(stages, scope)]) where
  alone := rfl
  settled := rfl
  quiet := rfl
  provider := .new rfl rfl rfl rfl
  hooks := ⟨⟨0⟩, nofun, fun host => by cases host <;> simp [registry, ProviderGroup.ofChains]⟩

end Stands

variable {stages : List (Stage σ ε π)} {scope : Scope} {start : σ} {phase : ProviderPhase}
  {g g' : ProviderGroup σ ε π} {describe : ε → String} {q : Provider σ ε π} {world : σ}

theorem stands_put (alone : g'.providers.length = 1) (settled : q.scope = scope)
    (quiet : q.reactions = []) (provider : q.InPhase stages start phase world)
    (hooks : ∃ id, (phase = .up → scope.isGlobal = true → q.hook = some id) ∧
      ∀ host, (g'.registry host).pending =
        if phase = .up ∧ scope = .global host then [(id, 0)] else []) :
    Stands stages scope start phase (g'.put 0 q world) := by
  have here : (g'.put 0 q world).provider 0 = q := provider_put_self (by omega)
  refine ⟨by rw [length_put, alone], by rw [here, settled], by rw [here, quiet], ?_, ?_⟩
  · rw [here]
    exact provider
  · simpa only [here, registry_put] using hooks

/-- While it is not up, there is no hook. -/
theorem Stands.bare (stands : Stands stages scope start phase g)
    (idle : phase ≠ .up ∨ scope.isGlobal = false) (host : HookHost) :
    (g.registry host).pending = [] := by
  obtain ⟨id, -, pending⟩ := stands.hooks
  rw [pending host, if_neg]
  rintro ⟨rfl, rfl⟩
  rcases idle with down | owned
  · exact down rfl
  · cases owned

theorem hooks_of_bare (idle : phase ≠ .up ∨ scope.isGlobal = false) {slot : Option HookId}
    (bare : ∀ host, (g'.registry host).pending = []) :
    ∃ id, (phase = .up → scope.isGlobal = true → slot = some id) ∧
      ∀ host, (g'.registry host).pending =
        if phase = .up ∧ scope = .global host then [(id, 0)] else [] := by
  refine ⟨⟨0⟩, fun up isGlobal => ?_, fun host => ?_⟩
  · rcases idle with down | owned
    · exact absurd up down
    · rw [owned] at isGlobal
      cases isGlobal
  · rw [bare, if_neg]
    rintro ⟨rfl, rfl⟩
    rcases idle with down | owned
    · exact down rfl
    · cases owned

/-- Only the events change, and the number of provisions. -/
theorem Stands.noted (stands : Stands stages scope start phase g) (told : List (Event ε))
    (made : Nat) :
    Stands stages scope start phase (g.put 0 { g.provider 0 with told, made } g.world) := by
  refine stands_put stands.alone stands.settled stands.quiet ?_ stands.hooks
  have provider := stands.provider
  generalize g.provider 0 = q at provider ⊢
  generalize g.world = world at provider ⊢
  cases provider with
  | new running unprovided bare lifecycle => exact .new running unprovided bare lifecycle
  | up running provided commissioned => exact .up running provided commissioned
  | failed running provided free => exact .failed running provided free
  | ended finished => exact .ended finished

/-- A call adds some reports to a group, and leads to a phase. -/
structure Goes (describe : ε → String) (stages : List (Stage σ ε π)) (scope : Scope) (start : σ)
    (g after : ProviderGroup σ ε π) (new : List Report) (phase : ProviderPhase) : Prop where
  stands : Stands stages scope start phase after
  told : after.reports describe = g.reports describe ++ new

theorem reports_put (known : 0 < g'.providers.length) (new : List (Event ε))
    (told : q.told = new ++ (g.provider 0).told) :
    (g'.put 0 q world).reports describe =
      g.reports describe ++ new.reverse.map (Event.report describe) := by
  rw [reports, provider_put_self known, Provider.events, told, List.reverse_append,
    List.map_append]
  rfl

/-! ### Teardowns -/

theorem report_finishCompleted (l : Lifecycle σ ε π) (world : σ) :
    (Event.finishCompleted (failureOf (l.decommission world).1)).report describe =
      (.finishCompleted, sweepError describe (CommittedStage.sweep l.committed world).1) := by
  unfold Lifecycle.decommission sweepError
  dsimp only
  split <;> rfl

/-- What is undone in a phase is what the story says of it. -/
theorem finishing_inPhase {q : Provider σ ε π} {world : σ}
    (provider : q.InPhase stages start phase world) (live : phase ≠ .ended) :
    Story.finishing (Fortune.of describe stages start) phase = Story.teardown
      (sweepError describe (CommittedStage.sweep q.lifecycle.committed world).1) := by
  cases provider with
  | new running unprovided bare lifecycle =>
    rw [lifecycle]
    rfl
  | up running provided commissioned =>
    rw [Story.finishing, Fortune.of, commissioned]
  | failed running provided free =>
    rw [free]
    rfl
  | ended finished => exact absurd rfl live

theorem Stands.teardown (describe : ε → String) (stands : Stands stages scope start phase g)
    (live : phase ≠ .ended) (length : g'.providers.length = g.providers.length)
    {hook : Option HookId} (there : g'.provider 0 = { g.provider 0 with hook })
    (world : g'.world = g.world)
    (bare : ∀ host, (g'.registry host).pending = []) :
    Goes describe stages scope start g (teardownWith record 0 g').2
      (Story.finishing (Fortune.of describe stages start) phase) .ended := by
  have running : (g'.provider 0).finished = false := by
    rw [there]
    cases stands.provider with
    | new running | up running | failed running => exact running
    | ended => exact absurd rfl live
  have inside : 0 < g'.providers.length := length ▸ stands.inside
  rw [teardownWith_record inside running, there, world]
  dsimp only
  constructor
  · exact stands_put (length.trans stands.alone) stands.settled stands.quiet (.ended rfl)
      (hooks_of_bare (Or.inl (by decide)) bare)
  · rw [reports_put inside [.finishCompleted _, .finishStarted] rfl,
      finishing_inPhase stands.provider live]
    simp only [List.reverse_cons, List.reverse_nil, List.nil_append, List.cons_append,
      List.map_cons, List.map_nil]
    rw [report_finishCompleted]
    rfl

/-! ### Providing -/

theorem Stands.provide_refused (stands : Stands stages scope start .new g)
    {cause : LifecycleError ε} {l : Lifecycle σ ε π}
    (commissioned : Lifecycle.commission { stages } start = (.error cause, l, world)) :
    Goes describe stages scope start g (g.provideWith record 0).2
      [(.provideStarted, none), (.commissionStarted, none),
        (.commissionFailed, some (cause.message describe)), (.provideCompleted, none)] .failed := by
  obtain ⟨running, unprovided, bare, lifecycle, here⟩ := stands.provider.of_new
  have free : l.committed = [] := by
    rcases Lifecycle.commission_cases (l := { stages }) rfl start with
      ⟨_, _, failed⟩ | ⟨_, _, _, done, -⟩
    · rw [commissioned] at failed
      cases failed
      rfl
    · rw [commissioned] at done
      cases done
  rw [← lifecycle, ← here] at commissioned
  rw [provideWith_refused stands.inside running unprovided commissioned]
  constructor
  · exact stands_put stands.alone stands.settled stands.quiet (.failed running rfl free)
      (hooks_of_bare (Or.inl (by decide)) (stands.bare (Or.inl (by decide))))
  · exact reports_put stands.inside
      [.provideCompleted, .commissionFailed cause, .commissionStarted, .provideStarted] rfl

/-- A successful commissioning ends as the scope has it. -/
theorem Stands.commissioning (stands : Stands stages scope start .new g) {product : Option π}
    {l : Lifecycle σ ε π}
    (commissioned : Lifecycle.commission { stages } start = (.ok product, l, world)) :
    commissionWith record 0 (g.put 0 ((g.provider 0).hearing .provideStarted) g.world) =
      match scope with
      | .owned => (g.put 0 ((g.provider 0).readied l) world).provisionOf (.ok product) 0
      | .global host =>
        (g.put 0 ((g.provider 0).readied l) world).keptWith record host product 0 := by
  obtain ⟨running, -, -, lifecycle, here⟩ := stands.provider.of_new
  have hears : (g.put 0 ((g.provider 0).hearing .provideStarted) g.world).provider 0 =
      (g.provider 0).hearing .provideStarted := provider_put_self stands.inside
  have settled : ((g.provider 0).hearing .provideStarted).scope = scope := stands.settled
  have began : ((g.put 0 ((g.provider 0).hearing .provideStarted) g.world).provider
      0).lifecycle.commission (g.put 0 ((g.provider 0).hearing .provideStarted) g.world).world =
      (.ok product, l, world) := by
    rw [hears, world_put, here]
    exact (congrArg (·.commission start) lifecycle).trans commissioned
  have asked := commissionWith_ok (by rw [length_put]; exact stands.inside)
    (by rw [hears]; exact running) began
  rw [put_put, hears, settled] at asked
  cases scope <;> exact asked

theorem Stands.provideWith_owned (stands : Stands stages .owned start .new g) {product : Option π}
    {l : Lifecycle σ ε π}
    (commissioned : Lifecycle.commission { stages } start = (.ok product, l, world)) :
    g.provideWith record 0 = (⟨(g.provider 0).made, .ok product⟩, g.put 0 { g.provider 0 with
      lifecycle := l
      made := (g.provider 0).made + 1
      provided := some ⟨(g.provider 0).made, .ok product⟩
      told := .provideCompleted :: .commissionSucceeded :: .commissionStarted ::
        .provideStarted :: (g.provider 0).told } world) := by
  obtain ⟨running, unprovided, -, -, -⟩ := stands.provider.of_new
  have ended := stands.commissioning commissioned
  simp only [provisionOf, Provider.fresh, update_eq_put, provider_put_self stands.inside, put_put,
    world_put] at ended
  exact provideWith_commissioned stands.inside running unprovided stands.inside ended

theorem Stands.provide_owned (stands : Stands stages .owned start .new g) {product : Option π}
    {l : Lifecycle σ ε π}
    (commissioned : Lifecycle.commission { stages } start = (.ok product, l, world)) :
    Goes describe stages .owned start g (g.provideWith record 0).2
      [(.provideStarted, none), (.commissionStarted, none), (.commissionSucceeded, none),
        (.provideCompleted, none)] .up := by
  obtain ⟨running, -⟩ := stands.provider.of_new
  rw [stands.provideWith_owned commissioned]
  constructor
  · exact stands_put stands.alone stands.settled stands.quiet (.up running rfl commissioned)
      (hooks_of_bare (Or.inr rfl) (stands.bare (Or.inr rfl)))
  · exact reports_put stands.inside [.provideCompleted, .commissionSucceeded,
      .commissionStarted, .provideStarted] rfl

theorem Stands.provide_accepted {host : HookHost}
    (stands : Stands stages (.global host) start .new g)
    (taken : (Scope.global host).isRefused = false) {product : Option π} {l : Lifecycle σ ε π}
    (commissioned : Lifecycle.commission { stages } start = (.ok product, l, world)) :
    Goes describe stages (.global host) start g (g.provideWith record 0).2
      [(.provideStarted, none), (.commissionStarted, none), (.commissionSucceeded, none),
        (.provideCompleted, none)] .up := by
  obtain ⟨running, unprovided, bare, lifecycle, here⟩ := stands.provider.of_new
  have began : (g.provider 0).lifecycle.commission g.world = (.ok product, l, world) := by
    rw [lifecycle, here, commissioned]
  rcases registered : (g.registerHook host 0).1 with reason | id
  · obtain ⟨rfl, -⟩ := registerHook_error registered
    cases taken
  · obtain ⟨rfl, registries⟩ := registerHook_ok registered
    have alone : (g.registerHook host 0).2.providers.length = 1 := by
      rw [length_registerHook, stands.alone]
    rw [provideWith_accepted stands.inside running unprovided stands.settled bare began registered]
    constructor
    · refine stands_put alone stands.settled stands.quiet (.up running rfl commissioned)
        ⟨_, fun _ _ => rfl, fun other => ?_⟩
      have none (host : HookHost) : (g.registry host).pending = [] :=
        stands.bare (Or.inl (by decide)) host
      rw [registries]
      by_cases same : other = host
      · subst same
        rw [if_pos rfl, if_pos ⟨rfl, rfl⟩, HookRegistry.register, none]
      · rw [if_neg same, none, if_neg]
        rintro ⟨-, hosted⟩
        exact same (Scope.global.inj hosted).symm
    · exact reports_put (alone ▸ Nat.zero_lt_one) [.provideCompleted,
        .commissionSucceeded, .commissionStarted, .provideStarted] rfl

theorem Stands.provideWith_turnedAway {reason : String}
    (stands : Stands stages (.global (.refusing reason)) start .new g) {product : Option π}
    {l : Lifecycle σ ε π}
    (commissioned : Lifecycle.commission { stages } start = (.ok product, l, world)) :
    g.provideWith record 0 = (⟨(g.provider 0).made, .error (.exitHook reason)⟩,
      g.put 0 { g.provider 0 with
        finished := true
        lifecycle := { l with committed := [] }
        made := (g.provider 0).made + 1
        provided := some ⟨(g.provider 0).made, .error (.exitHook reason)⟩
        told := .provideCompleted :: .finishCompleted (failureOf (l.decommission world).1) ::
          .finishStarted :: .commissionSucceeded :: .commissionStarted :: .provideStarted ::
            (g.provider 0).told } (l.decommission world).2.2) := by
  obtain ⟨running, unprovided, bare, -, -⟩ := stands.provider.of_new
  have ended := stands.commissioning commissioned
  dsimp only at ended
  let between := g.put 0 ((g.provider 0).readied l) world
  have there : between.provider 0 = (g.provider 0).readied l := provider_put_self stands.inside
  have known : 0 < between.providers.length := by
    rw [length_put]
    exact stands.inside
  have kept := keptWith_refused known reason product
    (by rw [there]; exact running) (by rw [there]; exact bare)
  rw [there] at kept
  rw [provideWith_commissioned stands.inside running unprovided known (ended.trans kept), put_put]
  rfl

/-- Without a hook the provider is torn down, and its product is not provided. -/
theorem Stands.provide_turnedAway {reason : String}
    (stands : Stands stages (.global (.refusing reason)) start .new g) {product : Option π}
    {l : Lifecycle σ ε π}
    (commissioned : Lifecycle.commission { stages } start = (.ok product, l, world)) :
    Goes describe stages (.global (.refusing reason)) start g (g.provideWith record 0).2
      [(.provideStarted, none), (.commissionStarted, none), (.commissionSucceeded, none),
        (.finishStarted, none),
        (.finishCompleted, sweepError describe (CommittedStage.sweep l.committed world).1),
        (.provideCompleted, none)] .ended := by
  rw [stands.provideWith_turnedAway commissioned]
  constructor
  · exact stands_put stands.alone stands.settled stands.quiet (.ended rfl)
      (hooks_of_bare (Or.inl (by decide)) (stands.bare (Or.inl (by decide))))
  · refine (reports_put stands.inside [.provideCompleted,
      .finishCompleted (failureOf (l.decommission world).1), .finishStarted,
      .commissionSucceeded, .commissionStarted, .provideStarted] rfl).trans ?_
    rw [← report_finishCompleted]
    rfl

theorem Stands.provide (stands : Stands stages scope start phase g) :
    Goes describe stages scope start g (g.provideWith record 0).2
      (Story.tell scope (Fortune.of describe stages start) phase .provide).1
      (Story.tell scope (Fortune.of describe stages start) phase .provide).2 := by
  cases phase with
  | ended =>
    rw [provideWith_finished stands.provider.of_ended]
    exact ⟨stands.noted _ _, reports_put stands.inside [] rfl⟩
  | up | failed =>
    obtain ⟨running, provision, provided⟩ := stands.provider.of_provided (by decide) (by decide)
    rw [provideWith_provided stands.inside running provided]
    exact ⟨stands.noted _ _,
      reports_put stands.inside [.provideCompleted, .provideStarted] rfl⟩
  | new =>
    rcases commissioned : Lifecycle.commission { stages } start with ⟨cause | product, l, world⟩
    · have told : Fortune.of describe stages start = ⟨some (cause.message describe),
          sweepError describe (CommittedStage.sweep l.committed world).1⟩ := by
        rw [Fortune.of, commissioned]
      rw [told]
      exact stands.provide_refused commissioned
    · have told : Fortune.of describe stages start =
          ⟨none, sweepError describe (CommittedStage.sweep l.committed world).1⟩ := by
        rw [Fortune.of, commissioned]
      rw [told]
      rcases scope with _ | _ | _ | reason
      · exact stands.provide_owned commissioned
      · exact stands.provide_accepted rfl commissioned
      · exact stands.provide_accepted rfl commissioned
      · exact stands.provide_turnedAway commissioned

/-! ### Finishing and firing -/

theorem Stands.finish (stands : Stands stages scope start phase g) :
    Goes describe stages scope start g (g.finishWith record 0).2
      (Story.tell scope (Fortune.of describe stages start) phase .finish).1
      (Story.tell scope (Fortune.of describe stages start) phase .finish).2 := by
  cases scope with
  | global host =>
    rw [finishWith_global stands.settled]
    have goes : Goes describe stages (.global host) start g
        (g.put 0 { g.provider 0 with told := .finishDeferred :: (g.provider 0).told } g.world)
        [Story.deferral] phase :=
      ⟨stands.noted _ _, reports_put stands.inside [.finishDeferred] rfl⟩
    cases phase <;> exact goes
  | owned =>
    have owns : g.finishWith record 0 = g.teardownWith record 0 := by
      rw [finishWith, stands.settled]
    rw [owns]
    by_cases live : phase = .ended
    · subst live
      rw [teardownWith_set record stands.provider.of_ended]
      exact ⟨stands, (List.append_nil _).symm⟩
    · have goes := stands.teardown describe live rfl rfl rfl
        (stands.bare (Or.inr rfl))
      cases phase <;> exact goes

theorem Stands.unhooked_bare (stands : Stands stages scope start phase g) (host : HookHost) :
    ((g.unhooked 0).registry host).pending = [] := by
  obtain ⟨id, slot, pending⟩ := stands.hooks
  have settled : ((g.update 0 fun q => { q with hook := none }).provider 0).scope = scope := by
    rw [update_eq_put, provider_put_self stands.inside]
    exact stands.settled
  rw [unhooked, registry_dropHook, settled, registry_update]
  by_cases hooked : phase = .up ∧ scope = .global host
  · obtain ⟨up, hosted⟩ := hooked
    rw [slot up (by rw [hosted]; rfl)]
    dsimp only
    rw [if_pos hosted, HookRegistry.deregister]
    simp [pending, up, hosted]
  · have none := pending host
    rw [if_neg hooked] at none
    cases (g.provider 0).hook with
    | none => exact none
    | some other =>
      dsimp only
      split
      · simp [HookRegistry.deregister, none]
      · exact none

theorem Stands.finishNow (describe : ε → String) (stands : Stands stages scope start phase g) :
    Goes describe stages scope start g (g.finishNowWith record 0).2
      (Story.finishing (Fortune.of describe stages start) phase) .ended := by
  have there := provider_unhooked stands.inside
  have bare := stands.unhooked_bare
  rw [finishNowWith_unhooked]
  by_cases live : phase = .ended
  · subst live
    have finished : ((g.unhooked 0).provider 0).finished = true := by
      rw [there]
      exact stands.provider.of_ended
    rw [teardownWith_set record finished]
    constructor
    · exact ⟨length_unhooked.trans stands.alone, by rw [there]; exact stands.settled,
        by rw [there]; exact stands.quiet, .ended finished,
        hooks_of_bare (Or.inl (by decide)) bare⟩
    · rw [reports, there]
      exact (List.append_nil _).symm
  · exact stands.teardown describe live length_unhooked there world_unhooked bare

/-- What a hook tells: the teardown, and its failure once more. -/
theorem reports_atExit (known : 0 < g'.providers.length) (l : Lifecycle σ ε π)
    (start' world : σ) :
    (g'.put 0 ((g.provider 0).tornDownAtExit (l.decommission start').1) world).reports describe =
      g.reports describe ++
        (Story.teardown (sweepError describe (CommittedStage.sweep l.committed start').1) ++
          ((sweepError describe (CommittedStage.sweep l.committed start').1).map
            Story.lament).toList) := by
  generalize swept : (CommittedStage.sweep l.committed start').1 = failures
  by_cases clean : failures.isEmpty = true
  · have outcome : (l.decommission start').1 = .ok () := by
      simp only [Lifecycle.decommission, swept, clean, if_true]
    rw [outcome, sweepError, if_pos clean]
    exact reports_put known [.finishCompleted none, .finishStarted] rfl
  · have outcome : (l.decommission start').1 = .error (.decommission failures) := by
      simp only [Lifecycle.decommission, swept, clean]
      rfl
    rw [outcome, sweepError, if_neg clean]
    exact reports_put known [.exitTeardownFailed (.decommission failures),
      .finishCompleted (some (.decommission failures)), .finishStarted] rfl

/-- A firing runs the hook if it is pending, and else it does nothing. -/
theorem Stands.fireWith_eq (stands : Stands stages scope start phase g) (host : HookHost) :
    (g.fireWith record host).2 = if phase = .up ∧ scope = .global host then
      teardownAtExitWith record 0 (g.drainHooks host).2 else (g.drainHooks host).2 := by
  obtain ⟨id, -, pending⟩ := stands.hooks
  have fired : (g.fireWith record host).2 = ((g.registry host).pending.map Prod.snd).foldl
      (fun g p => teardownAtExitWith record p g) (g.drainHooks host).2 := by
    rw [← drainHooks_fst]
    rfl
  rw [fired, pending host]
  split <;> rfl

/-- The hook tears the provider down. -/
theorem Stands.fireWith_up {host : HookHost} (stands : Stands stages (.global host) start .up g) :
    (g.fireWith record host).2 = (g.drainHooks host).2.put 0
      ((g.provider 0).tornDownAtExit ((g.provider 0).lifecycle.decommission g.world).1)
      ((g.provider 0).lifecycle.decommission g.world).2.2 := by
  obtain ⟨running, -⟩ := stands.provider.of_provided (by decide) (by decide)
  have alone : (g.drainHooks host).2.providers.length = 1 := by
    rw [length_drainHooks, stands.alone]
  have there : (g.drainHooks host).2.provider 0 = g.provider 0 := provider_drainHooks ..
  rw [stands.fireWith_eq, if_pos ⟨rfl, rfl⟩,
    teardownAtExitWith_record (alone ▸ Nat.zero_lt_one) (by rw [there]; exact running), there,
    world_drainHooks]

theorem Stands.fire (stands : Stands stages scope start phase g) (host : HookHost) :
    Goes describe stages scope start g (g.fireWith record host).2
      (Story.tell scope (Fortune.of describe stages start) phase (.fire host)).1
      (Story.tell scope (Fortune.of describe stages start) phase (.fire host)).2 := by
  obtain ⟨id, slot, pending⟩ := stands.hooks
  have alone : (g.drainHooks host).2.providers.length = 1 := by
    rw [length_drainHooks, stands.alone]
  have there : (g.drainHooks host).2.provider 0 = g.provider 0 := provider_drainHooks ..
  by_cases hooked : phase = .up ∧ scope = .global host
  · obtain ⟨rfl, rfl⟩ := hooked
    obtain ⟨product, commissioned⟩ := stands.provider.of_up
    have told : Fortune.of describe stages start = ⟨none, sweepError describe
        (CommittedStage.sweep (g.provider 0).lifecycle.committed g.world).1⟩ := by
      rw [Fortune.of, commissioned]
    rw [stands.fireWith_up, told]
    simp only [Story.tell, if_true]
    constructor
    · refine stands_put alone (by simpa using stands.settled) (by simpa using stands.quiet)
        (.ended (by simp)) (hooks_of_bare (Or.inl (by decide)) fun other => ?_)
      rw [registry_drainHooks]
      split
      · rfl
      · rename_i different
        rw [pending, if_neg]
        rintro ⟨-, hosted⟩
        exact different (Scope.global.inj hosted).symm
    · exact reports_atExit (alone ▸ Nat.zero_lt_one) (g.provider 0).lifecycle g.world _
  · -- No hook is pending, and nothing happens.
    rw [stands.fireWith_eq, if_neg hooked]
    have still : Stands stages scope start phase (g.drainHooks host).2 := by
      refine ⟨alone, by rw [there]; exact stands.settled, by rw [there]; exact stands.quiet,
        by rw [there, world_drainHooks]; exact stands.provider, id, by rw [there]; exact slot,
        fun other => ?_⟩
      rw [registry_drainHooks]
      split
      · rename_i same
        rw [same, if_neg hooked]
      · exact pending other
    have untold : (g.drainHooks host).2.reports describe = g.reports describe ++ [] := by
      rw [reports, there, List.append_nil]
      rfl
    have tale : Story.tell scope (Fortune.of describe stages start) phase (.fire host) =
        ([], phase) := by
      cases phase with
      | up => exact if_neg fun hosted => hooked ⟨rfl, hosted⟩
      | new | failed | ended => rfl
    rw [tale]
    exact ⟨still, untold⟩

/-! ### Main result -/

theorem Stands.afterCall (describe : ε → String) (stands : Stands stages scope start phase g)
    (call : ProviderCall) :
    Goes describe stages scope start g (g.afterCall call)
      (Story.tell scope (Fortune.of describe stages start) phase call).1
      (Story.tell scope (Fortune.of describe stages start) phase call).2 := by
  have quiet := stands.unreactive.emitFrom
  cases call with
  | provide =>
    rw [ProviderGroup.afterCall, ProviderGroup.provide, quiet]
    exact stands.provide
  | finish =>
    rw [ProviderGroup.afterCall, ProviderGroup.finish, quiet]
    exact stands.finish
  | finishNow =>
    rw [ProviderGroup.afterCall, ProviderGroup.finishNow, quiet]
    have goes := stands.finishNow describe
    cases phase <;> exact goes
  | fire host =>
    rw [ProviderGroup.afterCall, ProviderGroup.fire, quiet]
    exact stands.fire host

theorem Stands.afterCalls (describe : ε → String) (stands : Stands stages scope start phase g)
    (calls : List ProviderCall) :
    (∃ phase, Stands stages scope start phase (g.afterCalls calls)) ∧
      (g.afterCalls calls).reports describe = g.reports describe ++
        story scope (Fortune.of describe stages start) phase calls := by
  induction calls generalizing g phase with
  | nil => exact ⟨⟨phase, stands⟩, (List.append_nil _).symm⟩
  | cons call rest ih =>
    obtain ⟨stands', told⟩ := stands.afterCall describe call
    obtain ⟨stands'', more⟩ := ih stands'
    refine ⟨stands'', ?_⟩
    rw [story, ← List.append_assoc, ← told]
    exact more

/-- Through any calls on one provider its observer is told the story of what happened, and nothing
else. So a commissioning and a teardown are told of at most once, and their ends with them. What the
finish of a global provider does is to tell the observer that it is put off. -/
theorem events_told (stages : List (Stage σ ε π)) (scope : Scope) (start : σ)
    (describe : ε → String) (calls : List ProviderCall) :
    let g := (ofChains start [(stages, scope)]).afterCalls calls
    g.reports describe = story scope (Fortune.of describe stages start) .new calls ∧
    (scope.isGlobal = true → g.finish 0 = (.ok (), g.record 0 .finishDeferred)) ∧
    Story.only Story.commissionKinds (g.reports describe) ∈
      [[], [.commissionStarted, .commissionSucceeded], [.commissionStarted, .commissionFailed]] ∧
    Story.only Story.finishKinds (g.reports describe) ∈
      [[], [.finishStarted, .finishCompleted]] := by
  intro g
  obtain ⟨⟨phase, stands⟩, told⟩ :=
    (Stands.ofChains stages scope start).afterCalls describe calls
  have untold : (ofChains start [(stages, scope)]).reports describe = [] := rfl
  rw [untold, List.nil_append] at told
  refine ⟨told, fun isGlobal => ?_, ?_, ?_⟩
  · rw [ProviderGroup.finish, stands.unreactive.emitFrom, finishWith, stands.settled]
    cases scope with
    | owned => cases isGlobal
    | global host => rfl
  · rw [told]
    exact Story.only_commission_story calls
  · rw [told]
    exact Story.only_finish_story calls

end ProviderGroup

end ContainerFixture
