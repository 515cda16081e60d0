import ContainerFixture.Proofs.Provider.Events

/-!
# Who is told of a failed teardown

The failures of a teardown go to whoever finished the provider. If a hook did, nobody is there to be
told, and a notice of them goes to the observer. A third way was missed: a provider whose exit hook
is refused is torn down from within the call that was to provide, and that call answers with the
refusal only (`sweep_told_to_nobody`).

## Main result

`sweep_reported`: through any calls on one provider, the failures of its only sweep are told to one
caller or in one notice, unless its host takes no hook, and then to nobody. In each case the event
that completes the teardown has them. No other call that ends the use of a provider runs a stage or
answers with an error.

## Proof strategy

`Moves` is what one call makes of the provider and what it answers, one constructor for each way
through the code. `Reported` is the invariant, kept by each of them (`Reported.afterMove`).
-/

namespace ContainerFixture

variable {σ ε π : Type}

/-! ### Where failures are told -/

/-- The failures of a sweep that an error carries. -/
def LifecycleError.sweepFailures? : LifecycleError ε → Option (List (StageFailure ε))
  | decommission failures => some failures
  | firstProvision cause => cause.sweepFailures?
  | commission _ _ _ | alreadyFinished | alreadyCommissioned | exitHook _ => none

namespace Event

/-- The failures with which a teardown was completed. -/
def completedWith? : Event ε → Option (List (StageFailure ε))
  | finishCompleted failure => failure.bind LifecycleError.sweepFailures?
  | _ => none

/-- The failures that a notice is about. -/
def noticeOf? : Event ε → Option (List (StageFailure ε))
  | exitTeardownFailed cause => cause.sweepFailures?
  | _ => none

end Event

namespace Provider

def completed (q : Provider σ ε π) : List (List (StageFailure ε)) :=
  q.events.filterMap Event.completedWith?

def noticed (q : Provider σ ε π) : List (List (StageFailure ε)) :=
  q.events.filterMap Event.noticeOf?

theorem completed_of_told {q q' : Provider σ ε π} (new : List (Event ε))
    (told : q'.told = new ++ q.told) :
    q'.completed = q.completed ++ new.reverse.filterMap Event.completedWith? := by
  rw [completed, events, told, List.reverse_append, List.filterMap_append]
  rfl

theorem noticed_of_told {q q' : Provider σ ε π} (new : List (Event ε))
    (told : q'.told = new ++ q.told) :
    q'.noticed = q.noticed ++ new.reverse.filterMap Event.noticeOf? := by
  rw [noticed, events, told, List.reverse_append, List.filterMap_append]
  rfl

end Provider

/-- The failure that a provision is of, if it is of one. -/
def Provision.failure? (provision : Provision ε π) : Option (LifecycleError ε) :=
  match provision.outcome with
  | .ok _ => none
  | .error cause => some cause

namespace ProviderGroup

/-- The error that a call answers with, if it does. A firing answers with none. -/
def answer (g : ProviderGroup σ ε π) : ProviderCall → Option (LifecycleError ε)
  | .provide => (g.provide 0).1.failure?
  | .finish => failureOf (g.finish 0).1
  | .finishNow => failureOf (g.finishNow 0).1
  | .fire _ => none

/-- The failures of sweeps that callers were told of, call by call. -/
def returned (g : ProviderGroup σ ε π) : List ProviderCall → List (List (StageFailure ε))
  | [] => []
  | call :: rest =>
    ((g.answer call).bind LifecycleError.sweepFailures?).toList ++ (g.afterCall call).returned rest

end ProviderGroup

/-! ### What a call does -/

/-- What a call makes of a provider and of its world, and the error that it answers with. -/
inductive Provider.Moves (stages : List (Stage σ ε π)) (scope : Scope) (start : σ)
    (q : Provider σ ε π) (world : σ) :
    ProviderCall → Option (LifecycleError ε) → Provider σ ε π → σ → Prop where
  /-- The provider was asked before, or it is finished. -/
  | again {provision : Provision ε π} {made : Nat} (new : List (Event ε))
      (known : q.provided = some provision ∨ provision.outcome = .error .alreadyFinished)
      (idle : ∀ event ∈ new, event = .provideStarted ∨ event = .provideCompleted) :
      Moves stages scope start q world .provide provision.failure?
        { q with made, told := new ++ q.told } world
  | unwound {cause : LifecycleError ε} {l : Lifecycle σ ε π} {after : σ}
      (running : q.finished = false) (unprovided : q.provided = none)
      (failed : Lifecycle.commission { stages } start = (.error cause, l, after)) :
      Moves stages scope start q world .provide (some cause)
        { q with
          lifecycle := l
          made := q.made + 1
          provided := some ⟨q.made, .error cause⟩
          told := [.provideCompleted, .commissionFailed cause, .commissionStarted,
            .provideStarted] ++ q.told } after
  | commissioned {product : Option π} {l : Lifecycle σ ε π} {after : σ} {hook : Option HookId}
      (running : q.finished = false) (unprovided : q.provided = none)
      (succeeded : Lifecycle.commission { stages } start = (.ok product, l, after))
      (taken : scope.isRefused = false) :
      Moves stages scope start q world .provide none
        { q with
          lifecycle := l
          made := q.made + 1
          provided := some ⟨q.made, .ok product⟩
          hook
          told := [.provideCompleted, .commissionSucceeded, .commissionStarted,
            .provideStarted] ++ q.told } after
  /-- The exit hook is refused. What is returned is the refusal. -/
  | turnedAway {product : Option π} {l : Lifecycle σ ε π} {after : σ} {reason : String}
      (running : q.finished = false) (unprovided : q.provided = none)
      (succeeded : Lifecycle.commission { stages } start = (.ok product, l, after))
      (refused : scope = .global (.refusing reason)) :
      Moves stages scope start q world .provide (some (.exitHook reason))
        { q with
          finished := true
          lifecycle := { l with committed := [] }
          made := q.made + 1
          provided := some ⟨q.made, .error (.exitHook reason)⟩
          told := [.provideCompleted, .finishCompleted (failureOf (l.decommission after).1),
            .finishStarted, .commissionSucceeded, .commissionStarted, .provideStarted] ++ q.told }
        (l.decommission after).2.2
  /-- The use of the provider is ended by nobody, or once more. -/
  | still {call : ProviderCall} {hook : Option HookId} (new : List (Event ε))
      (ending : call ≠ .provide) (idle : ∀ event ∈ new, event = .finishDeferred) :
      Moves stages scope start q world call none { q with hook, told := new ++ q.told } world
  | tornDown {call : ProviderCall} {hook : Option HookId} (ending : call ≠ .provide)
      (running : q.finished = false) :
      Moves stages scope start q world call (failureOf (q.lifecycle.decommission world).1)
        (tornDown (q.lifecycle.decommission world).1 { q with hook })
        (q.lifecycle.decommission world).2.2
  | atExit {host : HookHost} (running : q.finished = false) (hosted : scope = .global host)
      (taken : scope.isRefused = false) :
      Moves stages scope start q world (.fire host) none
        (q.tornDownAtExit (q.lifecycle.decommission world).1)
        (q.lifecycle.decommission world).2.2

namespace ProviderGroup

variable {stages : List (Stage σ ε π)} {scope : Scope} {start : σ} {phase : ProviderPhase}
  {g g' : ProviderGroup σ ε π} {host : HookHost}

theorem Stands.moves_provide (stands : Stands stages scope start phase g) :
    (g.provider 0).Moves stages scope start g.world .provide (g.provideWith record 0).1.failure?
      ((g.provideWith record 0).2.provider 0) (g.provideWith record 0).2.world := by
  cases phase with
  | ended =>
    rw [provideWith_finished stands.provider.of_ended]
    dsimp only
    rw [provider_put_self stands.inside]
    exact .again [] (Or.inr rfl) (by simp)
  | up | failed =>
    obtain ⟨running, provision, provided⟩ := stands.provider.of_provided (by decide) (by decide)
    rw [provideWith_provided stands.inside running provided]
    dsimp only
    rw [provider_put_self stands.inside]
    exact .again [.provideCompleted, .provideStarted] (Or.inl provided) (by simp)
  | new =>
    obtain ⟨running, unprovided, bare, lifecycle, here⟩ := stands.provider.of_new
    rcases commissioned : Lifecycle.commission { stages } start with ⟨cause | product, l, world⟩
    · have failed := commissioned
      rw [← lifecycle, ← here] at failed
      rw [provideWith_refused stands.inside running unprovided failed]
      dsimp only
      rw [provider_put_self stands.inside]
      exact .unwound running unprovided commissioned
    · have succeeded := commissioned
      rw [← lifecycle, ← here] at succeeded
      cases scope with
      | owned =>
        rw [stands.provideWith_owned commissioned]
        dsimp only
        rw [provider_put_self stands.inside]
        exact .commissioned running unprovided commissioned rfl
      | global host =>
        rcases registered : (g.registerHook host 0).1 with reason | id
        · obtain ⟨rfl, -⟩ := registerHook_error registered
          rw [stands.provideWith_turnedAway commissioned]
          dsimp only
          rw [provider_put_self stands.inside]
          exact .turnedAway running unprovided commissioned rfl
        · obtain ⟨rfl, -⟩ := registerHook_ok registered
          have taken : (Scope.global host).isRefused = false := by
            cases host with
            | refusing => cases registered
            | manual | process => rfl
          have known : 0 < (g.registerHook host 0).2.providers.length := by
            rw [length_registerHook]
            exact stands.inside
          rw [provideWith_accepted stands.inside running unprovided stands.settled bare succeeded
            registered]
          dsimp only
          rw [provider_put_self known]
          exact .commissioned running unprovided commissioned taken

/-- A teardown by a caller, once the hook is out of the way. -/
theorem moves_teardown {call : ProviderCall} {hook : Option HookId} (ending : call ≠ .provide)
    (inside : 0 < g'.providers.length) (there : g'.provider 0 = { g.provider 0 with hook })
    (world : g'.world = g.world) :
    (g.provider 0).Moves stages scope start g.world call (failureOf (g'.teardownWith record 0).1)
      ((g'.teardownWith record 0).2.provider 0) (g'.teardownWith record 0).2.world := by
  cases finished : (g.provider 0).finished with
  | true =>
    rw [teardownWith_set record (by rw [there]; exact finished), there, world]
    exact .still [] ending (by simp)
  | false =>
    rw [teardownWith_record inside (by rw [there]; exact finished), there, world]
    dsimp only
    rw [provider_put_self inside]
    exact .tornDown ending finished

theorem Stands.moves_finish (stands : Stands stages scope start phase g) :
    (g.provider 0).Moves stages scope start g.world .finish (failureOf (g.finishWith record 0).1)
      ((g.finishWith record 0).2.provider 0) (g.finishWith record 0).2.world := by
  cases scope with
  | owned =>
    have owns : g.finishWith record 0 = g.teardownWith record 0 := by
      rw [finishWith, stands.settled]
    rw [owns]
    exact moves_teardown (by simp) stands.inside rfl rfl
  | global host =>
    rw [finishWith_global stands.settled]
    dsimp only
    rw [provider_put_self stands.inside]
    exact .still [.finishDeferred] (by simp) (by simp)

theorem Stands.moves_fire (stands : Stands stages scope start phase g) (host : HookHost) :
    (g.provider 0).Moves stages scope start g.world (.fire host) none
      ((g.fireWith record host).2.provider 0) (g.fireWith record host).2.world := by
  by_cases hooked : phase = .up ∧ scope = .global host
  · obtain ⟨rfl, rfl⟩ := hooked
    obtain ⟨running, -⟩ := stands.provider.of_provided (by decide) (by decide)
    have taken : (Scope.global host).isRefused = false := by
      obtain ⟨id, -, pending⟩ := stands.hooks
      have hook := pending host
      rw [if_pos ⟨rfl, rfl⟩] at hook
      cases host with
      | refusing => cases hook
      | manual | process => rfl
    have known : 0 < (g.drainHooks host).2.providers.length := by
      rw [length_drainHooks]
      exact stands.inside
    rw [stands.fireWith_up, provider_put_self known]
    exact .atExit running rfl taken
  · rw [stands.fireWith_eq, if_neg hooked, provider_drainHooks, world_drainHooks]
    exact .still [] (by simp) (by simp)

/-- Every call goes one of these ways. -/
theorem Stands.moves (stands : Stands stages scope start phase g) (call : ProviderCall) :
    (g.provider 0).Moves stages scope start g.world call (g.answer call)
      ((g.afterCall call).provider 0) (g.afterCall call).world := by
  have quiet := stands.unreactive.emitFrom
  cases call with
  | provide =>
    rw [answer, ProviderGroup.afterCall, ProviderGroup.provide, quiet]
    exact stands.moves_provide
  | finish =>
    rw [answer, ProviderGroup.afterCall, ProviderGroup.finish, quiet]
    exact stands.moves_finish
  | finishNow =>
    rw [answer, ProviderGroup.afterCall, ProviderGroup.finishNow, quiet, finishNowWith_unhooked]
    refine moves_teardown (by simp) ?_ (provider_unhooked stands.inside) world_unhooked
    rw [length_unhooked]
    exact stands.inside
  | fire host =>
    rw [answer, ProviderGroup.afterCall, ProviderGroup.fire, quiet]
    exact stands.moves_fire host

end ProviderGroup

/-! ### The invariant -/

/-- The failures of undoing what a first commissioning leaves committed. -/
def undoingFailures (stages : List (Stage σ ε π)) (start : σ) : List (StageFailure ε) :=
  let (_, l, world) := Lifecycle.commission { stages } start
  (CommittedStage.sweep l.committed world).1

theorem undoingFailures_eq {stages : List (Stage σ ε π)} {start world : σ}
    {outcome : Except (LifecycleError ε) (Option π)} {l : Lifecycle σ ε π}
    (commissioned : Lifecycle.commission { stages } start = (outcome, l, world)) :
    undoingFailures stages start = (CommittedStage.sweep l.committed world).1 := by
  rw [undoingFailures, commissioned]

/-- A list of failures as something to tell: nothing if there are none. -/
def asReport (failures : List (StageFailure ε)) : List (List (StageFailure ε)) :=
  if failures.isEmpty then [] else [failures]

/-- The failures of the only sweep of a provider. One that never provided has nothing to sweep. -/
def Provider.sweptFailures (stages : List (Stage σ ε π)) (start : σ) (q : Provider σ ε π) :
    List (StageFailure ε) :=
  if q.finished && q.provided.isSome then undoingFailures stages start else []

theorem report_decommission (l : Lifecycle σ ε π) (world : σ) :
    ((failureOf (l.decommission world).1).bind LifecycleError.sweepFailures?).toList =
      asReport (CommittedStage.sweep l.committed world).1 := by
  unfold Lifecycle.decommission asReport
  dsimp only
  split <;> rfl

/-- A failed commissioning leaves nothing to sweep, and its error is of no sweep. -/
theorem commission_failed {stages : List (Stage σ ε π)} {start world : σ} {cause : LifecycleError ε}
    {l : Lifecycle σ ε π}
    (failed : Lifecycle.commission { stages } start = (.error cause, l, world)) :
    l.committed = [] ∧ cause.sweepFailures? = none := by
  rw [Lifecycle.commission, if_pos (by rfl)] at failed
  split at failed
  · cases failed
  · cases failed
    exact ⟨rfl, rfl⟩

section
variable (outcome : Except (LifecycleError ε) Unit) (q : Provider σ ε π)

theorem Provider.completed_tornDown : (q.tornDown outcome).completed =
    q.completed ++ ((failureOf outcome).bind LifecycleError.sweepFailures?).toList := by
  rw [completed_of_told (q := q) [.finishCompleted (failureOf outcome), .finishStarted] rfl]
  cases failed : (failureOf outcome).bind LifecycleError.sweepFailures? <;>
    simp [List.filterMap_cons, Event.completedWith?, failed]

theorem Provider.noticed_tornDown : (q.tornDown outcome).noticed = q.noticed := by
  rw [noticed_of_told (q := q) [.finishCompleted (failureOf outcome), .finishStarted] rfl]
  simp [Event.noticeOf?]

theorem Provider.completed_tornDownAtExit :
    (q.tornDownAtExit outcome).completed = (q.tornDown outcome).completed := by
  cases outcome with
  | ok => rfl
  | error cause =>
    rw [completed_of_told (q := q.tornDown (.error cause)) [.exitTeardownFailed cause] rfl]
    simp [Event.completedWith?]

theorem Provider.noticed_tornDownAtExit : (q.tornDownAtExit outcome).noticed =
    q.noticed ++ ((failureOf outcome).bind LifecycleError.sweepFailures?).toList := by
  cases outcome with
  | ok =>
    rw [failureOf, Option.bind_none, Option.toList_none, List.append_nil]
    exact noticed_tornDown ..
  | error cause =>
    rw [noticed_of_told (q := q.tornDown (.error cause)) [.exitTeardownFailed cause] rfl,
      noticed_tornDown]
    cases failed : cause.sweepFailures? <;> simp [failureOf, Event.noticeOf?, failed]

end

/-- What was told of the sweep of a provider, with the failures that callers were told of. As long
as it is not finished, `due` is what the sweep will fail with. -/
structure Provider.Reported (stages : List (Stage σ ε π)) (scope : Scope) (start : σ)
    (returned : List (List (StageFailure ε))) (q : Provider σ ε π) (world : σ) : Prop where
  completed : q.completed = asReport (q.sweptFailures stages start)
  told : returned ++ q.noticed = if scope.isRefused then [] else q.completed
  due : q.finished = false → (CommittedStage.sweep q.lifecycle.committed world).1 =
    if q.provided.isSome then undoingFailures stages start else []
  harmless : q.finished = false → scope.isRefused = true →
    (CommittedStage.sweep q.lifecycle.committed world).1 = []
  silent : ∀ provision, q.provided = some provision →
    provision.failure?.bind LifecycleError.sweepFailures? = none

namespace Provider.Reported

variable {stages : List (Stage σ ε π)} {scope : Scope} {start world world' : σ}
  {returned : List (List (StageFailure ε))} {q q' : Provider σ ε π} {call : ProviderCall}
  {answer : Option (LifecycleError ε)}

/-- Nothing is told before the sweep. -/
theorem untold (reported : Reported stages scope start returned q world)
    (running : q.finished = false) : returned = [] ∧ q.noticed = [] ∧ q.completed = [] := by
  have completed := reported.completed
  have told := reported.told
  rw [sweptFailures, running, Bool.false_and, if_neg Bool.false_ne_true] at completed
  have none : q.completed = [] := completed
  rw [none, ite_self, List.append_eq_nil_iff] at told
  exact ⟨told.1, told.2, none⟩

/-- Events that tell of no sweep change nothing. -/
theorem noted (reported : Reported stages scope start returned q world) (hook : Option HookId)
    (made : Nat) {new : List (Event ε)}
    (idle : ∀ event ∈ new, event.completedWith? = none ∧ event.noticeOf? = none) :
    Reported stages scope start returned { q with hook, made, told := new ++ q.told } world := by
  have completed : Provider.completed { q with hook, made, told := new ++ q.told } =
      q.completed := by
    rw [completed_of_told (q := q) new rfl, List.filterMap_eq_nil_iff.mpr, List.append_nil]
    exact fun event mem => (idle event (List.mem_reverse.mp mem)).1
  have noticed : Provider.noticed { q with hook, made, told := new ++ q.told } = q.noticed := by
    rw [noticed_of_told (q := q) new rfl, List.filterMap_eq_nil_iff.mpr, List.append_nil]
    exact fun event mem => (idle event (List.mem_reverse.mp mem)).2
  exact ⟨completed.trans reported.completed, by rw [noticed, completed]; exact reported.told,
    reported.due, reported.harmless, reported.silent⟩

/-- The chain was commissioned for the first time, and there is something to sweep or nothing. -/
theorem asked (reported : Reported stages scope start returned q world)
    (running : q.finished = false) {l : Lifecycle σ ε π} {provision : Provision ε π} {made : Nat}
    {hook : Option HookId} {new : List (Event ε)}
    (idle : ∀ event ∈ new, event.completedWith? = none ∧ event.noticeOf? = none)
    (due : (CommittedStage.sweep l.committed world').1 = undoingFailures stages start)
    (harmless : scope.isRefused = true → undoingFailures stages start = [])
    (silent : provision.failure?.bind LifecycleError.sweepFailures? = none) :
    Reported stages scope start returned
      { q with lifecycle := l, made, provided := some provision, hook, told := new ++ q.told }
      world' := by
  obtain ⟨completed, told, -, -, -⟩ := reported.noted hook made idle
  refine ⟨completed.trans ?_, told, fun _ => due, fun _ refused => due.trans (harmless refused), ?_⟩
  · simp only [sweptFailures, running, Bool.false_and]
  · rintro _ ⟨⟩
    exact silent

theorem afterMove (reported : Reported stages scope start returned q world)
    (moves : q.Moves stages scope start world call answer q' world') :
    Reported stages scope start
      (returned ++ (answer.bind LifecycleError.sweepFailures?).toList) q' world' := by
  cases moves with
  | @again provision made new known idle =>
    have silent : provision.failure?.bind LifecycleError.sweepFailures? = none := by
      rcases known with provided | finished
      · exact reported.silent provision provided
      · rw [Provision.failure?, finished]
        rfl
    rw [silent, Option.toList_none, List.append_nil]
    refine reported.noted _ _ fun event mem => ?_
    rcases idle event mem with rfl | rfl <;> exact ⟨rfl, rfl⟩
  | @unwound cause l _ running unprovided failed =>
    obtain ⟨free, silent⟩ := commission_failed failed
    have clean : undoingFailures stages start = [] := by
      rw [undoingFailures_eq failed, free]
      rfl
    rw [Option.bind_some, silent, Option.toList_none, List.append_nil]
    exact reported.asked running (by simp [Event.completedWith?, Event.noticeOf?])
      (by rw [free, clean]; rfl) (fun _ => clean) silent
  | commissioned running unprovided succeeded taken =>
    rw [Option.bind_none, Option.toList_none, List.append_nil]
    refine reported.asked running (by simp [Event.completedWith?, Event.noticeOf?])
      (undoingFailures_eq succeeded).symm (fun refused => ?_) rfl
    rw [taken] at refused
    cases refused
  | @turnedAway product l after reason running unprovided succeeded refused =>
    -- The refusal is all that the caller is told.
    obtain ⟨rfl, unnoticed, uncompleted⟩ := reported.untold running
    have readied : (q.readied l).completed = [] := (completed_of_told (q := q)
      [.commissionSucceeded, .commissionStarted, .provideStarted] rfl).trans
        ((List.append_nil _).trans uncompleted)
    refine ⟨?_, ?_, nofun, nofun, ?_⟩
    · refine (completed_of_told (q := (q.readied l).tornDown (l.decommission after).1)
        [.provideCompleted] rfl).trans ?_
      rw [completed_tornDown, report_decommission, readied, ← undoingFailures_eq succeeded]
      exact List.append_nil _
    · rw [refused]
      refine (congrArg (_ ++ ·) (noticed_of_told (q := q) [.provideCompleted, _,
        .finishStarted, .commissionSucceeded, .commissionStarted, .provideStarted] rfl)).trans ?_
      rw [unnoticed]
      rfl
    · rintro _ ⟨⟩
      rfl
  | still new ending idle =>
    rw [Option.bind_none, Option.toList_none, List.append_nil]
    refine reported.noted _ _ fun event mem => ?_
    rw [idle event mem]
    exact ⟨rfl, rfl⟩
  | @tornDown call hook ending running =>
    obtain ⟨rfl, unnoticed, uncompleted⟩ := reported.untold running
    rw [report_decommission, List.nil_append]
    have completed : (Provider.tornDown (q.lifecycle.decommission world).1
        { q with hook }).completed =
          asReport (CommittedStage.sweep q.lifecycle.committed world).1 := by
      rw [completed_tornDown, report_decommission]
      exact (congrArg (· ++ _) uncompleted).trans (List.nil_append _)
    refine ⟨?_, ?_, nofun, nofun, reported.silent⟩
    · rw [completed, reported.due running]
      rfl
    · rw [completed, noticed_tornDown]
      refine (congrArg (_ ++ ·) unnoticed).trans ((List.append_nil _).trans ?_)
      split
      · rw [reported.harmless running ‹_›]
        rfl
      · rfl
  | atExit running hosted taken =>
    obtain ⟨rfl, unnoticed, uncompleted⟩ := reported.untold running
    have completed : (q.tornDownAtExit (q.lifecycle.decommission world).1).completed =
        asReport (CommittedStage.sweep q.lifecycle.committed world).1 := by
      rw [completed_tornDownAtExit, completed_tornDown, report_decommission, uncompleted,
        List.nil_append]
    refine ⟨?_, ?_, fun live => ?_, fun live => ?_, fun provision provided => ?_⟩
    · rw [completed, reported.due running, sweptFailures, tornDownAtExit_finished,
        tornDownAtExit_provided, Bool.true_and]
    · rw [completed, noticed_tornDownAtExit, unnoticed, report_decommission, taken]
      rfl
    · rw [tornDownAtExit_finished] at live
      cases live
    · rw [tornDownAtExit_finished] at live
      cases live
    · rw [tornDownAtExit_provided] at provided
      exact reported.silent provision provided

/-- Whoever ends the use of the provider makes the sweep, or runs no stage. -/
theorem sweeps_or_stays (reported : Reported stages scope start returned q world)
    (moves : q.Moves stages scope start world call answer q' world') (ending : call ≠ .provide) :
    (q.finished = false ∧ q'.finished = true ∧ (q'.sweptFailures stages start, world') =
        CommittedStage.sweep q.lifecycle.committed world) ∨
      (q'.finished = q.finished ∧ answer = none ∧ world' = world) := by
  cases moves with
  | again | unwound | commissioned | turnedAway => exact absurd rfl ending
  | still => exact Or.inr ⟨rfl, rfl, rfl⟩
  | tornDown _ running => exact Or.inl ⟨running, rfl, Prod.ext (reported.due running).symm rfl⟩
  | atExit running =>
    refine Or.inl ⟨running, tornDownAtExit_finished .., Prod.ext ?_ rfl⟩
    rw [reported.due running, sweptFailures, tornDownAtExit_finished, tornDownAtExit_provided,
      Bool.true_and]

end Provider.Reported

/-! ### Runs -/

namespace ProviderGroup

variable {stages : List (Stage σ ε π)} {scope : Scope} {start : σ} {phase : ProviderPhase}
  {g : ProviderGroup σ ε π} {returned : List (List (StageFailure ε))}

theorem reported_ofChains (stages : List (Stage σ ε π)) (scope : Scope) (start : σ) :
    Provider.Reported stages scope start [] ((ofChains start [(stages, scope)]).provider 0)
      start where
  completed := rfl
  told := (ite_self _).symm
  due _ := rfl
  harmless _ _ := rfl
  silent := nofun

theorem Stands.reported_afterCalls (stands : Stands stages scope start phase g)
    (reported : (g.provider 0).Reported stages scope start returned g.world)
    (calls : List ProviderCall) :
    (∃ phase, Stands stages scope start phase (g.afterCalls calls)) ∧
      ((g.afterCalls calls).provider 0).Reported stages scope start (returned ++ g.returned calls)
        (g.afterCalls calls).world := by
  induction calls generalizing g phase returned with
  | nil => exact ⟨⟨phase, stands⟩, by rw [ProviderGroup.returned, List.append_nil]; exact reported⟩
  | cons call rest ih =>
    have moved := reported.afterMove (stands.moves call)
    obtain ⟨stands', more⟩ := ih (stands.afterCall (fun _ => "") call).stands moved
    refine ⟨stands', ?_⟩
    rw [ProviderGroup.returned, ← List.append_assoc]
    exact more

/-- Through any calls on one provider, in any scope and with any stages, the failures of its sweep
complete the teardown, and they are told to one caller or else in one notice. Only if the exit hook
is refused they are told to nobody. Whoever ends the use of the provider makes the sweep, or is
answered with success while no stage is run. -/
theorem sweep_reported (stages : List (Stage σ ε π)) (scope : Scope) (start : σ)
    (calls : List ProviderCall) :
    let first := ofChains start [(stages, scope)]
    let g := first.afterCalls calls
    let failures := (g.provider 0).sweptFailures stages start
    (g.provider 0).completed = asReport failures ∧
      first.returned calls ++ (g.provider 0).noticed =
        (if scope.isRefused then [] else asReport failures) ∧
      ∀ call, call ≠ .provide →
        let after := g.afterCall call
        ((g.provider 0).finished = false ∧ (after.provider 0).finished = true ∧
          ((after.provider 0).sweptFailures stages start, after.world) =
            CommittedStage.sweep (g.provider 0).lifecycle.committed g.world) ∨
        ((after.provider 0).finished = (g.provider 0).finished ∧ g.answer call = none ∧
          after.world = g.world) := by
  intro first g failures
  obtain ⟨⟨phase, stands⟩, reported⟩ := (Stands.ofChains stages scope start).reported_afterCalls
    (reported_ofChains stages scope start) calls
  have told := reported.told
  rw [List.nil_append, reported.completed] at told
  exact ⟨reported.completed, told, fun call ending =>
    reported.sweeps_or_stays (stands.moves call) ending⟩

/-- A stage could not be undone when the exit hook was refused. The caller is told of the refusal,
and no notice is made. -/
theorem sweep_told_to_nobody :
    let stuck : Stage Unit String Nat :=
      { name := "stuck"
        commission := fun _ world => (.ok 7, world)
        decommission := fun _ world => (.error "container stuck", world) }
    let first := ofChains () [([stuck], .global (.refusing "no room"))]
    let q := (first.afterCalls [.provide]).provider 0
    q.completed = [[⟨⟨0, "stuck"⟩, "container stuck"⟩]] ∧
      first.answer .provide = some (.exitHook "no room") ∧
      first.returned [.provide] = [] ∧ q.noticed = [] :=
  ⟨rfl, rfl, rfl, rfl⟩

end ProviderGroup

end ContainerFixture
