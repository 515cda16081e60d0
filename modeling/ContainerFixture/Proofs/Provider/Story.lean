import ContainerFixture.Provider

/-!
# The story of a provider

What the observer of one provider is to be told, call by call. The story knows where the provider is
to be torn down (`Scope`), and of its stages only how the commissioning goes and what fails when it
is undone (`Fortune`); it has no flags, slots or registries.

## Main results

`Story.only_commission_story` and `Story.only_finish_story`: a commissioning and a teardown are told
of at most once, each with its end.
-/

namespace ContainerFixture

variable {σ ε π : Type}

/-! ### The story -/

/-- A call on a provider, or a firing of the exit hooks of a host. -/
inductive ProviderCall where
  | provide
  | finish
  | finishNow
  | fire (host : HookHost)
deriving DecidableEq, Repr

/-- A kind of event, with the text that comes with it. -/
abbrev Report := EventKind × Option String

def Event.report (describe : ε → String) (event : Event ε) : Report :=
  (event.kind, event.message? describe)

/-- The text of the error of a sweep, if it had failures. -/
def sweepError (describe : ε → String) (failures : List (StageFailure ε)) : Option String :=
  if failures.isEmpty then none
  else some ((LifecycleError.decommission failures).message describe)

/-- How it goes with the stages of a provider. -/
structure Fortune where
  /-- The text of the error with which the commissioning fails, if it does. -/
  commissionError : Option String
  /-- The text of the error with which undoing the commissioned stages fails, if it does. -/
  undoingError : Option String

def Fortune.of (describe : ε → String) (stages : List (Stage σ ε π)) (world : σ) : Fortune :=
  let (outcome, l, world) := Lifecycle.commission { stages } world
  { commissionError := match outcome with
      | .ok _ => none
      | .error cause => some (cause.message describe)
    undoingError := sweepError describe (CommittedStage.sweep l.committed world).1 }

/-- Whether the host of the exit hooks takes none. -/
def Scope.isRefused : Scope → Bool
  | .global (.refusing _) => true
  | .owned | .global .manual | .global .process => false

inductive ProviderPhase where
  /-- Nothing was provided yet. -/
  | new
  /-- The stages are commissioned. -/
  | up
  /-- The commissioning failed. -/
  | failed
  /-- It was torn down. -/
  | ended
deriving DecidableEq, Repr

namespace Story

def teardown (error : Option String) : List Report :=
  [(.finishStarted, none), (.finishCompleted, error)]

/-- What is told of the commissioning, and of the teardown on the spot if it is to be undone at exit
and no hook is taken. -/
def commissioning (scope : Scope) (fortune : Fortune) : List Report :=
  match fortune.commissionError with
  | some text => [(.commissionStarted, none), (.commissionFailed, some text)]
  | none => [(.commissionStarted, none), (.commissionSucceeded, none)] ++
      if scope.isRefused then teardown fortune.undoingError else []

def commissioned (scope : Scope) (fortune : Fortune) : ProviderPhase :=
  match fortune.commissionError with
  | some _ => .failed
  | none => if scope.isRefused then .ended else .up

/-- What is told of a teardown by the owner: the first one tears down what is up. -/
def finishing (fortune : Fortune) : ProviderPhase → List Report
  | .new | .failed => teardown none
  | .up => teardown fortune.undoingError
  | .ended => []

def deferral : Report := (.notice, some "finish ignored, teardown deferred to process exit")

def lament (error : String) : Report :=
  (.notice, some s!"teardown at process exit failed: {error}")

/-- What is told of a call, and the phase after it. -/
def tell (scope : Scope) (fortune : Fortune) :
    ProviderPhase → ProviderCall → List Report × ProviderPhase
  | .ended, .provide => ([], .ended)
  | .new, .provide => ((.provideStarted, none) :: commissioning scope fortune ++
      [(.provideCompleted, none)], commissioned scope fortune)
  | phase, .provide => ([(.provideStarted, none), (.provideCompleted, none)], phase)
  | phase, .finish =>
    if scope.isGlobal then ([deferral], phase) else (finishing fortune phase, .ended)
  | phase, .finishNow => (finishing fortune phase, .ended)
  | .up, .fire host =>
    if scope = .global host then
      (teardown fortune.undoingError ++ (fortune.undoingError.map lament).toList, .ended)
    else ([], .up)
  | phase, .fire _ => ([], phase)

end Story

/-- All that is told over some calls, from a phase on. -/
def story (scope : Scope) (fortune : Fortune) : ProviderPhase → List ProviderCall → List Report
  | _, [] => []
  | phase, call :: calls =>
    (Story.tell scope fortune phase call).1 ++
      story scope fortune (Story.tell scope fortune phase call).2 calls

example : story .owned ⟨none, none⟩ .new [.provide, .provide, .finish] =
    [(.provideStarted, none), (.commissionStarted, none), (.commissionSucceeded, none),
      (.provideCompleted, none), (.provideStarted, none), (.provideCompleted, none),
      (.finishStarted, none), (.finishCompleted, none)] := rfl

/-! ### Brackets of a story -/

namespace Story

variable {scope : Scope} {fortune : Fortune}

/-- Of some reports, the kinds of those that are of given kinds. -/
def only (kinds : List EventKind) (reports : List Report) : List EventKind :=
  (reports.map Prod.fst).filter kinds.contains

theorem only_append (kinds : List EventKind) (reports more : List Report) :
    only kinds (reports ++ more) = only kinds reports ++ only kinds more := by
  rw [only, List.map_append, List.filter_append]
  rfl

def commissionKinds : List EventKind :=
  [.commissionStarted, .commissionSucceeded, .commissionFailed]

def finishKinds : List EventKind := [.finishStarted, .finishCompleted]

theorem only_commission_tell (phase : ProviderPhase) (call : ProviderCall) :
    (only commissionKinds (tell scope fortune phase call).1 = [] ∧
        (phase ≠ .new → (tell scope fortune phase call).2 ≠ .new)) ∨
      (¬phase ≠ .new ∧ (tell scope fortune phase call).2 ≠ .new ∧
        only commissionKinds (tell scope fortune phase call).1 ∈
          [[.commissionStarted, .commissionSucceeded],
            [.commissionStarted, .commissionFailed]]) := by
  cases call with
  | provide =>
    cases phase with
    | up | failed | ended => exact Or.inl ⟨rfl, fun begun => begun⟩
    | new =>
      refine Or.inr ⟨by simp, ?_⟩
      simp only [tell, commissioning, commissioned]
      cases fortune.commissionError with
      | some text => exact ⟨by simp, List.mem_cons_of_mem _ List.mem_cons_self⟩
      | none => cases scope.isRefused <;> exact ⟨by decide, List.mem_cons_self⟩
  | finish =>
    cases isGlobal : scope.isGlobal <;> cases phase <;>
      simp [tell, isGlobal, finishing, teardown, deferral, only, commissionKinds]
  | finishNow =>
    cases phase <;> exact Or.inl ⟨rfl, fun _ => by simp [tell]⟩
  | fire host =>
    cases phase with
    | new | failed | ended => exact Or.inl ⟨rfl, fun begun => begun⟩
    | up =>
      by_cases hosted : scope = .global host
      · cases error : fortune.undoingError <;>
          simp [tell, hosted, teardown, error, lament, only, commissionKinds]
      · simp [tell, hosted, only]

theorem only_finish_tell (phase : ProviderPhase) (call : ProviderCall) :
    (only finishKinds (tell scope fortune phase call).1 = [] ∧
        (phase = .ended → (tell scope fortune phase call).2 = .ended)) ∨
      (¬phase = .ended ∧ (tell scope fortune phase call).2 = .ended ∧
        only finishKinds (tell scope fortune phase call).1 ∈
          [[.finishStarted, .finishCompleted]]) := by
  cases call with
  | provide =>
    cases phase with
    | up | failed | ended => exact Or.inl ⟨rfl, fun same => same⟩
    | new =>
      simp only [tell, commissioning, commissioned]
      cases fortune.commissionError with
      | some text => exact Or.inl ⟨rfl, by simp⟩
      | none =>
        cases scope.isRefused
        · exact Or.inl ⟨rfl, by decide⟩
        · exact Or.inr ⟨by decide, rfl, List.mem_singleton.mpr rfl⟩
  | finish =>
    cases isGlobal : scope.isGlobal <;> cases phase <;>
      simp [tell, isGlobal, finishing, teardown, deferral, only, finishKinds]
  | finishNow =>
    cases phase with
    | ended => exact Or.inl ⟨rfl, fun same => same⟩
    | new | up | failed => exact Or.inr ⟨by decide, rfl, List.mem_singleton.mpr rfl⟩
  | fire host =>
    cases phase with
    | new | failed | ended => exact Or.inl ⟨rfl, fun same => same⟩
    | up =>
      by_cases hosted : scope = .global host
      · cases error : fortune.undoingError <;>
          simp [tell, hosted, teardown, error, lament, only, finishKinds]
      · simp [tell, hosted, only]

/-- Kinds that each call tells all or nothing of, and all of them only in leaving some phases for
good, are told of at most once. -/
theorem only_story {kinds : List EventKind} {words : List (List EventKind)}
    {closed : ProviderPhase → Prop}
    (step : ∀ phase call, (only kinds (tell scope fortune phase call).1 = [] ∧
        (closed phase → closed (tell scope fortune phase call).2)) ∨
      (¬closed phase ∧ closed (tell scope fortune phase call).2 ∧
        only kinds (tell scope fortune phase call).1 ∈ words))
    (phase : ProviderPhase) (calls : List ProviderCall) :
    only kinds (story scope fortune phase calls) = [] ∨
      (¬closed phase ∧ only kinds (story scope fortune phase calls) ∈ words) := by
  induction calls generalizing phase with
  | nil => exact Or.inl rfl
  | cons call rest ih =>
    rw [story, only_append]
    rcases step phase call with ⟨silent, stays⟩ | ⟨unclosed, closes, told⟩
    · rw [silent, List.nil_append]
      rcases ih (tell scope fortune phase call).2 with none | ⟨unclosed, told⟩
      · exact Or.inl none
      · exact Or.inr ⟨fun closed => unclosed (stays closed), told⟩
    · -- once the phases are left, nothing more is told
      rcases ih (tell scope fortune phase call).2 with none | ⟨unclosed', -⟩
      · rw [none, List.append_nil]
        exact Or.inr ⟨unclosed, told⟩
      · exact absurd closes unclosed'

theorem only_commission_story (calls : List ProviderCall) :
    only commissionKinds (story scope fortune .new calls) ∈
      [[], [.commissionStarted, .commissionSucceeded],
        [.commissionStarted, .commissionFailed]] := by
  rcases only_story only_commission_tell .new calls with none | ⟨-, told⟩
  · rw [none]
    exact List.mem_cons_self
  · exact List.mem_cons_of_mem _ told

theorem only_finish_story (calls : List ProviderCall) :
    only finishKinds (story scope fortune .new calls) ∈
      [[], [.finishStarted, .finishCompleted]] := by
  rcases only_story only_finish_tell .new calls with none | ⟨-, told⟩
  · rw [none]
    exact List.mem_cons_self
  · exact List.mem_cons_of_mem _ told

end Story

end ContainerFixture
