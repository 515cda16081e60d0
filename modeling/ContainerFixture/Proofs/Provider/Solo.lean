import ContainerFixture.Proofs.Provider.Memory
import Mathlib.Logic.Relation

/-!
# Calls that run alone

Main results: `provide_solo`, `finish_solo`, `finishNow_solo` and `fire_solo`. A call that one
thread makes while nobody else moves goes, step by step, as the sequential operation does: it leaves
the same group, gives back every guard, and shows the same answer.
-/

namespace ContainerFixture

variable {σ ε π : Type}

/-! ### A machine put in order: its group, then its guards, then where a thread stands -/

namespace Machine

variable (m : Machine σ ε π) (t : Nat) (point other : Point ε π) (g h : ProviderGroup σ ε π)
  (guard : Guard)

@[simp] theorem move_move : (m.move t other).move t point = m.move t point := by
  simp [move, Function.update_idem]

@[simp] theorem move_here (here : m.threads t = point) : m.move t point = m := by
  simp [move, ← here]

@[simp] theorem put_group : m.put m.group = m := rfl

@[simp] theorem put_put : (m.put h).put g = m.put g := rfl

@[simp] theorem put_move : (m.move t point).put g = (m.put g).move t point := rfl

@[simp] theorem put_take : (m.take guard t).put g = (m.put g).take guard t := rfl

@[simp] theorem take_move : (m.move t point).take guard t = (m.take guard t).move t point := rfl

@[simp] theorem free_move : (m.move t point).free guard = (m.free guard).move t point := rfl

@[simp] theorem free_take (unheld : m.holder guard = none) : (m.take guard t).free guard = m := by
  simp [free, take, ← unheld]

end Machine

/-- Any number of steps of one thread. -/
def Alone (t : Nat) : Machine σ ε π → Machine σ ε π → Prop :=
  Relation.ReflTransGen fun m next => ∃ seen, Step t m seen next

namespace Alone

variable {t : Nat} {first middle last : Machine σ ε π}

theorem refl : Alone t first first := Relation.ReflTransGen.refl

theorem step (before : Alone t first middle) {seen : Seen ε π} (step : Step t middle seen last) :
    Alone t first last := before.tail ⟨seen, step⟩

theorem trans (before : Alone t first middle) (after : Alone t middle last) : Alone t first last :=
  Relation.ReflTransGen.trans before after

theorem run (alone : Alone t first last) : ∃ trace, Run first trace last := by
  induction alone with
  | refl => exact ⟨[], .refl⟩
  | tail _ step ih =>
    obtain ⟨trace, run⟩ := ih
    obtain ⟨seen, step⟩ := step
    exact ⟨trace ++ [seen], run.step step⟩

end Alone

/-- Steps of one thread, the last of which shows an answer. -/
def Answers (t : Nat) (first : Machine σ ε π) (seen : Seen ε π) (last : Machine σ ε π) : Prop :=
  ∃ middle, Alone t first middle ∧ Step t middle seen last

theorem Alone.answers {t : Nat} {first middle last : Machine σ ε π} {seen : Seen ε π}
    (before : Alone t first middle) (step : Step t middle seen last) : Answers t first seen last :=
  ⟨middle, before, step⟩

theorem Answers.run {t : Nat} {first last : Machine σ ε π} {seen : Seen ε π}
    (answers : Answers t first seen last) : ∃ trace, Run first (trace ++ [seen]) last := by
  obtain ⟨middle, before, step⟩ := answers
  obtain ⟨trace, run⟩ := before.run
  exact ⟨trace, run.step step⟩

namespace ProviderGroup

variable {m : Machine σ ε π} {t p : Nat}

section
variable (emit : Nat → Event ε → ProviderGroup σ ε π → ProviderGroup σ ε π)
  {g : ProviderGroup σ ε π}

theorem teardownWith_set (set : (g.provider p).finished = true) :
    teardownWith emit p g = (.ok (), g) := by
  simp [teardownWith, set]

theorem teardownWith_clear (clear : (g.provider p).finished = false) :
    teardownWith emit p g =
      let swept := (emit p .finishStarted (g.update p fun q => { q with finished := true })).run p
        Lifecycle.decommission
      (swept.1, emit p (.finishCompleted (failureOf swept.1)) swept.2) := by
  simp only [teardownWith, clear]
  rfl

/-- What a successful commission of a global provider ends with: its exit hook is registered, or it
is torn down. -/
def keptWith (host : HookHost) (product : Option π) (p : Nat) (g : ProviderGroup σ ε π) :
    Provision ε π × ProviderGroup σ ε π :=
  match g.keepForExit host p with
  | (.ok (), g) => g.provisionOf (.ok product) p
  | (.error cause, g) => (teardownWith emit p g).2.provisionOf (.error cause) p

theorem commissionWith_global {host : HookHost} {product : Option π} {g' : ProviderGroup σ ε π}
    (clear : (g.provider p).finished = false)
    (commissioned : (emit p .commissionStarted g).run p Lifecycle.commission = (.ok product, g'))
    (scope : ((emit p .commissionSucceeded g').provider p).scope = .global host) :
    commissionWith emit p g = keptWith emit host product p (emit p .commissionSucceeded g') := by
  simp only [commissionWith, clear, commissioned, scope]
  rfl

end

/-- What a teardown does to a group when the observers only take note. -/
theorem teardown_solo {asker : Asker ε} (here : m.threads t = .teardown p asker .flagging)
    (unheld : m.holder (.lifecycle p) = none) :
    Alone t m ((m.put (m.group.teardownWith record p).2).move t
      (.teardown p asker (.ended (m.group.teardownWith record p).1))) := by
  cases flag : (m.group.provider p).finished with
  | true =>
    have flagged := Alone.refl.step (.flagged here flag)
    simpa [teardownWith_set record flag] using flagged
  | false =>
    have flagged := Alone.refl.step (.flag here flag)
    have locked := flagged.step (.lockDown (Function.update_self t _ _) (by simpa using unheld))
    have swept := locked.step (.sweep (Function.update_self t _ _))
    have told := swept.step (.tell (Function.update_self t _ _))
    simpa [teardownWith_clear record flag, unheld] using told

theorem keep_solo {host : HookHost} {product : Option π}
    (here : m.threads t = .inside p (.claiming host product))
    (slot : m.holder (.slot p) = none) (lifecycle : m.holder (.lifecycle p) = none) :
    Alone t m ((m.put (m.group.keptWith record host product p).2).move t
      (.inside p (.leaving (m.group.keptWith record host product p).1))) := by
  have claimed := Alone.refl.step (.claim here slot)
  by_cases needless : ((m.group.provider p).hook.isSome || (m.group.provider p).finished) = true
  · have kept := claimed.step (.keepNone (Function.update_self t _ _) needless)
    simpa [keptWith, keepForExit, needless, slot] using kept
  · have looked := claimed.step
      (.keep (Function.update_self t _ _) (Bool.eq_false_iff.mpr needless))
    cases answer : m.group.registerHook host p with
    | mk outcome g =>
      cases outcome with
      | ok id =>
        have accepted : (m.group.registerHook host p).1 = .ok id := by rw [answer]
        have registered := looked.step (.register (Function.update_self t _ _) accepted)
        have noted := registered.step (.note (Function.update_self t _ _))
        simpa [keptWith, keepForExit, needless, answer, slot] using noted
      | error reason =>
        -- The slot is given back before the teardown, and the failure fills the cell.
        have declined : (m.group.registerHook host p).1 = .error reason := by rw [answer]
        have refused := looked.step (.refuse (Function.update_self t _ _) declined)
        have ended := refused.trans
          (teardown_solo (Function.update_self t _ _) (by simp [lifecycle]))
        have down := ended.step (.refusedDown (Function.update_self t _ _))
        simpa [keptWith, keepForExit, needless, answer, slot] using down

theorem commission_solo (here : m.threads t = .inside p .locking)
    (slot : m.holder (.slot p) = none) (lifecycle : m.holder (.lifecycle p) = none) :
    Alone t m ((m.put (m.group.commissionWith record p).2).move t
      (.inside p (.leaving (m.group.commissionWith record p).1))) := by
  have locked := Alone.refl.step (.lock here lifecycle)
  cases flag : (m.group.provider p).finished with
  | true =>
    have abandoned := locked.step (.abandon (Function.update_self t _ _) flag)
    simpa [commissionWith, flag, lifecycle] using abandoned
  | false =>
    have begun := locked.step (.begin (Function.update_self t _ _) flag)
    have commissioned := begun.step (.commission (Function.update_self t _ _))
    cases result : (record p .commissionStarted m.group).run p Lifecycle.commission with
    | mk outcome g =>
      simp only [Machine.group_move, Machine.group_put, Machine.group_take, result] at commissioned
      cases outcome with
      | error cause =>
        have failed := commissioned.step (.fail (Function.update_self t _ _))
        rw [record_eq] at result
        simpa [commissionWith, flag, result, lifecycle] using failed
      | ok product =>
        cases scope : (g.provider p).scope with
        | owned =>
          have succeeded := commissioned.step
            (.succeed (Function.update_self t _ _) (by simpa using scope))
          rw [record_eq] at result
          simpa [commissionWith, flag, result, lifecycle, scope] using succeeded
        | global host =>
          have claiming := commissioned.step
            (.succeedGlobal (Function.update_self t _ _) (by simpa using scope))
          have kept := claiming.trans (keep_solo (Function.update_self t _ _)
            (by simp [slot, lifecycle]) (by simp [lifecycle]))
          rw [commissionWith_global record flag result (by simpa using scope)]
          simpa [lifecycle] using kept

theorem provide_solo (here : m.threads t = .idle) (known : p < m.group.providers.length)
    (free : ∀ guard, m.holder guard = none) :
    ∃ seen, (seen = .turnedAway p (m.group.provideWith record p).1 ∨
        seen = .provided p (m.group.provideWith record p).1) ∧
      Answers t m seen (m.put (m.group.provideWith record p).2) := by
  have called := Alone.refl.step (.callProvide here known)
  cases flag : (m.group.provider p).finished with
  | true =>
    have turned := called.answers (.turnAway (Function.update_self t _ _) flag)
    refine ⟨_, Or.inl rfl, ?_⟩
    simpa [provideWith, flag, here] using turned
  | false =>
    have passed := called.step (.pass (Function.update_self t _ _) flag)
    refine ⟨_, Or.inr rfl, ?_⟩
    cases full : (m.group.provider p).provided with
    | some provision =>
      have shared := passed.step (.share (Function.update_self t _ _) (by simpa using full))
      have answered := shared.answers (.answer (Function.update_self t _ _))
      simpa [provideWith, flag, full, here] using answered
    | none =>
      have entered := passed.step
        (.enter (Function.update_self t _ _) (by simpa using full) (by simp [free]))
      have made := entered.trans (commission_solo (Function.update_self t _ _)
        (by simp [free]) (by simp [free]))
      have filled := made.step (.leave (Function.update_self t _ _))
      have answered := filled.answers (.answer (Function.update_self t _ _))
      simpa [provideWith, flag, full, here, free] using answered

theorem finish_solo (here : m.threads t = .idle) (known : p < m.group.providers.length)
    (free : ∀ guard, m.holder guard = none) :
    Answers t m (.finished p (m.group.finishWith record p).1)
      (m.put (m.group.finishWith record p).2) := by
  cases scope : (m.group.provider p).scope with
  | owned =>
    have called := Alone.refl.step (.callFinish here known scope)
    have ended := called.trans (teardown_solo (Function.update_self t _ _) (free _))
    have done := ended.answers (.finish (Function.update_self t _ _))
    simpa [finishWith, scope, here] using done
  | global host =>
    have called := Alone.refl.step (.callDefer here known scope)
    have done := called.answers (.defer (Function.update_self t _ _))
    simpa [finishWith, scope, here] using done

theorem finishNowWith_eq (emit : Nat → Event ε → ProviderGroup σ ε π → ProviderGroup σ ε π)
    (g : ProviderGroup σ ε π) :
    finishNowWith emit p g = teardownWith emit p
      ((g.update p fun q => { q with hook := none }).dropHook p (g.provider p).hook) := by
  cases hooked : (g.provider p).hook with
  | none => simp [finishNowWith, dropHook, hooked]
  | some id =>
    cases scope : (g.provider p).scope <;> simp [finishNowWith, dropHook, hooked, scope]

theorem finishNow_solo (here : m.threads t = .idle) (known : p < m.group.providers.length)
    (free : ∀ guard, m.holder guard = none) :
    Answers t m (.finished p (m.group.finishNowWith record p).1)
      (m.put (m.group.finishNowWith record p).2) := by
  have called := Alone.refl.step (.callFinishNow here known)
  have seized := called.step (.seize (Function.update_self t _ _) (free _))
  have withdrawn := seized.step (.withdraw (Function.update_self t _ _))
  have dropped := withdrawn.step (.drop (Function.update_self t _ _))
  have ended := dropped.trans (teardown_solo (Function.update_self t _ _) (by simp [free]))
  have done := ended.answers (.finishNow (Function.update_self t _ _))
  simpa [finishNowWith_eq, here, free] using done

/-- Hooks run one after the other as the sequential firing runs them. -/
theorem hooks_solo (hooks : List Nat) (ran : Nat) (here : m.threads t = .firing ran hooks)
    (free : ∀ guard, m.holder guard = none) :
    Alone t m ((m.put (hooks.foldl (fun g p => teardownAtExitWith record p g) m.group)).move t
      (.firing ran [])) := by
  induction hooks generalizing m with
  | nil => simpa [here] using Alone.refl
  | cons p left ih =>
    have started := Alone.refl.step (.hook here)
    have ended := started.trans (teardown_solo (Function.update_self t _ _) (free _))
    cases torn : m.group.teardownWith record p with
    | mk outcome g =>
      -- One hook has run; the rest start from the group that it leaves.
      simp only [Machine.group_move, torn] at ended
      have next : Alone t m ((m.put (m.group.teardownAtExitWith record p)).move t
          (.firing ran left)) := by
        cases outcome with
        | ok =>
          have succeeded := ended.step (.hookSucceeded (Function.update_self t _ _))
          simpa [teardownAtExitWith, torn] using succeeded
        | error cause =>
          have failed := ended.step (.hookFailed (Function.update_self t _ _))
          simpa [teardownAtExitWith, torn] using failed
      simpa using next.trans (ih (Function.update_self t _ _) (by simpa using free))

theorem fire_solo (host : HookHost) (here : m.threads t = .idle)
    (free : ∀ guard, m.holder guard = none) :
    Answers t m (.fired (m.group.fireWith record host).1)
      (m.put (m.group.fireWith record host).2) := by
  have called : Alone t m (m.move t (.draining host)) := Alone.refl.step (.callFire here)
  have drained := called.step (.drain (Function.update_self t _ _))
  have ended := drained.trans (hooks_solo _ _ (Function.update_self t _ _) (by simp [free]))
  have done := ended.answers (.fired (Function.update_self t _ _))
  simpa [fireWith, here] using done

/-! ### Observers that only take note -/

/-- No observer calls back. -/
def Unreactive (g : ProviderGroup σ ε π) : Prop := ∀ q, (g.provider q).reactions = []

theorem Unreactive.emitFrom {g : ProviderGroup σ ε π} (quiet : g.Unreactive) :
    g.emitFrom = record := by
  have none : ∀ q ∈ g.providers, q.reactions = [] := by
    intro q member
    obtain ⟨i, inside, rfl⟩ := List.mem_iff_getElem.mp member
    simpa [provider, inside] using quiet i
  have spent : g.reactionsLeft = 0 := by
    simp only [reactionsLeft]
    generalize g.providers = providers at none
    induction providers with
    | nil => rfl
    | cons q rest ih =>
      rw [List.foldl_cons, none q List.mem_cons_self]
      exact ih fun r member => none r (List.mem_cons_of_mem q member)
  funext p event g
  rw [ProviderGroup.emitFrom, spent]
  rfl

theorem provide_alone (quiet : m.group.Unreactive) (here : m.threads t = .idle)
    (known : p < m.group.providers.length) (free : ∀ guard, m.holder guard = none) :
    ∃ trace seen, (seen = .turnedAway p (m.group.provide p).1 ∨
        seen = .provided p (m.group.provide p).1) ∧
      Run m (trace ++ [seen]) (m.put (m.group.provide p).2) := by
  obtain ⟨seen, shown, answers⟩ := provide_solo here known free
  obtain ⟨trace, run⟩ := answers.run
  rw [provide, quiet.emitFrom]
  exact ⟨trace, seen, shown, run⟩

theorem finish_alone (quiet : m.group.Unreactive) (here : m.threads t = .idle)
    (known : p < m.group.providers.length) (free : ∀ guard, m.holder guard = none) :
    ∃ trace, Run m (trace ++ [.finished p (m.group.finish p).1]) (m.put (m.group.finish p).2) := by
  rw [finish, quiet.emitFrom]
  exact (finish_solo here known free).run

theorem finishNow_alone (quiet : m.group.Unreactive) (here : m.threads t = .idle)
    (known : p < m.group.providers.length) (free : ∀ guard, m.holder guard = none) :
    ∃ trace, Run m (trace ++ [.finished p (m.group.finishNow p).1])
      (m.put (m.group.finishNow p).2) := by
  rw [finishNow, quiet.emitFrom]
  exact (finishNow_solo here known free).run

theorem fire_alone (quiet : m.group.Unreactive) (host : HookHost) (here : m.threads t = .idle)
    (free : ∀ guard, m.holder guard = none) :
    ∃ trace, Run m (trace ++ [.fired (m.group.fire host).1]) (m.put (m.group.fire host).2) := by
  rw [fire, quiet.emitFrom]
  exact (fire_solo host here free).run

end ProviderGroup

end ContainerFixture
