import ContainerFixture.Proofs.Provider.Firing
import Mathlib.Data.List.Perm.Basic

/-!
# What a provider says of its exit hook

A provider keeps the number of its exit hook in a slot, and says that it has an exit hook while the
slot is full. The registry is where hooks are kept, and a firing empties it without a word to the
providers. So a provider goes on saying that it has an exit hook after that hook has run
(`exitHook_shown_in_vain`).

## Main result

`exitHook_shown`: between any calls, a provider says that it has an exit hook just when one is
pending for it or a firing has run it, and then not both. What tells the two apart is whether the
provider is finished.

## Proof strategy

One step lemma for all four calls (`GroupHistory.shown_perform`): after a call the slot is full if
the provider is up then, or if it was full before and the call did not finish the provider now. The
rest is about lists of calls.
-/

namespace ContainerFixture

variable {σ ε π : Type}

namespace ProviderGroup

/-- The providers with a pending hook, the newest hook first. -/
def hooked (g : ProviderGroup σ ε π) : List Nat := g.manual.pending.map Prod.snd

theorem slot_withManual (g : ProviderGroup σ ε π) (registry : HookRegistry Nat) :
    (g.withManual registry).slot = g.slot := rfl

theorem slot_put_of_hook {g : ProviderGroup σ ε π} {p : Nat} {q : Provider σ ε π} {world : σ}
    (known : p < g.providers.length) (same : q.hook = (g.provider p).hook) (other : Nat) :
    (g.put p q world).slot other = g.slot other := by
  rw [slot_put known, same]
  exact congrFun (Function.update_eq_self p g.slot) other

namespace Kept

variable {chains : List (List (Stage σ ε π))} {up : List Nat} {g : ProviderGroup σ ε π}
  {p other : Nat}

theorem hooked_eq (kept : Kept chains up g) : g.hooked = up := kept.slots.pending

theorem slot_of_up (kept : Kept chains up g) (mem : p ∈ up) : (g.slot p).isSome = true := by
  obtain ⟨id, held⟩ := (kept.isUp p mem).hooked
  rw [slot, held]
  rfl

/-- Providing fills no slot but that of a provider which comes up. -/
theorem slot_provide (kept : Kept chains up g) (inside : p < chains.length)
    (idle : other ∉ if (g.provideWith record p).1.outcome.isOk && !up.contains p then p :: up
      else up) :
    (g.provideWith record p).2.slot other = g.slot other := by
  have known : p < g.providers.length := kept.length ▸ inside
  by_cases mem : p ∈ up
  · obtain ⟨running, ⟨provision, provided, -⟩, -, -⟩ := kept.isUp p mem
    rw [provideWith_provided known running provided]
    exact slot_put_of_hook known (by rfl) other
  · cases kept.isIdle p inside mem with
    | finished finished =>
      rw [provideWith_finished finished]
      exact slot_put_of_hook known (by rfl) other
    | failed running provided =>
      obtain ⟨provision, provided, -⟩ := provided
      rw [provideWith_provided known running provided]
      exact slot_put_of_hook known (by rfl) other
    | new running provided free bare =>
      rcases Lifecycle.commission_cases free g.world with
        ⟨cause, world, refused⟩ | ⟨product, stack, world, commissioned, -⟩
      · rw [provideWith_refused known running provided refused]
        exact slot_put_of_hook known (by rfl) other
      · -- The provider comes up, so the slot that is filled is not the other one.
        have scope := (kept.settled p inside).scope
        rw [provideWith_manual known running provided scope bare commissioned] at idle ⊢
        rw [if_pos (by simp [Except.isOk, Except.toBool, mem])] at idle
        have apart : other ≠ p := fun same => idle (same ▸ List.mem_cons_self)
        dsimp only
        rw [slot_withManual, slot_put known, Function.update_of_ne apart]

theorem slot_finish (kept : Kept chains up g) (inside : p < chains.length) :
    (g.finishWith record p).2.slot other = g.slot other := by
  rw [finishWith_global (kept.settled p inside).scope]
  exact slot_put_of_hook (kept.length ▸ inside) (by rfl) other

theorem slot_finishNow (kept : Kept chains up g) (inside : p < chains.length) :
    (g.finishNowWith record p).2.slot = Function.update g.slot p none := by
  have known : p < g.providers.length := kept.length ▸ inside
  have scope := (kept.settled p inside).scope
  cases finished : (g.provider p).finished with
  | true =>
    rw [finishNowWith_finished known scope finished]
    dsimp only
    rw [slot_withManual, slot_put known]
  | false =>
    rw [finishNowWith_running known scope finished]
    dsimp only
    rw [slot_withManual, slot_put known]
    rfl

end Kept

end ProviderGroup

namespace GroupHistory

open ProviderGroup (Kept)

variable {n : Nat} {chains : List (List (Stage σ ε π))} {h : GroupHistory σ ε π}

/-! ### One call -/

/-- After a call the slot of a provider is full if the provider is up, or if the slot was full and
is not emptied by this very call. -/
theorem shown_perform (kept : Kept chains h.up h.group) (call : GroupCall chains.length)
    (p : Fin chains.length) :
    ((h.perform call).group.provider p).hasExitHook = true ↔
      p.val ∈ (h.perform call).up ∨
        ((h.group.provider p).hasExitHook = true ∧ call ≠ .finishNow p) := by
  by_cases mem : p.val ∈ (h.perform call).up
  · exact iff_of_true ((kept_perform kept call).slot_of_up mem) (Or.inl mem)
  · rw [or_iff_right mem]
    -- Who is not up has in the slot what was there before, unless this call empties it.
    show ((h.perform call).group.slot p).isSome = true ↔ (h.group.slot p).isSome = true ∧ _
    cases call with
    | provide q =>
      have same : (h.perform (.provide q)).group.slot p = h.group.slot p := by
        rw [perform, ProviderGroup.provide, kept.unreactive.emitFrom] at mem ⊢
        exact kept.slot_provide q.isLt mem
      simp [same]
    | finish q =>
      have same : (h.perform (.finish q)).group.slot p = h.group.slot p := by
        rw [perform, ProviderGroup.finish, kept.unreactive.emitFrom]
        exact kept.slot_finish q.isLt
      simp [same]
    | finishNow q =>
      have cleared : (h.perform (.finishNow q)).group.slot =
          Function.update h.group.slot q none := by
        rw [perform, ProviderGroup.finishNow, kept.unreactive.emitFrom]
        exact kept.slot_finishNow q.isLt
      rw [cleared]
      by_cases same : q = p
      · simp [same]
      · have apart : p.val ≠ q.val := fun equal => same (Fin.ext equal.symm)
        simp [same, Function.update_of_ne apart]
    | fire =>
      have same : (h.perform (.fire : GroupCall chains.length)).group.slot = h.group.slot := by
        rw [perform, ProviderGroup.fire, kept.unreactive.emitFrom]
        exact kept.slot_fire
      simp [same]

/-- Nobody goes down but by a firing or by being finished now. -/
theorem up_perform {call : GroupCall n} {p : Fin n} (mem : p.val ∈ h.up) (quiet : call ≠ .fire)
    (other : call ≠ .finishNow p) : p.val ∈ (h.perform call).up := by
  cases call with
  | provide q =>
    rw [perform]
    dsimp only
    split
    · exact List.mem_cons_of_mem _ mem
    · exact mem
  | finish q => exact mem
  | finishNow q =>
    have apart : p.val ≠ q.val := fun equal => other (congrArg _ (Fin.ext equal.symm))
    exact List.mem_filter.mpr ⟨mem, by simpa using apart⟩
  | fire => exact absurd rfl quiet

/-! ### Whose hook a firing has run -/

/-- A firing found the hook of this provider pending and ran it, and the provider was not finished
now ever since. -/
def HookSpent (world : σ) (chains : List (List (Stage σ ε π)))
    (calls : List (GroupCall chains.length)) (p : Fin chains.length) : Prop :=
  ∃ before after, calls = before ++ .fire :: after ∧
    p.val ∈ (ofChains world chains before).group.hooked ∧ .finishNow p ∉ after

section
variable {world : σ} {calls : List (GroupCall chains.length)} {p : Fin chains.length}

theorem ofChains_concat (call : GroupCall chains.length) :
    ofChains world chains (calls ++ [call]) = (ofChains world chains calls).perform call := by
  rw [ofChains, run, List.foldl_concat]
  rfl

theorem hookSpent_concat (call : GroupCall chains.length) :
    HookSpent world chains (calls ++ [call]) p ↔
      (call = .fire ∧ p.val ∈ (ofChains world chains calls).group.hooked) ∨
        (HookSpent world chains calls p ∧ call ≠ .finishNow p) := by
  constructor
  · rintro ⟨before, after, split, found, apart⟩
    rcases List.eq_nil_or_concat after with rfl | ⟨after, last, rfl⟩
    · obtain ⟨rfl, same⟩ := List.append_inj' split rfl
      exact Or.inl ⟨List.singleton_inj.mp same, found⟩
    · rw [List.concat_eq_append] at split apart
      rw [← List.cons_append, ← List.append_assoc] at split
      obtain ⟨rfl, same⟩ := List.append_inj' split rfl
      cases List.singleton_inj.mp same
      rw [List.mem_append, not_or, List.mem_singleton] at apart
      exact Or.inr ⟨⟨before, after, rfl, found, apart.1⟩, fun now => apart.2 now.symm⟩
  · rintro (⟨rfl, found⟩ | ⟨⟨before, after, rfl, found, apart⟩, other⟩)
    · exact ⟨calls, [], rfl, found, List.not_mem_nil⟩
    · refine ⟨before, after ++ [call], by simp, found, ?_⟩
      rw [List.mem_append, not_or, List.mem_singleton]
      exact ⟨apart, fun now => other now.symm⟩

theorem finished_fire {h : GroupHistory σ ε π} (kept : Kept chains h.up h.group) {p : Nat}
    (mem : p ∈ h.up) :
    ((h.perform (.fire : GroupCall chains.length)).group.provider p).finished = true := by
  rw [perform, ProviderGroup.fire, kept.unreactive.emitFrom]
  obtain ⟨outcome, torn⟩ := kept.swept.2.torn p mem
  exact (congrArg Provider.finished torn).trans (Provider.tornDownAtExit_finished _ _)

/-- A provider whose hook a firing has run is finished. -/
theorem HookSpent.finished (spent : HookSpent world chains calls p) :
    ((ofChains world chains calls).group.provider p).finished = true := by
  obtain ⟨before, after, rfl, found, -⟩ := spent
  have kept := kept_ofChains world before
  rw [kept.hooked_eq] at found
  rw [kept_concat_fire]
  exact finished_run (kept_perform kept .fire) p.isLt (finished_fire kept found) after

theorem not_hookSpent_nil : ¬ HookSpent world chains [] p := by
  rintro ⟨before, after, split, -⟩
  exact List.append_ne_nil_of_right_ne_nil _ (List.cons_ne_nil _ _) split.symm

/-- The slot of a provider is full for a hook that is pending or for one that a firing has run. -/
theorem shown_ofChains (calls : List (GroupCall chains.length)) :
    ((ofChains world chains calls).group.provider p).hasExitHook = true ↔
      p.val ∈ (ofChains world chains calls).up ∨ HookSpent world chains calls p := by
  induction calls using List.reverseRecOn with
  | nil =>
    refine iff_of_false (fun shown => ?_) (not_or.mpr ⟨List.not_mem_nil, not_hookSpent_nil⟩)
    rw [ofChains, run, List.foldl_nil, ProviderGroup.provider_ofChains_global world p.isLt] at shown
    cases shown
  | append_singleton calls call ih =>
    have kept := kept_ofChains world calls
    rw [ofChains_concat, shown_perform kept, ih, hookSpent_concat, kept.hooked_eq]
    by_cases fired : call = .fire
    · -- Who was up before a firing has a hook that was run.
      subst fired
      simp [perform]
    · have stays (mem : p.val ∈ (ofChains world chains calls).up) (other : call ≠ .finishNow p) :=
        up_perform mem fired other
      tauto

/-- A provider that shows a hook it has no more is finished, and one that is up is not. -/
theorem mem_up_iff (calls : List (GroupCall chains.length)) :
    p.val ∈ (ofChains world chains calls).up ↔
      ((ofChains world chains calls).group.provider p).hasExitHook = true ∧
        ((ofChains world chains calls).group.provider p).finished = false := by
  have kept := kept_ofChains world calls
  constructor
  · intro mem
    exact ⟨kept.slot_of_up mem, (kept.isUp p mem).running⟩
  · rintro ⟨shown, running⟩
    rcases (shown_ofChains calls).mp shown with mem | spent
    · exact mem
    · rw [spent.finished] at running
      cases running

/-- As many hooks are pending as providers show one and are not finished. -/
theorem pending_length (calls : List (GroupCall chains.length)) :
    (ofChains world chains calls).group.manual.pending.length =
      (List.range chains.length).countP fun p =>
        ((ofChains world chains calls).group.provider p).hasExitHook &&
          !((ofChains world chains calls).group.provider p).finished := by
  have kept := kept_ofChains world calls
  have same : (ofChains world chains calls).up.Perm ((List.range chains.length).filter fun p =>
      ((ofChains world chains calls).group.provider p).hasExitHook &&
        !((ofChains world chains calls).group.provider p).finished) := by
    rw [List.perm_ext_iff_of_nodup kept.distinct (List.nodup_range.filter _)]
    intro p
    rw [List.mem_filter, List.mem_range, Bool.and_eq_true, Bool.not_eq_true']
    constructor
    · intro mem
      exact ⟨kept.inside p mem, (mem_up_iff (p := ⟨p, kept.inside p mem⟩) calls).mp mem⟩
    · rintro ⟨inside, shown⟩
      exact (mem_up_iff (p := ⟨p, inside⟩) calls).mpr shown
  rw [List.countP_eq_length_filter, ← same.length_eq, ← kept.slots.pending, List.length_map]

end

end GroupHistory

open GroupHistory in
/-- Between any calls on global providers that share the manual exit hooks, a provider has at most
one hook pending, and says that it has an exit hook just when one is pending for it or a firing has
run the one it had. The two exclude each other, the provider being finished in the second case. So
as many hooks are pending as providers say that they have one and are not finished. -/
theorem exitHook_shown (world : σ) (chains : List (List (Stage σ ε π)))
    (calls : List (GroupCall chains.length)) :
    let g := (ofChains world chains calls).group
    g.hooked.Nodup ∧
      (∀ p : Fin chains.length,
        ((g.provider p).hasExitHook = true ↔
          p.val ∈ g.hooked ∨ HookSpent world chains calls p) ∧
        ¬ (p.val ∈ g.hooked ∧ HookSpent world chains calls p) ∧
        (p.val ∈ g.hooked ↔
          (g.provider p).hasExitHook = true ∧ (g.provider p).finished = false)) ∧
      g.manual.pending.length = (List.range chains.length).countP fun p =>
        (g.provider p).hasExitHook && !(g.provider p).finished := by
  intro g
  have kept := kept_ofChains world calls
  have hooked : g.hooked = (ofChains world chains calls).up := kept.hooked_eq
  rw [hooked]
  refine ⟨kept.distinct, fun p => ⟨shown_ofChains calls, ?_, mem_up_iff calls⟩,
    pending_length calls⟩
  rintro ⟨mem, spent⟩
  have running := (kept.isUp p mem).running
  rw [spent.finished] at running
  cases running

open GroupHistory in
/-- A provider whose hook was run by a firing goes on saying that it has one. -/
theorem exitHook_shown_in_vain :
    let counted : Stage Nat Unit Nat :=
      { name := "counted"
        commission := fun _ world => (.ok 42, world + 1)
        decommission := fun _ world => (.ok (), world - 1) }
    let fired := (ofChains 0 [[counted]] [.provide 0, .fire]).group
    (fired.provider 0).hasExitHook = true ∧ (fired.provider 0).finished = true ∧
      fired.hooked = [] ∧ fired.manual.pending = [] ∧
      HookSpent 0 [[counted]] [.provide 0, .fire] 0 :=
  ⟨rfl, rfl, rfl, rfl, [.provide 0], [], rfl, by decide, List.not_mem_nil⟩

end ContainerFixture
