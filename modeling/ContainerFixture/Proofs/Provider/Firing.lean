import ContainerFixture.Proofs.Provider.Sequential
import ContainerFixture.Proofs.Provider.Teardown

/-!
# Who is torn down when the hooks fire

Main result: `fire_sweeps_up`. Of the global providers that share the manual exit hooks, a firing
tears down those that are up, the newest first, and each of them once. Which ones are up is told
from the calls and their answers alone (`GroupHistory`); the invariant of a history (`Kept`) is that
the registry holds the hooks of just these providers, in this order.
-/

namespace ContainerFixture

variable {σ ε π : Type}

/-- A call on one of `n` providers, or on the exit hooks that they share. -/
inductive GroupCall (n : Nat) where
  | provide (p : Fin n)
  | finish (p : Fin n)
  | finishNow (p : Fin n)
  | fire
deriving DecidableEq, Repr

/-- A group after some calls, and the providers that are up: those whose commission succeeded and
that were not torn down since, the newest first. -/
structure GroupHistory (σ ε π : Type) where
  group : ProviderGroup σ ε π
  up : List Nat := []

namespace GroupHistory

variable {n : Nat}

/-- One more call. A provider comes up when it provides a product for the first time. -/
def perform (h : GroupHistory σ ε π) : GroupCall n → GroupHistory σ ε π
  | .provide p =>
    let (provision, group) := h.group.provide p
    ⟨group, if provision.outcome.isOk && !h.up.contains p.val then p :: h.up else h.up⟩
  | .finish p => ⟨(h.group.finish p).2, h.up⟩
  | .finishNow p => ⟨(h.group.finishNow p).2, h.up.filter (· ≠ p.val)⟩
  | .fire => ⟨(h.group.fire .manual).2, []⟩

def run (h : GroupHistory σ ε π) (calls : List (GroupCall n)) : GroupHistory σ ε π :=
  calls.foldl perform h

/-- The history of calls on new global providers. -/
def ofChains (world : σ) (chains : List (List (Stage σ ε π)))
    (calls : List (GroupCall chains.length)) : GroupHistory σ ε π :=
  run ⟨.ofChains world (chains.map fun stages => (stages, .global .manual)), []⟩ calls

end GroupHistory

namespace Provider

/-- What never changes: the chain, where the exit hook goes, and that the observer only takes
note. -/
structure Settled (chain : List (Stage σ ε π)) (q : Provider σ ε π) : Prop where
  stages : q.lifecycle.stages = chain
  scope : q.scope = .global .manual
  quiet : q.reactions = []

/-- The provider has provided a product, all of its chain is committed, and its exit hook is
registered. -/
structure IsUp (q : Provider σ ε π) : Prop where
  running : q.finished = false
  provided : ∃ provision, q.provided = some provision ∧ provision.outcome.isOk = true
  whole : q.lifecycle.committed.reverse.map CommittedStage.stage = q.lifecycle.stages
  hooked : ∃ id, q.hook = some id

/-- The provider holds nothing: it was not asked yet, its commission failed, or it was finished. -/
inductive IsIdle (q : Provider σ ε π) : Prop where
  | new (running : q.finished = false) (provided : q.provided = none)
      (free : q.lifecycle.committed = []) (bare : q.hook = none)
  | failed (running : q.finished = false)
      (provided : ∃ provision, q.provided = some provision ∧ provision.outcome.isOk = false)
      (free : q.lifecycle.committed = [])
  | finished (finished : q.finished = true) (free : q.lifecycle.committed = [])

theorem IsIdle.free {q : Provider σ ε π} (idle : q.IsIdle) : q.lifecycle.committed = [] := by
  cases idle <;> assumption

end Provider

/-! ### Slots and the registry -/

/-- The registry holds the hooks of the providers that are up, each under the number in the slot of
its provider; a number in a slot was given out, and is not that of another provider's hook. -/
structure SlotsKept (n : Nat) (up : List Nat) (slot : Nat → Option HookId)
    (registry : HookRegistry Nat) : Prop where
  pending : registry.pending.map Prod.snd = up
  registered : ∀ entry ∈ registry.pending, slot entry.2 = some entry.1
  own : ∀ p < n, ∀ id, slot p = some id →
    id.number < registry.nextNumber ∧ ∀ q, (id, q) ∈ registry.pending → q = p

namespace SlotsKept

variable {n p : Nat} {up : List Nat} {slot : Nat → Option HookId} {registry : HookRegistry Nat}

theorem mem_up (kept : SlotsKept n up slot registry) {entry : HookId × Nat}
    (mem : entry ∈ registry.pending) : entry.2 ∈ up :=
  kept.pending ▸ List.mem_map_of_mem mem

/-- A hook that is registered gets a number that is in no slot yet. -/
theorem register (kept : SlotsKept n up slot registry) (idle : p ∉ up)
    (inside : ∀ q ∈ up, q < n) :
    SlotsKept n (p :: up) (Function.update slot p (some ⟨registry.nextNumber⟩))
      (registry.register p).2 where
  pending := congrArg (p :: ·) kept.pending
  registered entry mem := by
    rcases List.mem_cons.mp mem with rfl | older
    · exact Function.update_self _ _ _
    · have other : entry.2 ≠ p := fun same => idle (same ▸ kept.mem_up older)
      rw [Function.update_of_ne other]
      exact kept.registered entry older
  own q known id held := by
    by_cases same : q = p
    · subst same
      rw [Function.update_self] at held
      cases held
      refine ⟨Nat.lt_succ_self _, fun other mem => ?_⟩
      rcases List.mem_cons.mp mem with newest | older
      · exact congrArg Prod.snd newest
      · -- an older hook would have the newest number
        have taken := kept.own other (inside other (kept.mem_up older)) _ (kept.registered _ older)
        exact absurd taken.1 (Nat.lt_irrefl _)
    · rw [Function.update_of_ne same] at held
      obtain ⟨below, alone⟩ := kept.own q known id held
      refine ⟨Nat.lt_succ_of_lt below, fun other mem => ?_⟩
      rcases List.mem_cons.mp mem with newest | older
      · cases newest
        exact absurd below (Nat.lt_irrefl _)
      · exact alone other older

/-- The hook in a slot that is cleared leaves the registry, and no other one does. -/
theorem clear (kept : SlotsKept n up slot registry) (known : p < n) :
    SlotsKept n (up.filter (· ≠ p)) (Function.update slot p none)
      (registry.without (slot p)) := by
  -- by its number or by its provider, it is the same hook that leaves
  have remains : (registry.without (slot p)).pending =
      registry.pending.filter fun entry => entry.2 ≠ p := by
    cases held : slot p with
    | none =>
      refine (List.filter_eq_self.mpr fun entry mem => ?_).symm
      have hooked := kept.registered entry mem
      refine decide_eq_true fun same => ?_
      rw [same, held] at hooked
      cases hooked
    | some id =>
      refine List.filter_congr fun entry mem => ?_
      have hooked := kept.registered entry mem
      have alone := (kept.own p known id held).2 entry.2
      have same : entry.1 = id ↔ entry.2 = p := by
        refine ⟨fun here => alone (here ▸ mem), fun here => ?_⟩
        rw [here, held] at hooked
        exact (Option.some.inj hooked).symm
      simp only [ne_eq, same]
  have next : (registry.without (slot p)).nextNumber = registry.nextNumber := by
    cases slot p <;> rfl
  refine ⟨?_, fun entry mem => ?_, fun q inside id held => ?_⟩
  · rw [remains, ← kept.pending, List.filter_map]
    rfl
  · obtain ⟨older, other⟩ := List.mem_filter.mp (remains ▸ mem)
    rw [Function.update_of_ne (of_decide_eq_true other)]
    exact kept.registered entry older
  · by_cases same : q = p
    · rw [same, Function.update_self] at held
      cases held
    · rw [Function.update_of_ne same] at held
      obtain ⟨below, alone⟩ := kept.own q inside id held
      exact ⟨next ▸ below, fun other mem => alone other (List.mem_filter.mp (remains ▸ mem)).1⟩

theorem drain (kept : SlotsKept n up slot registry) :
    SlotsKept n [] slot { registry with pending := [] } :=
  ⟨rfl, by simp, fun p known id held => ⟨(kept.own p known id held).1, by simp⟩⟩

end SlotsKept

namespace ProviderGroup

/-! ### What each call keeps -/

/-- The number in the slot of each provider. -/
def slot (g : ProviderGroup σ ε π) (p : Nat) : Option HookId := (g.provider p).hook

/-- What holds of a group between any two calls. -/
structure Kept (chains : List (List (Stage σ ε π))) (up : List Nat) (g : ProviderGroup σ ε π) :
    Prop where
  length : g.providers.length = chains.length
  settled : ∀ p (inside : p < chains.length), (g.provider p).Settled chains[p]
  inside : ∀ p ∈ up, p < chains.length
  distinct : up.Nodup
  isUp : ∀ p ∈ up, (g.provider p).IsUp
  isIdle : ∀ p < chains.length, p ∉ up → (g.provider p).IsIdle
  slots : SlotsKept chains.length up g.slot g.manual

theorem provider_ofChains_global {chains : List (List (Stage σ ε π))} (world : σ) {p : Nat}
    (inside : p < chains.length) :
    (ofChains world (chains.map fun stages => (stages, Scope.global .manual))).provider p =
      { lifecycle := { stages := chains[p] }, scope := .global .manual } := by
  rw [provider_ofChains world (by simpa using inside)]
  simp

theorem slot_put {g : ProviderGroup σ ε π} {p : Nat} {q : Provider σ ε π} {world : σ}
    (known : p < g.providers.length) :
    (g.put p q world).slot = Function.update g.slot p q.hook := by
  funext other
  rw [slot, provider_put known]
  by_cases same : other = p
  · rw [if_pos same, same, Function.update_self]
  · rw [if_neg same, Function.update_of_ne same]
    rfl

namespace Kept

variable {chains : List (List (Stage σ ε π))} {up up' : List Nat} {g : ProviderGroup σ ε π}
  {p : Nat}

theorem unreactive (kept : Kept chains up g) : g.Unreactive := by
  intro p
  by_cases inside : p < chains.length
  · exact (kept.settled p inside).quiet
  · have absent : g.providers[p]? = none := by
      rw [List.getElem?_eq_none_iff, kept.length]
      omega
    rw [provider, List.getD_eq_getElem?_getD, absent]
    rfl

/-- One provider changes, and the registry with it. -/
theorem change (kept : Kept chains up g) (inside : p < chains.length) {q : Provider σ ε π}
    {world : σ} {registry : HookRegistry Nat} (settled : q.Settled chains[p])
    (others : ∀ other, other ≠ p → (other ∈ up' ↔ other ∈ up)) (distinct : up'.Nodup)
    (isUp : p ∈ up' → q.IsUp) (isIdle : p ∉ up' → q.IsIdle)
    (slots : SlotsKept chains.length up' (Function.update g.slot p q.hook) registry) :
    Kept chains up' ((g.put p q world).withManual registry) := by
  have known : p < g.providers.length := kept.length ▸ inside
  refine ⟨by simp [kept.length], fun other within => ?_, fun other mem => ?_, distinct,
    fun other mem => ?_, fun other within idle => ?_, ?_⟩
  · rw [provider_withManual, provider_put known]
    split
    · rename_i same
      subst same
      exact settled
    · exact kept.settled other within
  · by_cases same : other = p
    · rw [same]
      exact inside
    · exact kept.inside other ((others other same).mp mem)
  · rw [provider_withManual, provider_put known]
    split
    · rename_i same
      exact isUp (same ▸ mem)
    · rename_i differs
      exact kept.isUp other ((others other differs).mp mem)
  · rw [provider_withManual, provider_put known]
    split
    · rename_i same
      exact isIdle (same ▸ idle)
    · rename_i differs
      exact kept.isIdle other within fun mem => idle ((others other differs).mpr mem)
  · rw [manual_withManual]
    have same : ((g.put p q world).withManual registry).slot = (g.put p q world).slot := rfl
    rw [same, slot_put known]
    exact slots

/-- One provider changes, but not its slot, and not what it holds. -/
theorem put (kept : Kept chains up g) (inside : p < chains.length) {q : Provider σ ε π} {world : σ}
    (settled : q.Settled chains[p]) (slot : q.hook = (g.provider p).hook)
    (isUp : p ∈ up → q.IsUp) (isIdle : p ∉ up → q.IsIdle) : Kept chains up (g.put p q world) := by
  have unmoved : Function.update g.slot p q.hook = g.slot := by
    rw [slot]
    exact Function.update_eq_self p g.slot
  have slots : SlotsKept chains.length up (Function.update g.slot p q.hook) g.manual := by
    rw [unmoved]
    exact kept.slots
  exact kept.change inside settled (fun _ _ => Iff.rfl) kept.distinct isUp isIdle slots

/-- What a provider told and how many provisions it made is not part of what is kept. -/
theorem noted (kept : Kept chains up g) (inside : p < chains.length) {told : List (Event ε)}
    {made : Nat} : Kept chains up (g.put p { g.provider p with told, made } g.world) := by
  obtain ⟨stages, scope, quiet⟩ := kept.settled p inside
  refine kept.put inside ⟨stages, scope, quiet⟩ rfl (fun mem => ?_) fun idle => ?_
  · obtain ⟨running, provided, whole, hooked⟩ := kept.isUp p mem
    exact ⟨running, provided, whole, hooked⟩
  · cases kept.isIdle p inside idle with
    | new running provided free bare => exact .new running provided free bare
    | failed running provided free => exact .failed running provided free
    | finished finished free => exact .finished finished free

/-- A finished provider is not up and holds nothing. -/
theorem idle_of_finished (kept : Kept chains up g) (inside : p < chains.length)
    (finished : (g.provider p).finished = true) :
    p ∉ up ∧ (g.provider p).lifecycle.committed = [] := by
  have idle : p ∉ up := by
    intro mem
    have running := (kept.isUp p mem).running
    rw [finished] at running
    cases running
  exact ⟨idle, (kept.isIdle p inside idle).free⟩

theorem ofChains (world : σ) : Kept chains []
    (ProviderGroup.ofChains world (chains.map fun stages => (stages, .global .manual))) := by
  refine ⟨by simp, fun p inside => ?_, by simp, List.nodup_nil, by simp, fun p inside _ => ?_,
    ⟨rfl, fun entry mem => ?_, fun p inside id held => ?_⟩⟩
  · rw [provider_ofChains_global world inside]
    exact ⟨rfl, rfl, rfl⟩
  · rw [provider_ofChains_global world inside]
    exact .new rfl rfl rfl rfl
  · cases mem
  · rw [slot, provider_ofChains_global world inside] at held
    cases held

/-- A provider comes up when it provides a product and was not up before. -/
theorem provide (kept : Kept chains up g) (inside : p < chains.length) :
    Kept chains (if (g.provideWith record p).1.outcome.isOk && !up.contains p then p :: up else up)
      (g.provideWith record p).2 := by
  have known : p < g.providers.length := kept.length ▸ inside
  obtain ⟨stages, scope, quiet⟩ := kept.settled p inside
  by_cases mem : p ∈ up
  · -- it is up, and hands out what it has
    obtain ⟨running, ⟨provision, provided, -⟩, -, -⟩ := kept.isUp p mem
    rw [provideWith_provided known running provided, if_neg (by simp [mem])]
    exact kept.noted inside
  · cases kept.isIdle p inside mem with
    | finished finished =>
      rw [provideWith_finished finished, if_neg (by simp [Except.isOk, Except.toBool])]
      exact kept.noted inside
    | failed running provided =>
      obtain ⟨provision, provided, failed⟩ := provided
      rw [provideWith_provided known running provided, if_neg (by simp [failed])]
      exact kept.noted inside
    | new running provided free bare =>
      -- only here is the chain commissioned, and only a whole one brings the provider up
      rcases Lifecycle.commission_cases free g.world with
        ⟨cause, world, refused⟩ | ⟨product, stack, world, commissioned, whole⟩
      · rw [provideWith_refused known running provided refused,
          if_neg (by simp [Except.isOk, Except.toBool])]
        exact kept.put inside ⟨stages, scope, quiet⟩ rfl (fun up => absurd up mem)
          fun _ => .failed running ⟨_, rfl, rfl⟩ free
      · rw [provideWith_manual known running provided scope bare commissioned,
          if_pos (by simp [Except.isOk, Except.toBool, mem])]
        refine kept.change inside ⟨stages, scope, quiet⟩ (fun other differs => ?_)
          (List.nodup_cons.mpr ⟨mem, kept.distinct⟩)
          (fun _ => ⟨running, ⟨_, rfl, rfl⟩, whole, _, rfl⟩)
          (fun idle => absurd List.mem_cons_self idle) (kept.slots.register mem kept.inside)
        simp [differs]

theorem finish (kept : Kept chains up g) (inside : p < chains.length) :
    Kept chains up (g.finishWith record p).2 := by
  rw [finishWith_global (kept.settled p inside).scope]
  exact kept.noted inside

/-- A provider that is finished now is not up any more, and its hook is gone. -/
theorem finishNow (kept : Kept chains up g) (inside : p < chains.length) :
    Kept chains (up.filter (· ≠ p)) (g.finishNowWith record p).2 := by
  have known : p < g.providers.length := kept.length ▸ inside
  obtain ⟨stages, scope, quiet⟩ := kept.settled p inside
  have others (other : Nat) (differs : other ≠ p) : other ∈ up.filter (· ≠ p) ↔ other ∈ up := by
    simp [differs]
  have gone : p ∉ up.filter (· ≠ p) := by simp
  have slots := kept.slots.clear inside
  cases finished : (g.provider p).finished with
  | true =>
    obtain ⟨-, free⟩ := kept.idle_of_finished inside finished
    rw [finishNowWith_finished known scope finished]
    exact kept.change inside ⟨stages, scope, quiet⟩ others (kept.distinct.filter _)
      (fun mem => absurd mem gone) (fun _ => .finished finished free) slots
  | false =>
    rw [finishNowWith_running known scope finished]
    exact kept.change inside ⟨stages, scope, quiet⟩ others (kept.distinct.filter _)
      (fun mem => absurd mem gone) (fun _ => .finished rfl rfl) slots

/-- Finishing a finished provider again runs no stage. -/
theorem finishNow_of_finished (kept : Kept chains up g) (inside : p < chains.length)
    (finished : (g.provider p).finished = true) : (g.finishNow p).2.world = g.world := by
  rw [ProviderGroup.finishNow, kept.unreactive.emitFrom,
    finishNowWith_finished (kept.length ▸ inside) (kept.settled p inside).scope finished]
  rfl

/-- The hooks run by a firing are those of the providers that are up. -/
theorem swept (kept : Kept chains up g) :
    (g.fireWith record .manual).1 = up.length ∧
      Swept up (g.withManual { g.manual with pending := [] }) (g.fireWith record .manual).2 := by
  rw [fireWith_manual, kept.slots.pending]
  refine ⟨rfl, swept_foldl kept.distinct fun p mem => ?_⟩
  rw [length_withManual, kept.length, provider_withManual]
  exact ⟨kept.inside p mem, (kept.isUp p mem).running⟩

/-- Every provider is what it was before a firing, or what its hook left of it. -/
theorem stands_fire (kept : Kept chains up g) (p : Nat) :
    (p ∉ up ∧ (g.fireWith record .manual).2.provider p = g.provider p) ∨
      ∃ outcome, (g.fireWith record .manual).2.provider p =
        (g.provider p).tornDownAtExit outcome := by
  obtain ⟨-, swept⟩ := kept.swept
  by_cases mem : p ∈ up
  · exact .inr (swept.torn p mem)
  · exact .inl ⟨mem, swept.others p mem⟩

/-- A firing leaves every number in its slot. -/
theorem slot_fire (kept : Kept chains up g) : (g.fireWith record .manual).2.slot = g.slot := by
  funext p
  unfold slot
  rcases kept.stands_fire p with ⟨-, same⟩ | ⟨outcome, torn⟩
  · rw [same]
  · rw [torn, Provider.tornDownAtExit_hook]

theorem fire (kept : Kept chains up g) : Kept chains [] (g.fireWith record .manual).2 := by
  obtain ⟨-, swept⟩ := kept.swept
  have stands := kept.stands_fire
  have slots := kept.slot_fire
  generalize (g.fireWith record .manual).2 = after at swept stands slots ⊢
  refine ⟨swept.length.trans kept.length, fun p inside => ?_, by simp, List.nodup_nil, by simp,
    fun p inside _ => ?_, ?_⟩
  · obtain ⟨stages, scope, quiet⟩ := kept.settled p inside
    rcases stands p with ⟨-, same⟩ | ⟨outcome, torn⟩
    · rw [same]
      exact ⟨stages, scope, quiet⟩
    · rw [torn]
      exact ⟨by simpa using stages, by simpa using scope, by simpa using quiet⟩
  · rcases stands p with ⟨idle, same⟩ | ⟨outcome, torn⟩
    · rw [same]
      exact kept.isIdle p inside idle
    · rw [torn]
      exact .finished (by simp) (by simp)
  · rw [slots, swept.manual]
    exact kept.slots.drain

end Kept

end ProviderGroup

namespace GroupHistory

open ProviderGroup (Kept)

variable {chains : List (List (Stage σ ε π))}

theorem kept_perform {h : GroupHistory σ ε π} (kept : Kept chains h.up h.group)
    (call : GroupCall chains.length) :
    Kept chains (h.perform call).up (h.perform call).group := by
  cases call with
  | provide p =>
    have after := kept.provide p.isLt
    rw [← kept.unreactive.emitFrom] at after
    exact after
  | finish p =>
    have after := kept.finish p.isLt
    rw [← kept.unreactive.emitFrom] at after
    exact after
  | finishNow p =>
    have after := kept.finishNow p.isLt
    rw [← kept.unreactive.emitFrom] at after
    exact after
  | fire =>
    have after := kept.fire
    rw [← kept.unreactive.emitFrom] at after
    exact after

theorem kept_run {h : GroupHistory σ ε π} (kept : Kept chains h.up h.group)
    (calls : List (GroupCall chains.length)) :
    Kept chains (h.run calls).up (h.run calls).group := by
  -- one call after the other, the invariant being that of the group between them
  induction calls generalizing h with
  | nil => exact kept
  | cons call rest ih => exact ih (kept_perform kept call)

theorem kept_ofChains (world : σ) (calls : List (GroupCall chains.length)) :
    Kept chains (ofChains world chains calls).up (ofChains world chains calls).group :=
  kept_run (Kept.ofChains world) calls

theorem kept_concat_fire (world : σ) (calls later : List (GroupCall chains.length)) :
    ofChains world chains (calls ++ .fire :: later) =
      ((ofChains world chains calls).perform (.fire : GroupCall chains.length)).run later := by
  rw [ofChains, run, List.foldl_append]
  rfl

/-- No call takes back that a provider was finished. -/
theorem finished_perform {h : GroupHistory σ ε π} (kept : Kept chains h.up h.group) {p : Nat}
    (inside : p < chains.length) (finished : (h.group.provider p).finished = true)
    (call : GroupCall chains.length) :
    ((h.perform call).group.provider p).finished = true := by
  have known (q : Fin chains.length) : q.val < (Machine.atRest h.group).group.providers.length := by
    rw [show (Machine.atRest h.group).group = h.group from rfl, kept.length]
    exact q.isLt
  have stays {trace : List (Seen ε π)} {next : Machine σ ε π}
      (run : Run (Machine.atRest h.group) trace next) :
      (next.group.provider p).finished = true := run.stays_finished (known ⟨p, inside⟩) finished
  -- a call by itself is a run of the machine, which never clears the flag
  cases call with
  | provide q =>
    obtain ⟨_, _, -, run⟩ := ProviderGroup.provide_alone (t := 0) kept.unreactive rfl (known q)
      fun _ => rfl
    exact stays run
  | finish q =>
    obtain ⟨_, run⟩ := ProviderGroup.finish_alone (t := 0) kept.unreactive rfl (known q)
      fun _ => rfl
    exact stays run
  | finishNow q =>
    obtain ⟨_, run⟩ := ProviderGroup.finishNow_alone (t := 0) kept.unreactive rfl (known q)
      fun _ => rfl
    exact stays run
  | fire =>
    obtain ⟨_, run⟩ := ProviderGroup.fire_alone (m := .atRest h.group) (t := 0) kept.unreactive
      .manual rfl fun _ => rfl
    exact stays run

theorem finished_run {h : GroupHistory σ ε π} (kept : Kept chains h.up h.group) {p : Nat}
    (inside : p < chains.length) (finished : (h.group.provider p).finished = true)
    (calls : List (GroupCall chains.length)) :
    ((h.run calls).group.provider p).finished = true := by
  induction calls generalizing h with
  | nil => exact finished
  | cons call rest ih =>
    exact ih (kept_perform kept call) (finished_perform kept inside finished call)

end GroupHistory

open GroupHistory in
/-- A firing answers how many providers are up, and makes of the world what the sweeps of these
providers make of it, one after the other and the newest first, whether they fail or not; each has
the whole of its chain committed until then, and the others have nothing committed. Ever after they
are finished and hold nothing, finishing them again runs no stage, and no later firing finds them
up. -/
theorem fire_sweeps_up (world : σ) (chains : List (List (Stage σ ε π)))
    (calls later : List (GroupCall chains.length)) :
    let before := ofChains world chains calls
    let fired := before.group.fire .manual
    let after := ofChains world chains (calls ++ .fire :: later)
    fired.1 = before.up.length ∧ before.up.Nodup ∧
      fired.2.world = before.up.foldl (fun world p =>
        (CommittedStage.sweep (before.group.provider p).lifecycle.committed world).2)
          before.group.world ∧
      (∀ p < chains.length, p ∉ before.up →
        (before.group.provider p).lifecycle.committed = []) ∧
      ∀ p ∈ before.up,
        chains[p]? = some ((before.group.provider p).lifecycle.committed.reverse.map
          CommittedStage.stage) ∧
        (fired.2.provider p).finished = true ∧ (fired.2.provider p).lifecycle.committed = [] ∧
        (after.group.provider p).finished = true ∧
        (after.group.provider p).lifecycle.committed = [] ∧
        (after.group.finishNow p).2.world = after.group.world ∧ p ∉ after.up := by
  intro before fired after
  have kept : ProviderGroup.Kept chains before.up before.group := kept_ofChains world calls
  -- the observers only take note, so firing is what it is for an observer that records
  have same : fired = before.group.fireWith ProviderGroup.record .manual := by
    rw [← kept.unreactive.emitFrom]
    rfl
  obtain ⟨count, swept⟩ := kept.swept
  rw [← same] at count swept
  refine ⟨count, kept.distinct, swept.world,
    fun p inside idle => (kept.isIdle p inside idle).free, fun p mem => ?_⟩
  have inside := kept.inside p mem
  have finished : (fired.2.provider p).finished = true := by
    obtain ⟨outcome, torn⟩ := swept.torn p mem
    rw [torn, Provider.tornDownAtExit_finished]
  have keptFired := kept_perform kept (.fire : GroupCall chains.length)
  have keptAfter : ProviderGroup.Kept chains after.up after.group := kept_ofChains world _
  have finishedAfter : (after.group.provider p).finished = true := by
    have stays := finished_run keptFired inside finished later
    rwa [← kept_concat_fire] at stays
  obtain ⟨-, freeFired⟩ := keptFired.idle_of_finished inside finished
  obtain ⟨idle, free⟩ := keptAfter.idle_of_finished inside finishedAfter
  refine ⟨?_, finished, freeFired, finishedAfter, free,
    keptAfter.finishNow_of_finished inside finishedAfter, idle⟩
  rw [(kept.isUp p mem).whole, (kept.settled p inside).stages, List.getElem?_eq_getElem inside]

end ContainerFixture
