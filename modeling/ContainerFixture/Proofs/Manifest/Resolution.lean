import ContainerFixture.Manifest
import ContainerFixture.Proofs.Port.Reading

/-!
# What resolving a manifest decides

Main result: `Manifest.resolve_decided`. A manifest that breaks no rule is resolved, entry by entry;
of the rules that one breaks, the first is the error.

The rules are written down once more, as the list of what breaks them (`Manifest.violations`), in
the order in which they are checked. Every check of the resolution settles its own part of that list
(`Settles`), and checks made one after the other settle the parts in that order.
-/

namespace ContainerFixture

open Text

variable {ε ε' α β : Type}

/-- What a rule has against an input: its error, unless it holds. -/
def breach (rule : Prop) [Decidable rule] (error : ε) : List ε := if rule then [] else [error]

theorem breach_of_holds {rule : Prop} [Decidable rule] {error : ε} (holds : rule) :
    breach rule error = [] := if_pos holds

theorem breach_of_broken {rule : Prop} [Decidable rule] {error : ε} (broken : ¬ rule) :
    breach rule error = [error] := if_neg broken

@[simp] theorem breach_eq_nil_iff {rule : Prop} [Decidable rule] {error : ε} :
    breach rule error = [] ↔ rule := by simp [breach]

/-- The outcome is the first of the violations, or there is none and the result is as it should
be. -/
def Settles (violations : List ε) (meets : α → Prop) : Except ε α → Prop
  | .ok a => violations = [] ∧ meets a
  | .error cause => violations.head? = some cause

namespace Settles

variable {violations later : List ε} {meets : α → Prop} {meets' : β → Prop} {step : Except ε α}

theorem pure {a : α} (met : meets a) : Settles ([] : List ε) meets (Pure.pure a) := ⟨rfl, met⟩

theorem bind {next : α → Except ε β} (first : Settles violations meets step)
    (rest : ∀ a, meets a → Settles later meets' (next a)) :
    Settles (violations ++ later) meets' (step >>= next) := by
  cases step with
  | error cause =>
    show (violations ++ later).head? = some cause
    rw [List.head?_append, show violations.head? = some cause from first]
    rfl
  | ok a =>
    obtain ⟨none, met⟩ := first
    rw [none]
    exact rest a met

theorem bind_pure {f : α → β} (settles : Settles violations meets step)
    (met : ∀ a, meets a → meets' (f a)) :
    Settles violations meets' (step >>= fun a => Pure.pure (f a)) := by
  rw [← List.append_nil violations]
  exact settles.bind fun a here => pure (met a here)

theorem mapError (f : ε → ε') (settles : Settles violations meets step) :
    Settles (violations.map f) meets (step.mapError f) := by
  cases step with
  | error cause =>
    show (violations.map f).head? = some (f cause)
    rw [List.head?_map, show violations.head? = some cause from settles]
    rfl
  | ok a => exact ⟨by rw [settles.1, List.map_nil], settles.2⟩

theorem mapM {violationsOf : α → List ε} {related : α → β → Prop} {f : α → Except ε β}
    (each : ∀ a, Settles (violationsOf a) (related a) (f a)) (as : List α) :
    Settles (as.flatMap violationsOf) (List.Forall₂ related as) (as.mapM f) := by
  -- on the entries: those after the first are looked at once it is settled
  induction as with
  | nil => exact pure .nil
  | cons a rest ih =>
    rw [List.mapM_cons, List.flatMap_cons, ← List.append_nil (rest.flatMap violationsOf)]
    exact (each a).bind fun b here => ih.bind fun bs all => pure (.cons here all)

/-! ### Single checks -/

theorem rule (p : Prop) [Decidable p] {cause : ε} (broken : ¬ p → step = .error cause)
    (kept : p → Settles later meets step) : Settles (breach p cause ++ later) meets step := by
  by_cases holds : p
  · rw [breach_of_holds holds]
    exact kept holds
  · rw [breach_of_broken holds, broken holds]
    rfl

/-- A search for the first item that breaks a rule. -/
theorem firstOf {item : Type} (items : List item) (bad : item → Bool) {p : item → Prop}
    [DecidablePred p] {cause : item → ε} (fits : ∀ x, bad x = false ↔ p x)
    (broken : ∀ x, items.find? bad = some x → step = .error (cause x))
    (kept : items.find? bad = none → Settles later meets step) :
    Settles (items.flatMap (fun x => breach (p x) (cause x)) ++ later) meets step := by
  -- Items that are not bad break nothing.
  have nothing (clean : List item) (good : ∀ x ∈ clean, bad x = false) :
      clean.flatMap (fun x => breach (p x) (cause x)) = [] :=
    List.flatMap_eq_nil_iff.mpr fun x mem => breach_of_holds ((fits x).mp (good x mem))
  cases found : items.find? bad with
  | none =>
    rw [nothing items (by simpa using found)]
    exact kept found
  | some x =>
    obtain ⟨isBad, front, rest, split, clean⟩ := List.find?_eq_some_iff_append.mp found
    have unfit : ¬ p x := by
      rw [← fits x, isBad]
      decide
    rw [broken x found, split, List.flatMap_append, nothing front (by simpa using clean),
      List.flatMap_cons, breach_of_broken unfit]
    rfl

theorem anyOf {item : Type} (items : List item) (bad : item → Bool) {p : item → Prop}
    [DecidablePred p] {cause : ε} (fits : ∀ x, bad x = false ↔ p x)
    (broken : items.any bad = true → step = .error cause)
    (kept : items.any bad = false → Settles later meets step) :
    Settles (items.flatMap (fun x => breach (p x) cause) ++ later) meets step := by
  refine firstOf items bad fits (fun x found => broken ?_) fun none => kept ?_
  · exact List.any_eq_true.mpr ⟨x, List.mem_of_find?_eq_some found, List.find?_some found⟩
  · simpa using none

end Settles

/-! ### The rules -/

/-- What breaks the rules of parameters. -/
def Params.violations (params : Params) : List ParamsError :=
  params.ports.flatMap (fun port => breach (port.containerPort ≠ 0) .zeroContainerPort) ++
  (params.containerPaths.flatMap (fun path =>
    breach (HostPath.isAbsolute path = true) (.relativeContainerPath path)) ++
  (params.env.keys.flatMap (fun name =>
    breach (name ≠ "" ∧ '=' ∉ name.toList) (.invalidEnvName name)) ++
  params.labels.keys.flatMap (fun key => breach (key ≠ "") .emptyLabelKey)))

theorem Params.validate_settles (params : Params) :
    Settles params.violations (fun _ => params.validate = .ok ()) params.validate := by
  -- rule after rule, each of them looked at once those before it hold
  refine .anyOf _ (·.containerPort = 0) (fun port => by simp) (fun broken => ?_) fun ports => ?_
  · simp [validate, broken, throw, throwThe, MonadExceptOf.throw, Bind.bind, Except.bind]
  refine .firstOf _ (!HostPath.isAbsolute ·) (fun path => by simp) (fun path broken => ?_)
    fun paths => ?_
  · simp [validate, ports, broken, throw, throwThe, MonadExceptOf.throw, Bind.bind, Except.bind]
  refine .firstOf _ (!isEnvName ·) (fun name => by simp [isEnvName]) (fun name broken => ?_)
    fun names => ?_
  · simp [validate, ports, paths, broken, throw, throwThe, MonadExceptOf.throw, Bind.bind,
      Except.bind]
  rw [← List.append_nil (List.flatMap _ _)]
  refine .anyOf _ String.isEmpty (fun key => by simp) (fun broken => ?_) fun labels => ?_
  · simp [validate, ports, paths, names, broken, throw, throwThe, MonadExceptOf.throw]
  have valid : params.validate = .ok () := by
    simp [validate, ports, paths, names, labels, Pure.pure, Except.pure]
  rw [valid]
  exact ⟨rfl, rfl⟩

namespace Manifest

/-- What breaks the rules of an action before the start. -/
def preStartViolations : PreStartAction → List ManifestError
  | .copy _ remote =>
    breach (HostPath.isAbsolute remote = true) (.relativeRemotePath .preStartCopy remote)

/-- What breaks the rules of an action after the start. -/
def postStartViolations : PostStartAction → List ManifestError
  | .awaitLog pattern _ timeout =>
    breach (pattern ≠ "") .emptyPattern ++ breach (timeout ≤ 86400) (.awaitTimeoutTooLong timeout)
  | .exec command _ => breach (command ≠ []) (.emptyCommand .postStartExec)
  | .copyOut remote _ =>
    breach (HostPath.isAbsolute remote = true) (.relativeRemotePath .postStartCopyOut remote)

/-- What breaks the rules of a container section. -/
def containerViolations (container : ContainerSection) : List ParamsError :=
  container.ports.flatMap (fun port => breach (port.container ≠ 0) .zeroContainerPort) ++
  container.mounts.flatMap (fun mount =>
    breach (HostPath.isAbsolute mount.container = true) (.relativeContainerPath mount.container)) ++
  container.tmpfs.flatMap (fun path =>
    breach (HostPath.isAbsolute path = true) (.relativeContainerPath path)) ++
  container.env.keys.flatMap (fun name =>
    breach (name ≠ "" ∧ '=' ∉ name.toList) (.invalidEnvName name)) ++
  container.labels.keys.flatMap (fun key => breach (key ≠ "") .emptyLabelKey)

/-- What breaks the rules of a manifest, each time with its error, in the order of the rules. -/
def violations (manifest : Manifest) : List ManifestError :=
  breach (manifest.version = 1) (.unsupportedVersion manifest.version) ++
  ((match Image.parse manifest.container.image with
    | .ok _ => []
    | .error cause => [.image cause]) ++
  ((containerViolations manifest.container).map .params ++
  (manifest.preStart.flatMap preStartViolations ++
  manifest.postStart.flatMap postStartViolations)))

/-- A manifest that breaks no rule. -/
structure Valid (manifest : Manifest) : Prop where
  version : manifest.version = 1
  image : ∃ image, Image.parse manifest.container.image = .ok image
  ports : ∀ port ∈ manifest.container.ports, port.container ≠ 0
  mounts : ∀ mount ∈ manifest.container.mounts, HostPath.isAbsolute mount.container = true
  tmpfs : ∀ path ∈ manifest.container.tmpfs, HostPath.isAbsolute path = true
  env : ∀ name ∈ manifest.container.env.keys, name ≠ "" ∧ '=' ∉ name.toList
  labels : ∀ key ∈ manifest.container.labels.keys, key ≠ ""
  copies : ∀ hostPath remote, .copy hostPath remote ∈ manifest.preStart →
    HostPath.isAbsolute remote = true
  waits : ∀ pattern stream timeout, .awaitLog pattern stream timeout ∈ manifest.postStart →
    pattern ≠ "" ∧ timeout ≤ 86400
  commands : ∀ command env, .exec command env ∈ manifest.postStart → command ≠ []
  copiesOut : ∀ remote hostPath, .copyOut remote hostPath ∈ manifest.postStart →
    HostPath.isAbsolute remote = true

end Manifest

/-! ### What becomes of the entries -/

/-- A path of the host as it is resolved against a directory. -/
inductive HostPath.Resolved (baseDir : String) : String → String → Prop where
  | kept (path : String) (absolute : isAbsolute path = true) : Resolved baseDir path path
  | joined (path separator : String) (relative : isAbsolute path = false)
    (between : separator = if baseDir = "" ∨ baseDir.toList.getLast? = some '/' then "" else "/") :
    Resolved baseDir path (baseDir ++ separator ++ path)

/-- A container port as it is asked for. -/
structure PortEntry.Resolved (entry : PortEntry) (spec : PortSpec) : Prop where
  container : spec.containerPort = entry.container
  protocol : spec.protocol = entry.protocol
  host : spec.hostPort = entry.host

structure MountEntry.Resolved (baseDir : String) (entry : MountEntry) (mount : BindMount) :
    Prop where
  host : HostPath.Resolved baseDir entry.host mount.hostDir
  container : mount.containerDir = entry.container
  mode : mount.mode = .readOnly ↔ entry.readOnly = true

inductive PreStartAction.Resolved (baseDir : String) : PreStartAction → PreStartAction → Prop where
  | copy {hostPath resolved : String} (remote : String)
    (host : HostPath.Resolved baseDir hostPath resolved) :
    Resolved baseDir (.copy hostPath remote) (.copy resolved remote)

inductive PostStartAction.Resolved (baseDir : String) :
    PostStartAction → PostStartAction → Prop where
  | awaitLog (pattern : String) (stream : LogStream) (timeout : UInt64) :
    Resolved baseDir (.awaitLog pattern stream timeout) (.awaitLog pattern stream timeout)
  | exec (command : List String) (env : TextMap) :
    Resolved baseDir (.exec command env) (.exec command env)
  | copyOut {hostPath resolved : String} (remote : String)
    (host : HostPath.Resolved baseDir hostPath resolved) :
    Resolved baseDir (.copyOut remote hostPath) (.copyOut remote resolved)

/-- The paths of the host that a resolved manifest names. -/
def ResolvedManifest.hostPaths (resolved : ResolvedManifest) : List String :=
  resolved.params.bindMounts.map (·.hostDir) ++
  resolved.preStart.map (fun | .copy hostPath _ => hostPath) ++
  resolved.postStart.filterMap fun
    | .copyOut _ hostPath => some hostPath
    | _ => none

/-- What a manifest is resolved to: every list keeps its order and its length. -/
structure Manifest.ResolvesTo (manifest : Manifest) (baseDir : String)
    (resolved : ResolvedManifest) : Prop where
  valid : resolved.params.validate = .ok ()
  image : Image.parse manifest.container.image = .ok resolved.params.image
  name : ∀ name, resolved.params.name = some name ↔
    name ≠ "" ∧ manifest.container.name.map trim = some name
  command : resolved.params.command = manifest.container.command
  commandType : resolved.params.commandType = manifest.container.commandType
  autoRemove : resolved.params.disableAutoRemove = manifest.container.disableAutoRemove
  stopTimeout : resolved.params.stopTimeout = manifest.container.stopTimeout.getD 10
  env : resolved.params.env = manifest.container.env
  labels : resolved.params.labels = manifest.container.labels
  ports : List.Forall₂ PortEntry.Resolved manifest.container.ports resolved.params.ports
  mounts : List.Forall₂ (MountEntry.Resolved baseDir) manifest.container.mounts
    resolved.params.bindMounts
  tmpfs : resolved.params.tmpfs = manifest.container.tmpfs
  preStart : List.Forall₂ (PreStartAction.Resolved baseDir) manifest.preStart resolved.preStart
  postStart : List.Forall₂ (PostStartAction.Resolved baseDir) manifest.postStart resolved.postStart
  absolute : HostPath.isAbsolute baseDir = true →
    ∀ path ∈ resolved.hostPaths, HostPath.isAbsolute path = true

/-! ### Entries one by one -/

theorem HostPath.resolved_join (baseDir path : String) :
    HostPath.Resolved baseDir path (HostPath.join baseDir path) := by
  unfold join
  by_cases absolute : isAbsolute path = true
  · rw [if_pos absolute]
    exact .kept path absolute
  · rw [if_neg absolute]
    have relative : isAbsolute path = false := eq_false_of_ne_true absolute
    by_cases closed : baseDir = "" ∨ baseDir.toList.getLast? = some '/'
    · have joined : HostPath.Resolved baseDir path (baseDir ++ "" ++ path) :=
        .joined path "" relative (by rw [if_pos closed])
      have flag : (baseDir.isEmpty || baseDir.toList.getLast? = some '/') = true := by
        simpa using closed
      rw [if_pos flag]
      simpa using joined
    · have joined : HostPath.Resolved baseDir path (baseDir ++ "/" ++ path) :=
        .joined path "/" relative (by rw [if_neg closed])
      have flag : ¬ (baseDir.isEmpty || baseDir.toList.getLast? = some '/') = true := by
        simpa using closed
      rw [if_neg flag]
      exact joined

theorem HostPath.Resolved.isAbsolute {baseDir path resolved : String}
    (place : HostPath.Resolved baseDir path resolved)
    (absolute : HostPath.isAbsolute baseDir = true) : HostPath.isAbsolute resolved = true := by
  cases place with
  | kept own => exact own
  | joined separator relative between =>
    -- The directory comes first, and it has a first character.
    simp only [HostPath.isAbsolute, decide_eq_true_eq] at absolute ⊢
    rw [String.toList_append, String.toList_append, List.head?_append, List.head?_append, absolute]
    rfl

namespace Manifest

theorem requireAbsolute_settles (action : ActionKind) (path : String) :
    Settles (breach (HostPath.isAbsolute path = true) (.relativeRemotePath action path))
      (fun _ => True) (requireAbsolute action path) := by
  unfold requireAbsolute breach
  split
  · exact ⟨rfl, trivial⟩
  · rfl

theorem resolvePreStart_settles (baseDir : String) (action : PreStartAction) :
    Settles (preStartViolations action) (PreStartAction.Resolved baseDir action)
      (resolvePreStart baseDir action) := by
  cases action with
  | copy hostPath remote =>
    refine (requireAbsolute_settles .preStartCopy remote).bind_pure fun _ _ => ?_
    exact .copy remote (HostPath.resolved_join baseDir hostPath)

theorem resolvePostStart_settles (baseDir : String) (action : PostStartAction) :
    Settles (postStartViolations action) (PostStartAction.Resolved baseDir action)
      (resolvePostStart baseDir action) := by
  cases action with
  | awaitLog pattern stream timeout =>
    refine .rule _ (fun broken => ?_) fun filled => ?_
    · simp only [resolvePostStart, not_not.mp broken, String.isEmpty_iff, if_true]
      rfl
    · rw [← List.append_nil (breach _ _)]
      refine .rule _ (fun broken => ?_) fun short => ?_
      · have long : maxAwaitTimeout < timeout := by simpa [maxAwaitTimeout] using broken
        simp only [resolvePostStart, String.isEmpty_iff, filled, if_false, long, if_true]
        rfl
      · have brief : ¬ maxAwaitTimeout < timeout := by simpa [maxAwaitTimeout] using short
        simp only [resolvePostStart, String.isEmpty_iff, filled, brief, if_false]
        exact .pure (.awaitLog pattern stream timeout)
  | exec command env =>
    rw [postStartViolations, ← List.append_nil (breach _ _)]
    refine .rule _ (fun broken => ?_) fun filled => ?_
    · simp only [resolvePostStart, not_not.mp broken, List.isEmpty_nil, if_true]
      rfl
    · simp only [resolvePostStart, List.isEmpty_iff, filled, if_false]
      exact .pure (.exec command env)
  | copyOut remote hostPath =>
    refine (requireAbsolute_settles .postStartCopyOut remote).bind_pure fun _ _ => ?_
    exact .copyOut remote (HostPath.resolved_join baseDir hostPath)

/-- The parameters of a container break the rules that its section breaks. -/
theorem violations_containerParams (container : ContainerSection) (image : Image)
    (baseDir : String) :
    (containerParams container image baseDir).violations = containerViolations container := by
  simp only [Params.violations, containerViolations, containerParams, Params.containerPaths,
    portSpec, bindMount, List.flatMap_map, List.flatMap_append, List.append_assoc]
  rfl

theorem containerName_eq_some_iff (given : Option String) (name : String) :
    containerName given = some name ↔ name ≠ "" ∧ given.map trim = some name := by
  rw [containerName, Option.filter_eq_some_iff, and_comm]
  simp

theorem resolvesTo (manifest : Manifest) (baseDir : String) {image : Image}
    (read : Image.parse manifest.container.image = .ok image)
    (valid : (containerParams manifest.container image baseDir).validate = .ok ())
    {preStart : List PreStartAction} {postStart : List PostStartAction}
    (before : List.Forall₂ (PreStartAction.Resolved baseDir) manifest.preStart preStart)
    (after : List.Forall₂ (PostStartAction.Resolved baseDir) manifest.postStart postStart) :
    manifest.ResolvesTo baseDir
      ⟨containerParams manifest.container image baseDir, preStart, postStart⟩ where
  valid := valid
  image := read
  name := containerName_eq_some_iff manifest.container.name
  command := rfl
  commandType := rfl
  autoRemove := rfl
  stopTimeout := rfl
  env := rfl
  labels := rfl
  ports := by
    rw [containerParams, List.forall₂_map_right_iff, List.forall₂_same]
    exact fun entry _ => ⟨rfl, rfl, rfl⟩
  mounts := by
    rw [containerParams, List.forall₂_map_right_iff, List.forall₂_same]
    intro entry _
    refine ⟨HostPath.resolved_join baseDir entry.host, rfl, ?_⟩
    cases readOnly : entry.readOnly <;> simp [bindMount, readOnly]
  tmpfs := rfl
  preStart := before
  postStart := after
  absolute := by
    -- Whatever kind of entry names the path, it was resolved against the directory.
    intro absolute path mem
    rcases List.mem_append.mp mem with front | back
    · rcases List.mem_append.mp front with ofMount | ofCopy
      · obtain ⟨mount, inside, rfl⟩ := List.mem_map.mp ofMount
        obtain ⟨entry, -, rfl⟩ := List.mem_map.mp inside
        exact (HostPath.resolved_join baseDir entry.host).isAbsolute absolute
      · obtain ⟨action, inside, rfl⟩ := List.mem_map.mp ofCopy
        obtain ⟨_, -, place⟩ := exists_of_forall₂ before inside
        cases place with
        | copy remote place => exact place.isAbsolute absolute
    · obtain ⟨action, inside, named⟩ := List.mem_filterMap.mp back
      obtain ⟨_, -, place⟩ := exists_of_forall₂ after inside
      cases place with
      | awaitLog | exec => cases named
      | copyOut remote place =>
        cases named
        exact place.isAbsolute absolute

/-- An image that cannot be read breaks the rule that it can. -/
theorem parse_settles (source : String) :
    Settles (match Image.parse source with
        | .ok _ => []
        | .error cause => [.image cause])
      (fun image => Image.parse source = .ok image)
      ((Image.parse source).mapError ManifestError.image) := by
  cases Image.parse source with
  | ok image => exact ⟨rfl, rfl⟩
  | error cause => rfl

theorem resolve_settles (manifest : Manifest) (baseDir : String) :
    Settles manifest.violations (manifest.ResolvesTo baseDir) (manifest.resolve baseDir) := by
  refine .rule _ (fun broken => ?_) fun supported => ?_
  · have other : manifest.version ≠ supportedVersion := broken
    simp only [resolve, if_pos other]
    rfl
  have version : manifest.version = supportedVersion := supported
  have checked : manifest.resolve baseDir = ((Image.parse manifest.container.image).mapError .image
      >>= fun image => ((containerParams manifest.container image baseDir).validate.mapError .params
      >>= fun _ => (manifest.preStart.mapM (resolvePreStart baseDir)
      >>= fun preStart => (manifest.postStart.mapM (resolvePostStart baseDir)
      >>= fun postStart => pure ⟨containerParams manifest.container image baseDir, preStart,
        postStart⟩)))) := by
    simp [resolve, version]
  rw [checked]
  -- image, parameters and actions are settled in turn, and what each step gave is what the manifest
  -- resolves to
  refine (parse_settles manifest.container.image).bind fun image read => ?_
  rw [← violations_containerParams manifest.container image baseDir]
  refine ((Params.validate_settles _).mapError _).bind fun _ valid => ?_
  refine (Settles.mapM (resolvePreStart_settles baseDir) _).bind fun preStart before => ?_
  refine (Settles.mapM (resolvePostStart_settles baseDir) _).bind_pure fun postStart after => ?_
  exact manifest.resolvesTo baseDir read valid before after

theorem containerViolations_eq_nil_iff (container : ContainerSection) :
    containerViolations container = [] ↔
      (∀ port ∈ container.ports, port.container ≠ 0) ∧
      (∀ mount ∈ container.mounts, HostPath.isAbsolute mount.container = true) ∧
      (∀ path ∈ container.tmpfs, HostPath.isAbsolute path = true) ∧
      (∀ name ∈ container.env.keys, name ≠ "" ∧ '=' ∉ name.toList) ∧
      ∀ key ∈ container.labels.keys, key ≠ "" := by
  simp only [containerViolations, List.append_eq_nil_iff, List.flatMap_eq_nil_iff,
    breach_eq_nil_iff, and_assoc]

theorem violations_eq_nil_iff (manifest : Manifest) :
    manifest.violations = [] ↔ manifest.Valid := by
  have readable : (match Image.parse manifest.container.image with
      | .ok _ => []
      | .error cause => [ManifestError.image cause]) = [] ↔
      ∃ image, Image.parse manifest.container.image = .ok image := by
    cases Image.parse manifest.container.image <;> simp
  simp only [violations, List.append_eq_nil_iff, List.map_eq_nil_iff, List.flatMap_eq_nil_iff,
    breach_eq_nil_iff, containerViolations_eq_nil_iff, readable]
  constructor
  · rintro ⟨version, image, ⟨ports, mounts, tmpfs, env, labels⟩, before, after⟩
    refine ⟨version, image, ports, mounts, tmpfs, env, labels, fun hostPath remote mem => ?_,
      fun pattern stream timeout mem => ?_, fun command env mem => ?_,
      fun remote hostPath mem => ?_⟩
    · simpa [preStartViolations] using before _ mem
    · simpa [postStartViolations] using after _ mem
    · simpa [postStartViolations] using after _ mem
    · simpa [postStartViolations] using after _ mem
  · intro valid
    refine ⟨valid.version, valid.image,
      ⟨valid.ports, valid.mounts, valid.tmpfs, valid.env, valid.labels⟩, fun action mem => ?_,
      fun action mem => ?_⟩
    · cases action with
      | copy hostPath remote => simpa [preStartViolations] using valid.copies hostPath remote mem
    · cases action with
      | awaitLog pattern stream timeout =>
        simpa [postStartViolations] using valid.waits pattern stream timeout mem
      | exec command env => simpa [postStartViolations] using valid.commands command env mem
      | copyOut remote hostPath =>
        simpa [postStartViolations] using valid.copiesOut remote hostPath mem

/-! ### Main result -/

/-- A manifest is resolved exactly when it breaks no rule, and to what it says. Otherwise the first
of the rules that it breaks, in their order, is the error. -/
theorem resolve_decided (manifest : Manifest) (baseDir : String) :
    (manifest.violations = [] ↔ manifest.Valid) ∧
    match manifest.violations with
    | [] => ∃ resolved, manifest.resolve baseDir = .ok resolved ∧
        manifest.ResolvesTo baseDir resolved
    | first :: _ => manifest.resolve baseDir = .error first := by
  refine ⟨manifest.violations_eq_nil_iff, ?_⟩
  have settles := manifest.resolve_settles baseDir
  cases outcome : manifest.resolve baseDir with
  | ok resolved =>
    rw [outcome] at settles
    rw [settles.1]
    exact ⟨resolved, rfl, settles.2⟩
  | error cause =>
    rw [outcome] at settles
    obtain ⟨others, listed⟩ := List.head?_eq_some_iff.mp settles
    rw [listed]

end Manifest

end ContainerFixture
