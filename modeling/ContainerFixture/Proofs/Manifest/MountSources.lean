import ContainerFixture.Manifest.File
import ContainerFixture.Proofs.Docker.Encoding
import ContainerFixture.Proofs.Document.Records
import ContainerFixture.Proofs.Manifest.Resolution

/-!
# Where the directories of mounts start

The client of docker reads the source of a mount as a directory of the host if it starts at the root
or, with one dot or two and a slash, at a directory that the client knows. Any other source can be
taken for the name of a volume.

## Main results

`Manifest.load_mountSources`: which mounts of a manifest file have a source that starts like this.
It depends on the path by which the file was found, and in a file that is found by its name alone on
the entries themselves. `Manifest.mounts_taken_for_volumes`: there are mounts without such a source.

## Proof strategy

What stands before the first slash of a path tells how it starts, so nothing that is joined behind a
slash can change it (`startsAnchored_append_slash`), and neither can the steps that lead from a path
to its parent (`startsAnchored_trimmedBack`). A path that leads to a file ends in a name
(`HostFiles.endsIn_of_read`), and what is before this name is its parent.
-/

namespace ContainerFixture

open Text

/-! ### How a path starts -/

namespace HostPath

/-- The text starts at the root, or with one dot or two and a slash. -/
def StartsAnchored (text : List Char) : Prop :=
  ∃ dots ∈ [[], ['.'], ['.', '.']], dots ++ ['/'] <+: text

/-- A path that nobody can take for a name. -/
def IsAnchored (path : String) : Prop := StartsAnchored path.toList

instance : DecidablePred StartsAnchored := fun text =>
  inferInstanceAs (Decidable (∃ dots ∈ [[], ['.'], ['.', '.']], dots ++ ['/'] <+: text))

instance : DecidablePred IsAnchored := fun path =>
  inferInstanceAs (Decidable (StartsAnchored path.toList))

theorem slash_not_mem_dots {dots : List Char} (mem : dots ∈ [[], ['.'], ['.', '.']]) :
    '/' ∉ dots := by
  have all : ∀ dots ∈ [[], ['.'], ['.', '.']], '/' ∉ dots := by decide
  exact all dots mem

theorem StartsAnchored.mono {front text : List Char} (anchored : StartsAnchored front)
    (within : front <+: text) : StartsAnchored text := by
  obtain ⟨dots, mem, starts⟩ := anchored
  exact ⟨dots, mem, starts.trans within⟩

/-- What stands behind a slash does not change how a text starts. -/
theorem startsAnchored_append_slash (front rest : List Char) :
    StartsAnchored (front ++ '/' :: rest) ↔ StartsAnchored (front ++ ['/']) := by
  have within : front ++ ['/'] <+: front ++ '/' :: rest := ⟨rest, by simp⟩
  constructor
  · rintro ⟨dots, mem, starts⟩
    refine ⟨dots, mem, ?_⟩
    rcases List.prefix_or_prefix_of_prefix starts within with shorter | longer
    · exact shorter
    · -- the dots hold no slash, so what reaches up to one is not longer
      rcases List.prefix_concat_iff.mp longer with same | inside
      · exact same ▸ List.prefix_rfl
      · have slash : '/' ∈ front ++ ['/'] := by simp
        exact absurd (inside.subset slash) (slash_not_mem_dots mem)
  · exact fun anchored => anchored.mono within

theorem startsAnchored_of_slash (rest : List Char) : StartsAnchored ('/' :: rest) :=
  ⟨[], List.mem_cons_self, rest, rfl⟩

theorem IsAnchored.of_isAbsolute {path : String} (absolute : isAbsolute path = true) :
    IsAnchored path := by
  rw [isAbsolute, decide_eq_true_eq] at absolute
  obtain ⟨rest, text⟩ := List.head?_eq_some_iff.mp absolute
  rw [IsAnchored, text]
  exact startsAnchored_of_slash rest

/-- A path that was resolved starts like the directory, or like the path itself when it is absolute
or the directory is not named. -/
theorem Resolved.isAnchored_iff {baseDir path resolved : String}
    (place : Resolved baseDir path resolved) : IsAnchored resolved ↔
      HostPath.isAbsolute path = true ∨
        if baseDir = "" then IsAnchored path else IsAnchored (baseDir ++ "/") := by
  cases place with
  | kept absolute => exact iff_of_true (.of_isAbsolute absolute) (Or.inl absolute)
  | joined separator relative between =>
    rw [or_iff_right (by simp [relative])]
    by_cases unnamed : baseDir = ""
    · rw [if_pos (Or.inl unnamed)] at between
      rw [if_pos unnamed, unnamed, between]
      simp
    rw [if_neg unnamed]
    by_cases closed : baseDir.toList.getLast? = some '/'
    · obtain ⟨front, text⟩ := List.getLast?_eq_some_iff.mp closed
      rw [if_pos (Or.inr closed)] at between
      have joined : (baseDir ++ separator ++ path).toList = front ++ '/' :: path.toList := by
        simp [between, text]
      have slashed : (baseDir ++ "/").toList = front ++ '/' :: ['/'] := by simp [text]
      rw [IsAnchored, IsAnchored, joined, slashed, startsAnchored_append_slash front path.toList,
        startsAnchored_append_slash front ['/']]
    · rw [if_neg (by simp [unnamed, closed])] at between
      have joined : (baseDir ++ separator ++ path).toList =
          baseDir.toList ++ '/' :: path.toList := by
        simp [between]
      have slashed : (baseDir ++ "/").toList = baseDir.toList ++ ['/'] := by simp
      rw [IsAnchored, IsAnchored, joined, slashed, startsAnchored_append_slash]

/-- Only a path without a slash, in a directory that is not named, stays without a slash. -/
theorem Resolved.slash_not_mem_iff {baseDir path resolved : String}
    (place : Resolved baseDir path resolved) :
    '/' ∉ resolved.toList ↔ baseDir = "" ∧ '/' ∉ path.toList := by
  cases place with
  | kept absolute =>
    rw [HostPath.isAbsolute, decide_eq_true_eq] at absolute
    have slash : '/' ∈ path.toList := List.mem_of_head? absolute
    exact iff_of_false (not_not.mpr slash) fun plain => plain.2 slash
  | joined separator relative between =>
    by_cases unnamed : baseDir = ""
    · rw [if_pos (Or.inl unnamed)] at between
      simp [unnamed, between]
    · refine iff_of_false (not_not.mpr ?_) fun plain => unnamed plain.1
      by_cases closed : baseDir.toList.getLast? = some '/'
      · simp [List.mem_of_getLast? closed]
      · rw [if_neg (by simp [unnamed, closed])] at between
        simp [between]

/-! ### The parent of a path -/

/-- The slashes and the single dots at the end of a text do not change how it starts. -/
theorem startsAnchored_trimmedBack (back : List Char) :
    StartsAnchored ((trimmedBack back).reverse ++ ['/']) ↔
      StartsAnchored (back.reverse ++ ['/']) := by
  induction back using trimmedBack.induct with
  | case1 c rest ih =>
    rw [trimmedBack, ih]
    simpa using (startsAnchored_append_slash (c :: rest).reverse ['/']).symm
  | case2 rest none =>
    rw [trimmedBack, if_pos none, List.isEmpty_iff.mp none]
    decide
  | case3 rest some ih =>
    rw [trimmedBack, if_neg some, ih]
    have slash := startsAnchored_append_slash rest.reverse ['/']
    have dot := startsAnchored_append_slash rest.reverse ['.', '/']
    simpa using slash.trans dot.symm
  | case4 back notSlash notDot =>
    rw [trimmedBack]
    · exact notSlash
    · exact notDot

theorem trimmedBack_ne_nil {back : List Char} (some : back ≠ []) : trimmedBack back ≠ [] := by
  induction back using trimmedBack.induct with
  | case1 c rest ih =>
    rw [trimmedBack]
    exact ih (List.cons_ne_nil _ _)
  | case2 rest none => simp [trimmedBack, none]
  | case3 rest more ih =>
    rw [trimmedBack, if_neg more]
    exact ih (List.cons_ne_nil _ _)
  | case4 back notSlash notDot =>
    rw [trimmedBack]
    · exact some
    · exact notSlash
    · exact notDot

/-- A path that ends in the name of something: the name has no slash, and it is not the dot that
stands for the directory itself. -/
structure EndsIn (path : String) (front name : List Char) : Prop where
  whole : path.toList = front ++ name
  separated : front = [] ∨ ∃ directory, front = directory ++ ['/']
  plain : '/' ∉ name
  filled : name ≠ []
  named : name ≠ ['.']

namespace EndsIn

variable {path : String} {front name : List Char}

theorem trimmedBack_eq (ends : EndsIn path front name) :
    trimmedBack path.toList.reverse = path.toList.reverse := by
  obtain ⟨c, more, spelled⟩ := List.exists_cons_of_ne_nil (List.reverse_ne_nil_iff.mpr ends.filled)
  have plain : '/' ∉ c :: more := by
    rw [← spelled]
    simpa using ends.plain
  rw [ends.whole, List.reverse_append, spelled, List.cons_append, trimmedBack]
  · intro d rest slash
    obtain rfl : c = '/' := (List.cons.inj slash).1
    exact plain List.mem_cons_self
  · intro rest dotted
    obtain ⟨rfl, slash⟩ := List.cons.inj dotted
    cases more with
    | nil => exact ends.named (List.reverse_eq_iff.mp spelled)
    | cons d others =>
      obtain rfl : d = '/' := (List.cons.inj slash).1
      exact plain (List.mem_cons_of_mem _ List.mem_cons_self)

theorem dropWhile_eq (ends : EndsIn path front name) :
    path.toList.reverse.dropWhile (· ≠ '/') = front.reverse := by
  have passed : ∀ c ∈ name.reverse, decide (c ≠ '/') = true := by
    intro c mem
    rw [decide_eq_true_eq]
    rintro rfl
    exact ends.plain (List.mem_reverse.mp mem)
  rw [ends.whole, List.reverse_append, List.dropWhile_append_of_pos passed]
  rcases ends.separated with rfl | ⟨directory, rfl⟩ <;> simp

theorem parent_eq (ends : EndsIn path front name) : parent path =
    some (String.ofList (trimmedBack front.reverse).reverse) := by
  have some : path.toList.reverse ≠ [] := by simp [ends.whole, ends.filled]
  have notRoot : path.toList.reverse ≠ ['/'] := by
    intro root
    have text : front ++ name = ['/'] := ends.whole.symm.trans (List.reverse_eq_iff.mp root)
    rcases List.append_eq_singleton_iff.mp text with ⟨-, rfl⟩ | ⟨-, rfl⟩
    · exact ends.plain List.mem_cons_self
    · exact ends.filled rfl
  rw [parent, ends.trimmedBack_eq, if_neg (by simp [some, notRoot]), ends.dropWhile_eq]
  rcases ends.separated with rfl | ⟨directory, rfl⟩ <;> simp [trimmedBack]

end EndsIn

end HostPath

/-! ### Paths that lead to files -/

namespace HostFiles

variable {files : HostFiles} {use : PathUse} {slash : Bool} {start location : Location}
  {name : String} {names : List String}

/-- A component leads on, or to the file itself. -/
theorem follow_cons (led : files.follow use slash start (name :: names) = .ok (.file location)) :
    (∃ next, files.follow use slash next names = .ok (.file location)) ∨
      names = [] ∧ slash = false ∧ name ≠ "." := by
  by_cases dot : name = "."
  · subst dot
    exact Or.inl ⟨start, led⟩
  by_cases dots : name = ".."
  · subst dots
    exact Or.inl ⟨above start, led⟩
  rw [follow] at led
  case x_2 => exact dot
  case x_3 => exact dots
  -- a slash behind the name of a file, a name that is too long and one of nothing lead nowhere
  split at led
  · cases led
  split at led
  · cases led
  split at led
  · exact Or.inl ⟨_, led⟩
  split at led
  · split at led
    · next last =>
      rw [Bool.and_eq_true, List.isEmpty_iff, Bool.not_eq_true'] at last
      exact Or.inr ⟨last.1, last.2, dot⟩
    · cases led
  · split at led <;> cases led

/-- Whatever leads to a file ends in a component that is not a single dot, and not in a slash. -/
theorem last_of_follow (led : files.follow use slash start names = .ok (.file location)) :
    slash = false ∧ ∃ name, names.getLast? = some name ∧ name ≠ "." := by
  induction names generalizing start with
  | nil => cases led
  | cons name names ih =>
    rcases follow_cons led with ⟨next, further⟩ | ⟨rfl, closed, named⟩
    · obtain ⟨closed, last, found, named⟩ := ih further
      exact ⟨closed, last, by rw [List.getLast?_cons, found]; rfl, named⟩
    · exact ⟨closed, name, rfl, named⟩

theorem components_append (front name : List Char) (plain : '/' ∉ name) (filled : name ≠ []) :
    components (String.ofList (front ++ '/' :: name)) =
      components (String.ofList front) ++ [String.ofList name] := by
  simp [components, pieces_append, pieces_of_not_mem plain, filled]

/-- A path at which there is a file ends in the name of it. -/
theorem endsIn_of_read {path content : String} (found : files.read path = .ok content) :
    ∃ front name, HostPath.EndsIn path front name := by
  obtain ⟨location, led⟩ : ∃ location, files.resolve .find path = .ok (.file location) := by
    unfold read at found
    split at found
    · next location led => exact ⟨location, led⟩
    all_goals cases found
  unfold resolve at led
  split at led
  · cases led
  split at led
  · cases led
  split at led
  · cases led
  next filled =>
  obtain ⟨closed, last, ended, named⟩ := last_of_follow led
  rw [decide_eq_false_iff_not] at closed
  cases cut : atLast '/' path.toList with
  | none =>
    -- without a slash, the whole path is the name
    have plain : '/' ∉ path.toList := atLast_eq_none_iff.mp cut
    have some : path.toList ≠ [] := by simpa using filled
    have alone : components path = [path] := by
      simp [components, pieces_of_not_mem plain, some]
    rw [alone] at ended
    obtain rfl : path = last := by simpa using ended
    refine ⟨[], path.toList, rfl, Or.inl rfl, plain, some, fun dot => named ?_⟩
    exact String.toList_inj.mp dot
  | some parts =>
    obtain ⟨front, name⟩ := parts
    obtain ⟨whole, plain⟩ := atLast_eq_some_iff.mp cut
    have some : name ≠ [] := by
      rintro rfl
      simp [whole] at closed
    have spelled : path = String.ofList (front ++ '/' :: name) := by
      rw [← whole, String.ofList_toList]
    rw [spelled, components_append front name plain some] at ended
    obtain rfl : String.ofList name = last := by simpa using ended
    refine ⟨front ++ ['/'], name, by simp [whole], Or.inr ⟨front, rfl⟩, plain, some, ?_⟩
    rintro rfl
    exact named rfl

end HostFiles

namespace Manifest

open HostPath (IsAnchored)

section
variable {path : String} {front name : List Char}

/-- The directory of a file is not named just if the path of the file has no slash. -/
theorem baseDirectory_eq_empty_iff (ends : HostPath.EndsIn path front name) :
    baseDirectory path = "" ↔ '/' ∉ path.toList := by
  rw [baseDirectory, ends.parent_eq, Option.getD_some, ends.whole, List.mem_append,
    or_iff_left ends.plain]
  rcases ends.separated with rfl | ⟨directory, rfl⟩
  · simp [HostPath.trimmedBack]
  · have some : HostPath.trimmedBack (directory ++ ['/']).reverse ≠ [] :=
      HostPath.trimmedBack_ne_nil (by simp)
    refine iff_of_false (fun unnamed => some ?_) (by simp)
    simpa using congrArg String.toList unnamed

theorem isAnchored_baseDirectory (ends : HostPath.EndsIn path front name)
    (slash : '/' ∈ path.toList) : IsAnchored (baseDirectory path ++ "/") ↔ IsAnchored path := by
  rw [ends.whole, List.mem_append, or_iff_left ends.plain] at slash
  obtain ⟨directory, rfl⟩ : ∃ directory, front = directory ++ ['/'] :=
    ends.separated.resolve_left (List.ne_nil_of_mem slash)
  have base : (baseDirectory path ++ "/").toList =
      (HostPath.trimmedBack (directory ++ ['/']).reverse).reverse ++ ['/'] := by
    simp [baseDirectory, ends.parent_eq]
  rw [IsAnchored, IsAnchored, base, HostPath.startsAnchored_trimmedBack, ends.whole]
  have doubled := HostPath.startsAnchored_append_slash directory ['/']
  have behind := HostPath.startsAnchored_append_slash directory name
  simpa using doubled.trans behind.symm

end

theorem ok_of_mapError {ε ε' α : Type} {restate : ε → ε'} {step : Except ε α} {a : α}
    (done : step.mapError restate = .ok a) : step = .ok a := by
  cases step with
  | ok b =>
    cases done
    rfl
  | error cause => cases done

/-- What is loaded from a file was read from its text and resolved against its directory. -/
theorem exists_of_load {files : HostFiles} {path : String} {resolved : ResolvedManifest}
    (loaded : load files path = .ok resolved) :
    ∃ source manifest, files.read path = .ok source ∧ read source = .ok manifest ∧
      manifest.resolve (baseDirectory path) = .ok resolved := by
  obtain ⟨source, found, loaded⟩ := Document.bind_eq_ok_iff.mp loaded
  obtain ⟨manifest, parsed, loaded⟩ := Document.bind_eq_ok_iff.mp loaded
  exact ⟨source, manifest, ok_of_mapError found, ok_of_mapError parsed, ok_of_mapError loaded⟩

end Manifest

/-! ### What the client is told -/

namespace Docker

open HostPath (IsAnchored StartsAnchored)

/-- What the client takes for the source of a mount: the text up to the first colon. -/
def volumeSource (volume : String) : String := String.ofList (volume.toList.takeWhile (· ≠ ':'))

/-- The sources of the mounts among the options of a creation. -/
def volumeSources (params : Params) : List String :=
  (valuesOf "--volume" (options params)).map volumeSource

theorem startsAnchored_takeWhile (text : List Char) :
    StartsAnchored (text.takeWhile (· ≠ ':')) ↔ StartsAnchored text := by
  constructor
  · exact fun anchored => anchored.mono (List.takeWhile_prefix _)
  · rintro ⟨dots, mem, rest, rfl⟩
    refine ⟨dots, mem, rest.takeWhile (· ≠ ':'), ?_⟩
    have clear : ∀ c ∈ dots ++ ['/'], decide (c ≠ ':') = true := by
      simp only [List.mem_cons, List.not_mem_nil, or_false] at mem
      rcases mem with rfl | rfl | rfl <;> simp
    exact (List.takeWhile_append_of_pos clear).symm

theorem isAnchored_volumeSource (mount : BindMount) :
    IsAnchored (volumeSource (volumeText mount)) ↔ IsAnchored mount.hostDir := by
  have cut : (volumeText mount).toList.takeWhile (· ≠ ':') =
      mount.hostDir.toList.takeWhile (· ≠ ':') := by
    rw [toList_volumeText, List.append_assoc, List.cons_append]
    induction mount.hostDir.toList with
    | nil => rfl
    | cons c rest ih => simp only [List.cons_append, List.takeWhile_cons, ih]
  -- cut at a colon of its own, a directory still starts as it did
  rw [IsAnchored, volumeSource, String.toList_ofList, cut, startsAnchored_takeWhile, IsAnchored]

end Docker

namespace Manifest

open HostPath (IsAnchored)

/-- Where the source of a mount in a manifest file has to come from to start at a directory that is
known: it is absolute itself, or the path of the manifest file starts like that; the entries of a
file without a directory are on their own. -/
def Anchors (path : String) (entry : MountEntry) : Prop :=
  HostPath.isAbsolute entry.host = true ∨
    if '/' ∈ path.toList then IsAnchored path else IsAnchored entry.host

/-- How the mounts of a manifest that was found at a path start, as the engine is told of them. -/
structure MountsStart (manifest : Manifest) (path : String) (params : Params) : Prop where
  directories : List.Forall₂ (fun entry mount => IsAnchored mount.hostDir ↔ Anchors path entry)
    manifest.container.mounts params.bindMounts
  sources : List.Forall₂ (fun entry source => IsAnchored source ↔ Anchors path entry)
    manifest.container.mounts (Docker.volumeSources params)
  -- Only what is a bare word in a file without a directory is still a bare word.
  words : List.Forall₂ (fun entry mount => '/' ∉ mount.hostDir.toList ↔
    '/' ∉ path.toList ∧ '/' ∉ entry.host.toList) manifest.container.mounts params.bindMounts

/-- The sources of the mounts in a manifest file start at a directory that is known where the path
of the file or the entry says so, and in no other case. -/
theorem load_mountSources {files : HostFiles} {path : String} {resolved : ResolvedManifest}
    (loaded : load files path = .ok resolved) :
    ∃ source manifest, files.read path = .ok source ∧ read source = .ok manifest ∧
      manifest.MountsStart path resolved.params := by
  obtain ⟨source, manifest, found, parsed, settled⟩ := exists_of_load loaded
  have settles := manifest.resolve_settles (baseDirectory path)
  rw [settled] at settles
  obtain ⟨front, name, ends⟩ := HostFiles.endsIn_of_read found
  have anchored {entry : MountEntry} {mount : BindMount}
      (place : entry.Resolved (baseDirectory path) mount) :
      IsAnchored mount.hostDir ↔ Anchors path entry := by
    rw [place.host.isAnchored_iff, Anchors]
    by_cases slash : '/' ∈ path.toList
    · have unnamed : baseDirectory path ≠ "" := fun empty =>
        (baseDirectory_eq_empty_iff ends).mp empty slash
      rw [if_neg unnamed, if_pos slash, isAnchored_baseDirectory ends slash]
    · rw [if_pos ((baseDirectory_eq_empty_iff ends).mpr slash), if_neg slash]
  refine ⟨source, manifest, found, parsed, ?_, ?_, ?_⟩
  · exact settles.2.mounts.imp fun _ _ => anchored
  · rw [Docker.volumeSources, (Docker.valuesOf_options resolved.params).2.2.1, List.map_map,
      List.forall₂_map_right_iff]
    exact settles.2.mounts.imp fun _ mount place =>
      (Docker.isAnchored_volumeSource mount).trans (anchored place)
  · refine settles.2.mounts.imp fun entry mount place => ?_
    rw [place.host.slash_not_mem_iff, baseDirectory_eq_empty_iff ends]

/-- A manifest that mounts the directory `fixtures` beside it. -/
def fixturesManifest : String :=
  "manifest_version = 1\n[container]\nimage = \"redis:7\"\n" ++
    "[[container.mounts]]\nhost = \"fixtures\"\ncontainer = \"/fixtures\"\n"

/-- This manifest, in the working directory and below it. -/
def fixturesFiles : HostFiles :=
  .ofList [("berth.toml", fixturesManifest), ("sub/berth.toml", fixturesManifest)]

/-- The arguments that create the container of the manifest at a path. -/
def argumentsOf (path : String) : Option (List String) :=
  (load fixturesFiles path).toOption.map fun resolved => Docker.createArguments resolved.params

/-- A path that starts with a dot makes up for an entry that is a bare word. -/
theorem load_mountSources_of_dotted :
    ∃ resolved, load fixturesFiles "./berth.toml" = .ok resolved ∧
      (resolved.params.bindMounts.map (·.hostDir)) = ["./fixtures"] ∧
      ∀ mount ∈ resolved.params.bindMounts, IsAnchored mount.hostDir := by
  have mounts : (load fixturesFiles "./berth.toml").toOption.map
      (·.params.bindMounts.map (·.hostDir)) = some ["./fixtures"] := by decide +kernel
  cases loaded : load fixturesFiles "./berth.toml" with
  | error cause =>
    rw [loaded] at mounts
    cases mounts
  | ok resolved =>
    rw [loaded] at mounts
    refine ⟨resolved, rfl, Option.some.inj mounts, fun mount mem => ?_⟩
    obtain ⟨source, manifest, -, -, starts⟩ := load_mountSources loaded
    obtain ⟨entry, -, anchored⟩ := exists_of_forall₂ starts.directories mem
    -- the entry itself is a bare word, so it is the path that makes the difference
    refine anchored.mpr (Or.inr ?_)
    rw [if_pos (by decide)]
    decide

/-- Where the manifest is found by its name alone, or in a directory by the name of that, the client
is told to mount a volume. -/
theorem mounts_taken_for_volumes :
    argumentsOf "berth.toml" = some ["create", "--rm", "--stop-timeout", "10", "--volume",
      "fixtures:/fixtures:rw", "redis:7"] ∧
    argumentsOf "sub/berth.toml" = some ["create", "--rm", "--stop-timeout", "10", "--volume",
      "sub/fixtures:/fixtures:rw", "redis:7"] ∧
    ¬ ∀ files path resolved, load files path = .ok resolved →
      (∀ mount ∈ resolved.params.bindMounts, IsAnchored mount.hostDir) ∧
        ∀ source ∈ Docker.volumeSources resolved.params, IsAnchored source := by
  refine ⟨by decide +kernel, by decide +kernel, fun safe => ?_⟩
  have sources : (load fixturesFiles "berth.toml").toOption.map
      (Docker.volumeSources ·.params) = some ["fixtures"] := by decide +kernel
  cases loaded : load fixturesFiles "berth.toml" with
  | error cause =>
    rw [loaded] at sources
    cases sources
  | ok resolved =>
    rw [loaded] at sources
    have anchored := (safe _ _ _ loaded).2 "fixtures" (by simp [Option.some.inj sources])
    exact absurd anchored (by decide)

end Manifest

end ContainerFixture
