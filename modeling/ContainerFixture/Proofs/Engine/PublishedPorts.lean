import ContainerFixture.Proofs.Engine.Effects
import ContainerFixture.Proofs.Port.Listing

/-!
# The ports that the engine in memory publishes

Starting a container writes a listing of its ports, and asking for its bindings reads the listing.
What is read is what was asked for when the container was created, bound to ports of the host.

## Main result

`portBindings_published`: after any deeds, the bindings of a known container are there to be read.
There are none until its first start. From then on there is one for each port that it exposes, with
the port of the host that was asked for, or else one of those that the engine draws for all
containers and all starts in a row.

## Proof strategy

`assignPorts_drawn` says what one start writes, with the counter as the number of ports drawn before
it. The answers on record say how many that are (`drawn`) and when the listing of a container was
last written (`LastWritten`). `Accounted` ties both to the engine, and a call of any kind keeps it.
-/

namespace ContainerFixture

/-! ### One start -/

/-- Whether the choice of a port of the host is left to the engine. -/
def PortSpec.IsOpen (spec : PortSpec) : Prop := spec.hostPort = none ∨ spec.hostPort = some 0

instance : DecidablePred PortSpec.IsOpen := fun _ => inferInstanceAs (Decidable (_ ∨ _))

/-- For how many ports a start draws one of the host. -/
def openCount (ports : List PortSpec) : Nat := ports.countP (·.IsOpen)

/-- The ports that the engine draws, in their order. There are as many as there are words of 16
bits, and then they come again. -/
def drawnPort (number : Nat) : UInt16 := UInt16.ofNat (32768 + number)

/-- The address of the port in one place, if `before` ports were drawn for others earlier. -/
def addressAt (before : Nat) (ports : List PortSpec) (place : Nat) : HostAddress where
  host := "0.0.0.0"
  port := ((ports[place]?.bind PortSpec.hostPort).filter (· ≠ 0)).getD
    (drawnPort (before + openCount (ports.take place)))

/-- The bindings of a container once it is started. -/
def published (before : Nat) (ports : List PortSpec) : List PortBinding :=
  ports.mapIdx fun place spec =>
    ⟨spec.containerPort, spec.protocol, some (addressAt before ports place)⟩

section Start

variable {before : Nat} {spec : PortSpec} {ports : List PortSpec}

theorem PortSpec.isOpen_iff : spec.IsOpen ↔ spec.hostPort.filter (· ≠ 0) = none := by
  rw [IsOpen]
  cases spec.hostPort <;> simp

theorem openCount_singleton (spec : PortSpec) :
    openCount [spec] = if spec.IsOpen then 1 else 0 := by
  simp [openCount, List.countP_cons]

theorem openCount_cons (spec : PortSpec) (ports : List PortSpec) :
    openCount (spec :: ports) = openCount [spec] + openCount ports := by
  rw [← List.singleton_append, openCount, List.countP_append]
  rfl

theorem addressAt_zero : addressAt before (spec :: ports) 0 =
    ⟨"0.0.0.0", (spec.hostPort.filter (· ≠ 0)).getD (drawnPort before)⟩ := rfl

theorem addressAt_succ (place : Nat) : addressAt before (spec :: ports) (place + 1) =
    addressAt (before + openCount [spec]) ports place := by
  simp only [addressAt, List.getElem?_cons_succ, List.take_succ_cons, HostAddress.mk.injEq,
    true_and]
  rw [openCount_cons, Nat.add_assoc]

theorem published_cons : published before (spec :: ports) =
    ⟨spec.containerPort, spec.protocol, some (addressAt before (spec :: ports) 0)⟩ ::
      published (before + openCount [spec]) ports := by
  rw [published, List.mapIdx_cons]
  simp only [addressAt_succ]
  rfl

theorem drawnPort_succ (number : Nat) : drawnPort number + 1 = drawnPort (number + 1) := by
  rw [drawnPort, drawnPort, ← Nat.add_assoc, UInt16.ofNat_add (32768 + number) 1]
  rfl

theorem listingEntry_eq (port : UInt16) (spec : PortSpec) : MemoryEngine.listingEntry port spec =
    (PortBinding.mk spec.containerPort spec.protocol (some ⟨"0.0.0.0", port⟩)).text := by
  have pieces : MemoryEngine.listingEntry port spec = "0.0.0.0:" ++ port.toNat.repr ++ "->" ++
      spec.containerPort.toNat.repr ++ "/" ++ spec.protocol.text := rfl
  rw [pieces]
  rfl

/-- A start writes the bindings that it should, and draws as many ports as are open. -/
theorem assignPorts_drawn (before : Nat) (ports : List PortSpec) :
    MemoryEngine.assignPorts ports (drawnPort before) =
      ((published before ports).map PortBinding.text, drawnPort (before + openCount ports)) := by
  induction ports generalizing before with
  | nil => rfl
  | cons spec rest ih =>
    rw [published_cons, List.map_cons, openCount_cons spec rest, ← Nat.add_assoc,
      MemoryEngine.assignPorts]
    -- The counter moves on if and only if the entry takes its port from it.
    have next : (if (spec.hostPort.filter (· ≠ 0)).isSome then drawnPort before
        else drawnPort before + 1) = drawnPort (before + openCount [spec]) := by
      rw [openCount_singleton]
      by_cases isOpen : spec.IsOpen
      · have unchosen := Option.not_isSome_iff_eq_none.mpr (PortSpec.isOpen_iff.mp isOpen)
        rw [if_pos isOpen, if_neg unchosen, drawnPort_succ]
      · have chosen := Option.isSome_iff_ne_none.mpr (mt PortSpec.isOpen_iff.mpr isOpen)
        rw [if_neg isOpen, if_pos chosen]
        rfl
    simp only [next, ih, listingEntry_eq, addressAt_zero]

theorem listable_everyHost (port : UInt16) : HostAddress.Listable ⟨"0.0.0.0", port⟩ := by
  have dashless : '-' ∉ "0.0.0.0".toList := by decide
  constructor
  case commaless =>
    show ',' ∉ "0.0.0.0".toList
    decide
  case arrowless => exact fun arrow => dashless (arrow.subset List.mem_cons_self)
  case front =>
    intro c first
    have zero : "0.0.0.0".toList.head? = some '0' := by decide
    obtain rfl : '0' = c := Option.some.inj (zero.symm.trans first)
    decide

/-- What a start writes is read as what it should be. -/
theorem parsePortList_published (before : Nat) (ports : List PortSpec) :
    parsePortList (", ".intercalate ((published before ports).map PortBinding.text)) =
      .ok (published before ports) := by
  have listable : ∀ binding ∈ published before ports, binding.Listable := by
    intro binding mem address bound
    obtain ⟨place, inside, rfl⟩ := List.mem_mapIdx.mp mem
    obtain rfl := Option.some.inj bound
    exact listable_everyHost _
  exact parsePortList_intercalate [' '] (List.forall_mem_singleton.mpr (by decide)) listable

/-- The first binding of a port of the container is the one in the first place that exposes it. -/
theorem findSome?_published (before : Nat) (ports : List PortSpec) (port : UInt16)
    (protocol : Protocol) :
    ((published before ports).filter fun binding =>
        binding.containerPort = port && binding.protocol = protocol).findSome? (·.host) =
      (ports.findIdx? fun spec => spec.containerPort = port && spec.protocol = protocol).map
        (addressAt before ports) := by
  induction ports generalizing before with
  | nil => rfl
  | cons spec rest ih =>
    rw [published_cons, List.filter_cons, List.findIdx?_cons]
    split
    · rfl
    · rw [ih, Option.map_map]
      congr 1
      funext place
      exact (addressAt_succ place).symm

end Start

/-! ### All starts -/

namespace Exchange

/-- How many ports were drawn in an exchange. -/
def draws (known : Knowledge) : Exchange → Nat
  | ⟨.start id, .ok ()⟩ => (known id).elim 0 fun seen => openCount seen.params.ports
  | _ => 0

/-- The listing of a container is written when it is created, which leaves it empty, and whenever it
is started. -/
def Writes (id : ContainerId) : Exchange → Prop
  | ⟨.create _, .ok creation⟩ => creation.id = id
  | ⟨.start other, .ok ()⟩ => other = id
  | _ => False

end Exchange

def drawnFrom : Knowledge → List Exchange → Nat
  | _, [] => 0
  | known, exchange :: later => exchange.draws known + drawnFrom (exchange.learn known) later

/-- How many ports a new engine drew for all containers together. -/
def drawn (history : List Exchange) : Nat := drawnFrom (fun _ => none) history

/-- The last exchange that wrote the listing of a container, and what came before it. -/
def LastWritten (history : List Exchange) (id : ContainerId) (earlier : List Exchange)
    (exchange : Exchange) : Prop :=
  exchange.Writes id ∧ ∃ later, history = earlier ++ exchange :: later ∧
    ∀ other ∈ later, ¬ other.Writes id

/-- A container that was not started since it was created. -/
def Unstarted (history : List Exchange) (id : ContainerId) : Prop :=
  ∃ earlier params creation, LastWritten history id earlier ⟨.create params, .ok creation⟩

/-- A container that was last started after some exchanges. -/
def StartedAfter (history : List Exchange) (id : ContainerId) (earlier : List Exchange) : Prop :=
  LastWritten history id earlier ⟨.start id, .ok ()⟩

section History

variable {history earlier earlier' : List Exchange} {id : ContainerId}
  {exchange exchange' : Exchange}

theorem drawnFrom_append (known : Knowledge) (history later : List Exchange) :
    drawnFrom known (history ++ later) =
      drawnFrom known history + drawnFrom (known.after history) later := by
  induction history generalizing known with
  | nil => exact (Nat.zero_add _).symm
  | cons first rest ih =>
    rw [List.cons_append, drawnFrom, drawnFrom, ih, Nat.add_assoc]
    rfl

theorem drawn_concat (history : List Exchange) (exchange : Exchange) :
    drawn (history ++ [exchange]) =
      drawn history + exchange.draws (Knowledge.after (fun _ => none) history) :=
  drawnFrom_append _ history [exchange]

theorem LastWritten.now (writes : exchange.Writes id) :
    LastWritten (history ++ [exchange]) id history exchange :=
  ⟨writes, [], rfl, List.forall_mem_nil _⟩

theorem LastWritten.later (last : LastWritten history id earlier exchange)
    (other : ¬ exchange'.Writes id) :
    LastWritten (history ++ [exchange']) id earlier exchange := by
  obtain ⟨writes, later, split, quiet⟩ := last
  refine ⟨writes, later ++ [exchange'], ?_, ?_⟩
  · rw [split, List.append_assoc, List.cons_append]
  · intro another mem
    rcases List.mem_append.mp mem with old | new
    · exact quiet another old
    · rw [List.mem_singleton.mp new]
      exact other

/-- There is one last exchange that wrote a listing. -/
theorem LastWritten.unique (last : LastWritten history id earlier exchange)
    (last' : LastWritten history id earlier' exchange') :
    earlier = earlier' ∧ exchange = exchange' := by
  obtain ⟨writes, later, split, quiet⟩ := last
  obtain ⟨writes', later', split', quiet'⟩ := last'
  -- Of two places in one history, one would come after the other.
  rcases List.append_eq_append_iff.mp (split ▸ split') with
    ⟨between, rfl, rest⟩ | ⟨between, rfl, rest⟩
  · cases between with
    | nil => exact ⟨(List.append_nil _).symm, (List.cons.inj rest).1⟩
    | cons first more =>
      have behind : exchange' ∈ later := (List.cons.inj rest).2 ▸ by simp
      exact absurd writes' (quiet exchange' behind)
  · cases between with
    | nil => exact ⟨List.append_nil _, (List.cons.inj rest).1.symm⟩
    | cons first more =>
      have behind : exchange ∈ later' := (List.cons.inj rest).2 ▸ by simp
      exact absurd writes (quiet' exchange behind)

end History

/-! ### The engine -/

/-- The listing of a container is what was written last. -/
inductive Listed (history : List Exchange) (id : ContainerId) (ports : List PortSpec) :
    String → Prop where
  | unstarted (unstarted : Unstarted history id) : Listed history id ports ""
  | started {earlier : List Exchange} (started : StartedAfter history id earlier) :
    Listed history id ports
      (", ".intercalate ((published (drawn earlier) ports).map PortBinding.text))

namespace Listed

variable {history earlier : List Exchange} {id : ContainerId} {ports : List PortSpec}
  {listing : String} {exchange : Exchange}

theorem later (listed : Listed history id ports listing) (other : ¬ exchange.Writes id) :
    Listed (history ++ [exchange]) id ports listing := by
  cases listed with
  | unstarted idle =>
    obtain ⟨earlier, params, creation, last⟩ := idle
    exact .unstarted ⟨earlier, params, creation, last.later other⟩
  | started last => exact .started (last.later other)

theorem either (listed : Listed history id ports listing) :
    Unstarted history id ∨ ∃ earlier, StartedAfter history id earlier := by
  cases listed with
  | unstarted idle => exact Or.inl idle
  | started last => exact Or.inr ⟨_, last⟩

theorem read_unstarted (listed : Listed history id ports listing)
    (idle : Unstarted history id) : parsePortList listing = .ok [] := by
  cases listed with
  | unstarted => rfl
  | started last =>
    -- It was written last by a creation, so not by a start.
    obtain ⟨earlier, params, creation, creating⟩ := idle
    cases (last.unique creating).2

theorem read_started (listed : Listed history id ports listing)
    (last : StartedAfter history id earlier) :
    parsePortList listing = .ok (published (drawn earlier) ports) := by
  cases listed with
  | unstarted idle =>
    obtain ⟨earlier, params, creation, creating⟩ := idle
    cases (last.unique creating).2
  | started last' =>
    rw [(last.unique last').1]
    exact parsePortList_published _ _

end Listed

namespace MemoryEngine

/-- What is on record accounts for the counter and for the listings. -/
structure Accounted (history : List Exchange) (e : MemoryEngine) : Prop where
  learned : e.presence = Knowledge.after (fun _ => none) history
  nextPort : e.nextPort = drawnPort (drawn history)
  listed : ∀ id container, e.container? id = some container →
    Listed history id container.params.ports container.ports

variable {history : List Exchange} {e after : MemoryEngine} {request : EngineCall}

theorem Accounted.failed (accounted : Accounted history e) (cause : EngineError) :
    Accounted (history ++ [⟨request, .error cause⟩]) (e.entered request) where
  learned := by
    rw [Knowledge.after_append, ← accounted.learned]
    exact (learn_error _ request cause).symm
  nextPort := by
    rw [drawn_concat]
    cases request <;> exact accounted.nextPort
  listed := by
    intro id container found
    apply (accounted.listed id container found).later
    cases request <;> exact not_false

theorem Effect.accounted {answer : request.Answer} (effect : Effect e request answer after)
    (accounted : Accounted history e)
    (learned : after.presence = Exchange.learn e.presence ⟨request, .ok answer⟩) :
    Accounted (history ++ [⟨request, .ok answer⟩]) after where
  learned := by
    rw [Knowledge.after_append, ← accounted.learned]
    exact learned
  nextPort := by
    rw [drawn_concat, ← accounted.learned]
    cases effect with
    | @start id container entries next known given =>
      have seen : e.presence id = some ⟨container.params, container.running⟩ := by
        simp [presence, known]
      rw [accounted.nextPort, assignPorts_drawn] at given
      obtain ⟨-, rfl⟩ := Prod.mk.inj given
      simp [Exchange.draws, seen, put]
    | create | stop | vanish | remove | exec | copyTo | copyFrom | followLogs | portBindings =>
      exact accounted.nextPort
  listed := by
    intro id container found
    cases effect with
    | create params =>
      rw [container?_put] at found
      split at found
      · next same =>
        obtain rfl := Option.some.inj found
        exact .unstarted ⟨history, params, _, LastWritten.now same.symm⟩
      · next other =>
        exact (accounted.listed id container found).later (Ne.symm other)
    | start known given =>
      rw [container?_put] at found
      split at found
      · next same =>
        obtain rfl := Option.some.inj found
        rw [accounted.nextPort, assignPorts_drawn] at given
        obtain ⟨rfl, -⟩ := Prod.mk.inj given
        obtain rfl := same
        exact .started (LastWritten.now rfl)
      · next other =>
        exact (accounted.listed id container found).later (Ne.symm other)
    | stop known stays =>
      rw [container?_put] at found
      split at found
      · next same =>
        obtain rfl := Option.some.inj found
        obtain rfl := same
        exact (accounted.listed id _ known).later not_false
      · exact (accounted.listed id container found).later not_false
    | vanish | remove =>
      rw [container?_erase] at found
      split at found
      · cases found
      · exact (accounted.listed id container found).later not_false
    | exec | copyTo | copyFrom | followLogs | portBindings =>
      exact (accounted.listed id container found).later not_false

theorem Accounted.entered (accounted : Accounted history e) (request : EngineCall) :
    Accounted history (e.entered request) :=
  ⟨accounted.learned, accounted.nextPort, accounted.listed⟩

/-- One more call, and its answer. -/
theorem Accounted.perform (accounted : Accounted history e) (request : EngineCall) :
    Accounted (history ++ [⟨request, (perform request e).1⟩]) (perform request e).2 := by
  have learned := perform_learned request e
  rcases perform_effective request e with ⟨cause, failed⟩ | ⟨answer, after, succeeded, effect⟩
  · rw [failed]
    exact accounted.failed cause
  · rw [succeeded] at learned ⊢
    exact effect.accounted (accounted.entered request) learned

theorem accounted_of_play (deeds : List Deed) :
    Accounted (play deeds).exchanges (play deeds).engine := by
  induction deeds using List.reverseRecOn with
  | nil => exact ⟨rfl, rfl, fun id container found => by cases found⟩
  | append_singleton deeds deed ih =>
    rw [play, List.foldl_append]
    cases deed with
    | call request => exact ih.perform request
    | lose operation => exact ⟨ih.learned, ih.nextPort, ih.listed⟩
    | prompt cue =>
      -- No cue touches the table or the counter.
      cases cue <;> exact ⟨ih.learned, ih.nextPort, ih.listed⟩

/-! ### Reading -/

theorem perform_portBindings {id : ContainerId} {container : MemoryContainer}
    {bindings : List PortBinding} (known : e.container? id = some container)
    (unscripted : e.Unscripted .portBindings) (read : parsePortList container.ports = .ok bindings) :
    (MemoryEngine.perform (.portBindings id) e).1 = .ok bindings := by
  rw [perform_unscripted unscripted]
  have found : (e.entered (.portBindings id)).container? id = some container := known
  have served : portBindings id (e.entered (.portBindings id)) = _ :=
    Action.bind_of_ok (find_known found)
  rw [serve, served, read]
  rfl

end MemoryEngine

/-- A handle asks the engine for its bindings and takes the first of the port that has an address. -/
theorem Bench.hostPort_eq {b : Bench MemoryEngine} {c : Container} {bindings : List PortBinding}
    (answered : (MemoryEngine.perform (.portBindings c.id) b.engine).1 = .ok bindings)
    (port : UInt16) (protocol : Protocol) :
    (Bench.hostPort c port protocol b).1 = .ok ((bindings.filter fun binding =>
      binding.containerPort = port && binding.protocol = protocol).findSome? (·.host)) := by
  have mapped : (Bench.portBindings c b).1 = .ok bindings :=
    congrArg (Except.mapError (ContainerError.engine .portBindings)) answered
  have asked : Bench.portBindings c b = (.ok bindings, (Bench.portBindings c b).2) :=
    Prod.ext mapped rfl
  rw [Bench.hostPort, Action.bind_of_ok asked]
  rfl

open MemoryEngine

/-- What an engine answers about the ports of a container. -/
structure Publishes (history : List Exchange) (e : MemoryEngine) (id : ContainerId)
    (params : Params) : Prop where
  -- The container was created with these parameters.
  created : ∃ running, Knowledge.after (fun _ => none) history id = some ⟨params, running⟩
  either : Unstarted history id ∨ ∃ earlier, StartedAfter history id earlier
  unstarted : Unstarted history id → (perform (.portBindings id) e).1 = .ok []
  started : ∀ earlier, StartedAfter history id earlier →
    (perform (.portBindings id) e).1 = .ok (published (drawn earlier) params.ports)
  -- What a handle of the container answers, on whatever bench.
  no_hostPort : Unstarted history id → ∀ (c : Container) (b : Bench MemoryEngine) port protocol,
    c.id = id → b.engine = e → (Bench.hostPort c port protocol b).1 = .ok none
  hostPort : ∀ earlier, StartedAfter history id earlier →
    ∀ (c : Container) (b : Bench MemoryEngine) port protocol, c.id = id → b.engine = e →
      (Bench.hostPort c port protocol b).1 = .ok
        ((params.ports.findIdx? fun spec =>
          spec.containerPort = port && spec.protocol = protocol).map
            (addressAt (drawn earlier) params.ports))

/-- Whatever was done to a new engine, a container that it knows has the ports that it should, as
long as asking for them is not scripted to fail. -/
theorem portBindings_published (deeds : List Deed) {id : ContainerId} {container : MemoryContainer}
    (known : (play deeds).engine.container? id = some container)
    (unscripted : (play deeds).engine.Unscripted .portBindings) :
    Publishes (play deeds).exchanges (play deeds).engine id container.params := by
  have accounted := accounted_of_play deeds
  have listed := accounted.listed id container known
  have unstarted (idle : Unstarted (play deeds).exchanges id) :
      (perform (.portBindings id) (play deeds).engine).1 = .ok [] :=
    perform_portBindings known unscripted (listed.read_unstarted idle)
  have started (earlier : List Exchange) (last : StartedAfter (play deeds).exchanges id earlier) :
      (perform (.portBindings id) (play deeds).engine).1 =
        .ok (published (drawn earlier) container.params.ports) :=
    perform_portBindings known unscripted (listed.read_started last)
  constructor
  case created =>
    refine ⟨container.running, ?_⟩
    rw [← accounted.learned, presence, known]
    rfl
  case either => exact listed.either
  case unstarted => exact unstarted
  case started => exact started
  case no_hostPort =>
    rintro idle c b port protocol rfl same
    exact Bench.hostPort_eq (same ▸ unstarted idle) port protocol
  case hostPort =>
    rintro earlier last c b port protocol rfl same
    rw [Bench.hostPort_eq (same ▸ started earlier last) port protocol, findSome?_published]

/-- A container that is started a second time, and gets another port. -/
theorem portBindings_published_of_restarted :
    let params : Params :=
      { Params.ofImage ⟨none, none, "nginx", none⟩ with
        ports := [⟨80, .tcp, none⟩, ⟨443, .tcp, some 8443⟩] }
    let id := idFor 1 params.image
    let deeds : List Deed := [.call (.create params), .call (.start id), .call (.start id)]
    (perform (.portBindings id) (play deeds).engine).1 =
        .ok [⟨80, .tcp, some ⟨"0.0.0.0", 32769⟩⟩, ⟨443, .tcp, some ⟨"0.0.0.0", 8443⟩⟩] ∧
      (play deeds).engine.Unscripted .portBindings ∧
      ∃ container, (play deeds).engine.container? id = some container ∧
        Publishes (play deeds).exchanges (play deeds).engine id container.params := by
  intro params id deeds
  have there : ((play deeds).engine.container? id).isSome := by decide +kernel
  obtain ⟨container, known⟩ := Option.isSome_iff_exists.mp there
  have unscripted : (play deeds).engine.failures.lookup .portBindings = none := by decide +kernel
  refine ⟨by decide +kernel, unscripted, container, known, ?_⟩
  exact portBindings_published deeds known unscripted

end ContainerFixture
