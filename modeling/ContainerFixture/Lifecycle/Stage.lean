import ContainerFixture.Action

/-!
# Stages

A stage is one unit of acquisition work. Commissioning it takes the product of the stage before it,
if there is one, and makes a product of its own; decommissioning it releases what made that product.
-/

namespace ContainerFixture

/-- One unit of acquisition work over a world `σ`, failing with an `ε` and producing a `π`. -/
structure Stage (σ ε π : Type) where
  name : String
  /-- Acquires, given the product of the stage before; the root stage is given none. -/
  commission : Option π → Action σ ε π
  /-- Releases what commissioning acquired, given the product of that commissioning. -/
  decommission : π → Action σ ε Unit

/-- The same stage with its failures restated. -/
def Stage.mapError {σ ε ε' π : Type} (f : ε → ε') (stage : Stage σ ε π) : Stage σ ε' π where
  name := stage.name
  commission input := (stage.commission input).mapError f
  decommission product := (stage.decommission product).mapError f

/-- The same stage over a larger world. -/
def Stage.within {σ τ ε π : Type} (view : τ → σ) (put : σ → τ → τ) (stage : Stage σ ε π) :
    Stage τ ε π where
  name := stage.name
  commission input := (stage.commission input).within view put
  decommission product := (stage.decommission product).within view put

/-- The position and the name of a stage in its chain. -/
structure StageKey where
  index : Nat
  name : String
deriving DecidableEq, Repr

/-- A key as text: `#2 'start'`. -/
def StageKey.text (key : StageKey) : String := s!"#{key.index} '{key.name}'"

/-- A stage that failed, and why. -/
structure StageFailure (ε : Type) where
  key : StageKey
  cause : ε
deriving DecidableEq, Repr

/-- A failure as text: `#2 'start': cause`. -/
def StageFailure.text {ε : Type} (describe : ε → String) (failure : StageFailure ε) : String :=
  s!"{failure.key.text}: {describe failure.cause}"

/-- A stage run by itself: it remembers what it holds until it is decommissioned. -/
structure LoneStage (σ ε π : Type) where
  stage : Stage σ ε π
  held : Option π := none

namespace LoneStage

variable {σ ε π : Type}

/-- Commissions the stage. A success replaces what it holds. -/
def commission (lone : LoneStage σ ε π) (input : Option π) (s : σ) :
    Except ε π × LoneStage σ ε π × σ :=
  match lone.stage.commission input s with
  | (.ok product, s) => (.ok product, { lone with held := some product }, s)
  | (.error cause, s) => (.error cause, lone, s)

/-- Decommissions the stage, which holds nothing afterwards. Nothing held is nothing to do. -/
def decommission (lone : LoneStage σ ε π) (s : σ) : Except ε Unit × LoneStage σ ε π × σ :=
  match lone.held with
  | none => (.ok (), lone, s)
  | some product =>
    let (outcome, s) := lone.stage.decommission product s
    (outcome, { lone with held := none }, s)

end LoneStage

end ContainerFixture
