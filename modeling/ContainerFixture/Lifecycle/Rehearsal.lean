import ContainerFixture.Lifecycle.Stage

/-!
# Rehearsals

Scripted stages for trying out a lifecycle without anything real behind it. A script is a list of
outcomes for successive calls: `none` succeeds and a text fails with that text. The last outcome
repeats, and an empty script always succeeds. Every call is entered in a journal before its outcome.
-/

namespace ContainerFixture

/-- The outcomes of successive calls. -/
abbrev Script := List (Option String)

def Script.outcome (script : Script) (played : Nat) : Option String :=
  ((script[played]?).or script.getLast?).getD none

/-- What has been rehearsed so far: the journal, and how many calls each script has answered. -/
structure Rehearsal where
  /-- The entries, newest first. -/
  journal : List String := []
  played : List Nat := []

namespace Rehearsal

def entries (r : Rehearsal) : List String := r.journal.reverse

def note (r : Rehearsal) (entry : String) : Rehearsal := { r with journal := entry :: r.journal }

/-- One more place for a script, and its number. -/
def addScript (r : Rehearsal) : Nat × Rehearsal :=
  (r.played.length, { r with played := r.played ++ [0] })

/-- Notes the entry, then plays the next outcome of the script with this number. -/
def play (number : Nat) (script : Script) (entry : String) :
    Action Rehearsal String Unit := fun r =>
  let outcome := script.outcome (r.played.getD number 0)
  let r := { (r.note entry) with played := r.played.modify number (· + 1) }
  match outcome with
  | none => (.ok (), r)
  | some cause => (.error cause, r)

end Rehearsal

/-- The scripts of a rehearsed stage. -/
structure ScriptedStage where
  name : String
  commission : Script
  decommission : Script

namespace ScriptedStage

/-- A stage that plays its scripts. It enters `+name` and the text of its input, produces what
`produce` makes of the input, and enters `-name` when it is undone. -/
def toStage {π : Type} (scripted : ScriptedStage) (entry : Option π → String)
    (produce : Option π → Except String π) (r : Rehearsal) : Stage Rehearsal String π × Rehearsal :=
  let (up, r) := r.addScript
  let (down, r) := r.addScript
  let stage := {
    name := scripted.name
    commission := fun input => do
      Rehearsal.play up scripted.commission s!"+{scripted.name}{entry input}"
      Action.ofExcept (produce input)
    decommission := fun _ => Rehearsal.play down scripted.decommission s!"-{scripted.name}" }
  (stage, r)

/-- A scripted stage on numbers: from `n` it makes `n * factor + term`, where no input counts as
0. -/
def numeric (scripted : ScriptedStage) (factor term : Int64) :
    Rehearsal → Stage Rehearsal String Int64 × Rehearsal :=
  scripted.toStage (fun input => s!"({(input.getD 0).toInt})")
    (fun input => .ok (input.getD 0 * factor + term))

end ScriptedStage

end ContainerFixture
