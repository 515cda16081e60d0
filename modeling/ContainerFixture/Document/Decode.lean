import ContainerFixture.Document.Value
import ContainerFixture.Image
import ContainerFixture.Text.Map

/-!
# Decoding documents

Decoders turn values of a document into values of a type, or say what does not fit. Records are
read from tables, and from lists that give the fields in order. What does not fit is looked for in
the order of the document: first in the fields present, one after the other, and only then among
the fields missing, in the order in which the record declares them.

The formats differ in a few places: in how they word a variant that is neither a text nor a table,
in what may stand beside the name of a variant, in whether a list may be longer than the record
that it is read as, and in the style in which errors give numbers.
-/
namespace ContainerFixture.Document

open Text

/-- Where a value comes from. -/
inductive Dialect where
  | json
  | toml
  /-- A value kept aside, of either format, until the kind of the record around it was known. -/
  | buffered
  deriving DecidableEq, Repr

/-- What stands in a document where something else was expected. -/
inductive Found where
  | null
  | flag (b : Bool)
  | integer (n : Int)
  | real (x : Float)
  | text (s : String)
  | sequence
  | map
  deriving DecidableEq, Repr

/-- Why a document does not fit a type. -/
inductive Misfit where
  | wrongType (found : Found) (expected : String)
  | wrongValue (found : Found) (expected : String)
  | wrongLength (length : Nat) (expected : String)
  | unknownVariant (name : String) (known : List String)
  | unknownField (name : String) (known : List String)
  | missingField (name : String)
  | notTextOrTable
  | notOneVariant (several : Bool)
  | contentNotEmpty (rows : Bool)
  | contentNotTable (kind : String)
  | image (cause : ImageError)
  deriving DecidableEq, Repr

namespace Found

/-- How an error names what was found, with numbers in the style of the format. -/
def describe (style : Number.FloatStyle) : Found → String
  | null => "null"
  | flag b => "boolean `" ++ (if b then "true" else "false") ++ "`"
  | integer n => "integer `" ++ toString n ++ "`"
  | real x => "floating point `" ++ Number.floatText style x ++ "`"
  | text s => "string " ++ quoted s
  | sequence => "sequence"
  | map => "map"

end Found

/-- What a value is when it is not what was expected. Dates are read as tables. -/
def Value.found : Value → Found
  | .null => .null
  | .flag b => .flag b
  | .integer n => .integer n
  | .real x => .real x
  | .text s => .text s
  | .moment _ => .map
  | .list _ | .rows _ => .sequence
  | .table _ => .map

/-- The name of a value's kind in TOML. -/
def Value.kind : Value → String
  | .null => "none"
  | .flag _ => "boolean"
  | .integer _ => "integer"
  | .real _ => "float"
  | .text _ => "string"
  | .moment _ => "datetime"
  | .list _ | .rows _ => "array"
  | .table _ => "table"

def alternatives : List String → String
  | [] => "nothing"
  | [only] => "`" ++ only ++ "`"
  | [first, second] => "`" ++ first ++ "` or `" ++ second ++ "`"
  | names => "one of " ++ ", ".intercalate (names.map fun name => "`" ++ name ++ "`")

def Misfit.message (style : Number.FloatStyle) : Misfit → String
  | .wrongType found expected =>
    "invalid type: " ++ found.describe style ++ ", expected " ++ expected
  | .wrongValue found expected =>
    "invalid value: " ++ found.describe style ++ ", expected " ++ expected
  | .wrongLength length expected =>
    "invalid length " ++ length.repr ++ ", expected " ++ expected
  | .unknownVariant name known =>
    "unknown variant `" ++ name ++ "`, expected " ++ alternatives known
  | .unknownField name known => "unknown field `" ++ name ++ "`, expected " ++ alternatives known
  | .missingField name => "missing field `" ++ name ++ "`"
  | .notTextOrTable => "wanted string or table"
  | .notOneVariant several =>
    "wanted exactly 1 element, " ++ (if several then "more than 1 element" else "found 0 elements")
  | .contentNotEmpty rows => "expected empty " ++ (if rows then "array" else "table")
  | .contentNotTable kind => "expected table, found " ++ kind
  | .image cause => cause.message

abbrev Decoder (α : Type) := Dialect → Value → Except Misfit α

def mistyped {α : Type} (v : Value) (expected : String) : Except Misfit α :=
  .error (.wrongType v.found expected)

/-! ### Simple values -/

namespace Decoder

/-- A text, under the name that errors give it. -/
def textAs (expected : String) : Decoder String
  | _, .text s => .ok s
  | _, v => mistyped v expected

def text : Decoder String := textAs "a string"

def path : Decoder String := textAs "path string"

def flag : Decoder Bool
  | _, .flag b => .ok b
  | _, v => mistyped v "a boolean"

/-- A number below `bound`, under the name that errors give its type. -/
def wordAs (expected : String) (bound : Nat) : Decoder Nat
  | _, .integer n =>
    if 0 ≤ n ∧ n < bound then .ok n.toNat else .error (.wrongValue (.integer n) expected)
  | _, v => mistyped v expected

def word16 : Decoder UInt16 := fun d v => (wordAs "u16" UInt16.size d v).map UInt16.ofNat

def word32 : Decoder UInt32 := fun d v => (wordAs "u32" UInt32.size d v).map UInt32.ofNat

def word64 : Decoder UInt64 := fun d v => (wordAs "u64" UInt64.size d v).map UInt64.ofNat

def image : Decoder Image := fun d v => do
  match Image.parse (← text d v) with
  | .ok reference => return reference
  | .error cause => throw (.image cause)

/-! ### Compound values -/

def optional {α : Type} (item : Decoder α) : Decoder (Option α)
  | _, .null => .ok none
  | d, v => (item d v).map some

def listOf {α : Type} (item : Decoder α) : Decoder (List α)
  | d, .list items | d, .rows items => items.mapM (item d)
  | _, v => mistyped v "a sequence"

/-- The key under which a date presents itself when it is read as a table. -/
def momentKey : String := "$__toml_private_datetime"

/-- The entries of a value that can be read as a table. -/
def entries? : Value → Option Entries
  | .table entries => some entries
  | .moment s => some [(momentKey, .text s)]
  | _ => none

/-- A table whose keys are free and whose values are texts. -/
def textMap : Decoder TextMap := fun d v =>
  match entries? v with
  | some entries => do
    let pairs ← entries.mapM fun entry => (text d entry.2).map fun value => (entry.1, value)
    return TextMap.ofList pairs
  | none => mistyped v "a map"

/-! ### Variants without content -/

/-- What stands beside a variant's name must hold nothing. -/
def emptyContent : Dialect → Value → Except Misfit Unit
  | .json, .null => .ok ()
  | .json, v => mistyped v "unit"
  | .buffered, .null | .buffered, .table [] => .ok ()
  | .buffered, v => mistyped v "unit"
  | .toml, .table entries => if entries.isEmpty then .ok () else .error (.contentNotEmpty false)
  | .toml, .list items => if items.isEmpty then .ok () else .error (.contentNotEmpty false)
  | .toml, .rows tables => if tables.isEmpty then .ok () else .error (.contentNotEmpty true)
  | .toml, v => .error (.contentNotTable v.kind)

/-- The variant of a name. -/
def variantNamed {α : Type} (variants : List (String × α)) (name : String) : Except Misfit α :=
  match variants.lookup name with
  | some variant => .ok variant
  | none => .error (.unknownVariant name (variants.map (·.1)))

/-- A variant given as a table with its name as the only key. -/
def variantEntry {α : Type} (variants : List (String × α)) (d : Dialect) :
    Entries → Except Misfit α
  | [(name, content)] => do
    let found ← variantNamed variants name
    emptyContent d content
    return found
  | entries =>
    if d = .toml then .error (.notOneVariant !entries.isEmpty)
    else .error (.wrongValue .map "map with a single key")

/-- One of several variants: its name, or a table with its name as the only key. -/
def variant {α : Type} (variants : List (String × α)) : Decoder α
  | _, .text name => variantNamed variants name
  | d, .table entries => variantEntry variants d entries
  | .buffered, .moment s => variantEntry variants .buffered [(momentKey, .text s)]
  | .toml, _ => .error .notTextOrTable
  | _, v => mistyped v "string or map"

end Decoder

/-! ### Records -/

/-- A field of a record: its name, and whether a value fits it. -/
structure Field where
  name : String
  check : Dialect → Value → Except Misfit Unit

/-- A field that holds what a decoder reads. -/
def field {α : Type} (name : String) (item : Decoder α) : Field :=
  ⟨name, fun d v => (item d v).map fun _ => ()⟩

/-- The shape of a record: the name that errors give it, its fields in the order of declaration,
and whether keys that name no field are refused. -/
structure Shape where
  title : String
  fields : List Field
  closed : Bool

/-- The values present for the fields of a record, and what is wrong when one is missing. -/
structure Slots where
  present : Entries
  positional : Bool
  missing : String → Misfit

namespace Shape

def names (shape : Shape) : List String := shape.fields.map (·.name)

/-- What an error expects of a list read as the record. -/
def expectedLength (shape : Shape) : String :=
  let n := shape.fields.length
  shape.title ++ " with " ++ n.repr ++ (if n = 1 then " element" else " elements")

/-- Checks an entry of a table read as the record. -/
def checkEntry (shape : Shape) (d : Dialect) (entry : String × Value) : Except Misfit Unit :=
  match shape.fields.find? fun f => f.name = entry.1 with
  | some f => f.check d entry.2
  | none => if shape.closed then .error (.unknownField entry.1 shape.names) else .ok ()

/-- What is wrong with a list that is longer than the record, if that counts. -/
def checkExcess (shape : Shape) (d : Dialect) (length : Nat) : Except Misfit Unit :=
  let n := shape.fields.length
  if length ≤ n then .ok ()
  else
    match d with
    | .json => .error (.wrongLength length "fewer elements in array")
    | .buffered =>
      .error (.wrongLength length
        (n.repr ++ (if n = 1 then " element in sequence" else " elements in sequence")))
    | .toml => .ok ()

def listSlots (shape : Shape) (d : Dialect) (items : List Value) : Except Misfit Slots := do
  let pairs := shape.fields.zip items
  pairs.forM fun pair => pair.1.check d pair.2
  shape.checkExcess d items.length
  return ⟨pairs.map fun pair => (pair.1.name, pair.2), true,
    fun name => .wrongLength (shape.names.idxOf name) shape.expectedLength⟩

def tableSlots (shape : Shape) (d : Dialect) (entries : Entries) : Except Misfit Slots := do
  entries.forM (shape.checkEntry d)
  return ⟨entries, false, .missingField⟩

def slots (shape : Shape) (d : Dialect) (v : Value) : Except Misfit Slots :=
  match Decoder.entries? v, v with
  | some entries, _ => shape.tableSlots d entries
  | none, .list items | none, .rows items => shape.listSlots d items
  | none, _ => mistyped v shape.title

end Shape

namespace Slots

variable {α : Type}

/-- A field that must be present. -/
def required (slots : Slots) (name : String) (item : Decoder α) (d : Dialect) : Except Misfit α :=
  match slots.present.lookup name with
  | some v => item d v
  | none => .error (slots.missing name)

/-- A field that has a default. -/
def withDefault (slots : Slots) (name : String) (item : Decoder α) (default : α) (d : Dialect) :
    Except Misfit α :=
  match slots.present.lookup name with
  | some v => item d v
  | none => .ok default

/-- A field that may be null, and may be missing from a table but not from a list. -/
def nullable (slots : Slots) (name : String) (item : Decoder α) (d : Dialect) :
    Except Misfit (Option α) :=
  match slots.present.lookup name with
  | some v => Decoder.optional item d v
  | none => if slots.positional then .error (slots.missing name) else .ok none

end Slots

/-! ### Records of several kinds -/

/-- A record of one of several kinds. A tag names the kind: it is the entry of a given key in a
table, or the first item of a list. The rest is read once the kind is known. -/
structure Tagged (α : Type) where
  title : String
  key : String
  kinds : List (String × (Value → Except Misfit α))

/-- The kind that a tag names. -/
def Tagged.kind {α : Type} (tagged : Tagged α) (tag : Value) :
    Except Misfit (Value → Except Misfit α) := do
  Decoder.variantNamed tagged.kinds (← Decoder.textAs "variant identifier" .buffered tag)

def Tagged.decode {α : Type} (tagged : Tagged α) : Decoder α := fun _ v =>
  match Decoder.entries? v, v with
  | some entries, _ =>
    match entries.lookup tagged.key with
    | some tag => do
      (← tagged.kind tag) (.table (entries.filter fun entry => entry.1 ≠ tagged.key))
    | none => .error (.missingField tagged.key)
  | none, .list (tag :: items) | none, .rows (tag :: items) => do
    (← tagged.kind tag) (.list items)
  | none, .list [] | none, .rows [] => .error (.missingField tagged.key)
  | none, _ => mistyped v tagged.title

end ContainerFixture.Document
