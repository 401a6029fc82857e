import MetricQuery.Json
import MetricQuery.Record.Checked

/-!
# Records in JSON

A record is a JSON object with known keys. A key has two spellings, `camelCase` and `snake_case`; a
member under either is the field, and if both are there the camel one is. All fields are checked in
the order of the record, and then every member that is no field is reported, in the order given.
-/

namespace MetricQuery

/-- How keys are spelled. -/
inductive Spelling where
  | camel
  | snake
  deriving DecidableEq

/-- A key of a record, in its two spellings. -/
structure Key where
  camel : String
  snake : String
  deriving DecidableEq

namespace Key

/-- A key of one word is spelled in one way. -/
def word (name : String) : Key := ⟨name, name⟩

def spelled (k : Key) : Spelling → String
  | .camel => k.camel
  | .snake => k.snake

/-- The member that holds the field, with the spelling used. -/
def find? (k : Key) (members : Members) : Option (String × Json) :=
  match members.lookup k.camel with
  | some v => some (k.camel, v)
  | none => (members.lookup k.snake).map fun v => (k.snake, v)

end Key

namespace Record

variable {α : Type}

/-! ## Reading -/

/-- A field that must be there. -/
def required (k : Key) (read : Json → Checked α) (members : Members) : Checked α :=
  match k.find? members with
  | some (name, v) => (read v).under (.key name)
  | none => .rejected [⟨[.key k.camel], .missing⟩]

/-- A field with a value for when it is not there. -/
def field (k : Key) (absent : α) (read : Json → Checked α) (members : Members) : Checked α :=
  match k.find? members with
  | some (name, v) => (read v).under (.key name)
  | none => .accepted absent

/-- Whether some key is found under this name. -/
def isField (keys : List Key) (members : Members) (name : String) : Bool :=
  keys.any fun k => (k.find? members).any fun m => m.1 == name

/-- The members that hold no field. -/
def strangers (keys : List Key) (members : Members) : List Issue :=
  (members.filter fun m => !isField keys members m.1).map fun m => ⟨[.key m.1], .unknownKey⟩

/-- Reads the record `title` with these keys. -/
def read (title : String) (keys : List Key) (fields : Members → Checked α) : Json → Checked α
  | .obj members => fields members <* Checked.none? (strangers keys members)
  | _ => .fail (.notRecord title)

/-! ## Writing -/

/-- How records are written: the spelling of their keys, and whether fields that are `null` are
left out. -/
structure Style where
  spelling : Spelling
  omitNull : Bool

/-- Writes a record from its fields, in order. -/
def write (style : Style) (fields : List (Key × Json)) : Json :=
  let kept := fields.filter fun f => !(style.omitNull && f.2.isNull)
  .obj (kept.map fun f => (f.1.spelled style.spelling, f.2))

end Record

end MetricQuery
