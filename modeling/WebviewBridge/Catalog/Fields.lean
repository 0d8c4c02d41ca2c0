import WebviewBridge.Json.Record

/-!
# Decoding the parts of a payload

Payloads are decoded from values that are already parsed, so what is refused has no position.
Members of an object are looked at in the order of their keys.
-/

namespace WebviewBridge.Catalog

open Json

/-- Refuses a value of the wrong type. -/
def refuse {α : Type} (v : Value) (expected : String) : Except Cause α :=
  .error (.invalidType (Found.ofValue v) expected)

/-- A string. -/
def decodeText : Value → Except Cause String
  | .str s => .ok s
  | v => refuse v "a string"

/-- A string, or nothing for null. -/
def decodeOptionalText : Value → Except Cause (Option String)
  | .null => .ok none
  | v => (decodeText v).map some

/-- Nothing but null. -/
def decodeNull (expected : String) : Value → Except Cause Unit
  | .null => .ok ()
  | v => refuse v expected

/-- Refuses an array with more items than the record has fields. -/
def refuseMore {α : Type} (items : List Value) : Except Cause α :=
  .error (.invalidLength items.length "fewer elements in array")

/-- One of the admitted names, alone or as the only key of an object with value null. -/
def decodeName {α : Type} (admitted : List (String × α)) : Value → Except Cause α
  | .str name => pick name
  | .obj [(name, v)] => do
    let x ← pick name
    let _ ← decodeNull "unit" v
    .ok x
  | .obj _ => .error (.invalidValue .map "map with a single key")
  | v => refuse v "string or map"
where
  /-- The thing of that name. -/
  pick (name : String) : Except Cause α :=
    match admitted.lookup name with
    | some x => .ok x
    | none => .error (.unknownVariant name (admitted.map (·.1)))

/-- A record of one string. -/
def decodeTextRecord (type field : String) : Value → Except Cause String
  | .arr [] => .error (.invalidLength 0 (structWith type 1))
  | .arr (v :: rest) => do
    let s ← decodeText v
    if rest.isEmpty then .ok s else refuseMore (v :: rest)
  | .obj ms =>
    match Members.find? ms field with
    | some v => decodeText v
    | none => .error (.missingField field)
  | v => refuse v (structName type)

end WebviewBridge.Catalog
