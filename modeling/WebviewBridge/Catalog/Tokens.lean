import WebviewBridge.Catalog.Fields
import WebviewBridge.Json.Printer
import WebviewBridge.Secret

/-!
# Account tokens

The tokens of the signed-in account travel as `AccountTokens`, in clear, and are kept as
`Credentials`, which hold no blank token and never show one.
-/

namespace WebviewBridge

open Json Catalog

/-- The tokens of an account as they travel. -/
structure AccountTokens where
  access : Option String
  refresh : Option String
deriving DecidableEq, Repr, Inhabited

namespace AccountTokens

/-- The members in the order in which they are written; an absent token is left out. -/
def members (t : AccountTokens) : List (String × Value) :=
  (match t.access with
    | some s => [("accessToken", .str s)]
    | none => [])
  ++ match t.refresh with
    | some s => [("refreshToken", .str s)]
    | none => []

/-- The tokens as a value. -/
def encode (t : AccountTokens) : Value := .obj t.members

/-- The tokens that a value writes: an object with optional members, or an array of up to two
items. -/
def decode : Value → Except Cause AccountTokens
  | .obj ms => do
    let access ← decodeOptionalText ((Members.find? ms "accessToken").getD .null)
    let refresh ← decodeOptionalText ((Members.find? ms "refreshToken").getD .null)
    .ok ⟨access, refresh⟩
  | .arr [] => .ok ⟨none, none⟩
  | .arr (a :: rest) => do
    let access ← decodeOptionalText a
    match rest with
    | [] => .ok ⟨access, none⟩
    | r :: more => do
      let refresh ← decodeOptionalText r
      if more.isEmpty then .ok ⟨access, refresh⟩ else refuseMore (a :: rest)
  | v => refuse v (structName "PearAuth")

/-- How the tokens look among other data, without their text. -/
def description (t : AccountTokens) : String :=
  let hidden (s : Option String) := describeOption (s.map fun _ => Text.quoted "[REDACTED]")
  "PearAuth \x7b access_token: " ++ hidden t.access ++ ", refresh_token: " ++ hidden t.refresh
    ++ " \x7d"

end AccountTokens

/-- The tokens of an account as they are kept. -/
structure Credentials where
  access : Option Secret
  refresh : Option Secret
deriving DecidableEq, Repr

namespace Credentials

/-- No tokens. -/
def empty : Credentials := ⟨none, none⟩

instance : Inhabited Credentials := ⟨empty⟩

/-- Keeps those of two tokens that are not blank, as they are. -/
def ofTokens (access refresh : Option String) : Credentials :=
  ⟨Secret.ofToken access, Secret.ofToken refresh⟩

/-- Keeps the tokens that arrived. -/
def ofWire (t : AccountTokens) : Credentials := ofTokens t.access t.refresh

/-- The tokens in clear, to be sent. -/
def toWire (c : Credentials) : AccountTokens :=
  ⟨c.access.map Secret.expose, c.refresh.map Secret.expose⟩

/-- Whether there is an access token. -/
def hasAccess (c : Credentials) : Bool := c.access.isSome

/-- Whether there is a refresh token. -/
def hasRefresh (c : Credentials) : Bool := c.refresh.isSome

/-- Whether there is no token. -/
def isEmpty (c : Credentials) : Bool := c.access.isNone && c.refresh.isNone

/-- How credentials look among other data. -/
def description (c : Credentials) : String :=
  "Credentials \x7b access_token: " ++ describeOption (c.access.map Secret.description)
    ++ ", refresh_token: " ++ describeOption (c.refresh.map Secret.description) ++ " \x7d"

end Credentials

end WebviewBridge
