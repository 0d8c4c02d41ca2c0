import WebviewBridge.Json.Record
import WebviewBridge.Json.Printer

/-!
# Envelopes

Two kinds of message cross the boundary between a webview and its host, each as the text of one
JSON object.  A webview sends an `OutgoingMessage`, always with a fresh identifier and the
handler it is meant for.  The host sends an `IncomingMessage`, which carries an identifier only
when it answers a request.
-/

namespace WebviewBridge

open Json

/-- The identifier that ties a reply to its request. -/
structure MessageId where
  text : String
deriving DecidableEq, Repr, Inhabited

/-- The handler of the host that a webview's message is meant for. -/
inductive Destination where
  | creator
  | settings
deriving DecidableEq, Repr, Inhabited

/-- The name of a destination in an envelope. -/
def Destination.name : Destination → String
  | creator => "creator"
  | settings => "settings"

/-- The destinations by name. -/
def Destination.names : List (String × Destination) :=
  [("creator", creator), ("settings", settings)]

/-- A message from a webview to the host. -/
structure OutgoingMessage where
  id : MessageId
  destination : Destination
  messageType : String
  /-- Absent for messages without content. -/
  payload : Option Value
deriving DecidableEq, Repr, Inhabited

/-- A message from the host to a webview. -/
structure IncomingMessage where
  messageType : String
  /-- The content; null when there is none. -/
  data : Value
  /-- The identifier of the request that the message answers. -/
  id : Option MessageId
deriving DecidableEq, Repr, Inhabited

/-! ## Outgoing messages -/

namespace OutgoingMessage

/-- The members of the envelope in the order in which they are written; an absent payload is left
out. -/
def members (m : OutgoingMessage) : List (String × Value) :=
  [("messageId", .str m.id.text), ("destination", .str m.destination.name),
    ("messageType", .str m.messageType)]
  ++ match m.payload with
    | some v => [("payload", v)]
    | none => []

/-- The text of the envelope. -/
def wire (m : OutgoingMessage) : String := recordText m.members

/-- The fields of an envelope found so far. -/
structure Draft where
  id : Option String := none
  destination : Option Destination := none
  messageType : Option String := none
  payload : Option (Option Value) := none

/-- How an envelope is read.  A payload that is null counts as absent. -/
def layout : Layout Draft OutgoingMessage where
  type := "OutgoingMessage"
  empty := {}
  fields := [
    { name := "messageId", found := (·.id.isSome)
      read := fun room c => do
        let (x, c) ← textValue room c
        .ok (fun d => { d with id := some x }, c) },
    { name := "destination", found := (·.destination.isSome)
      read := fun room c => do
        let (x, c) ← nameValue Destination.names room c
        .ok (fun d => { d with destination := some x }, c) },
    { name := "messageType", found := (·.messageType.isSome)
      read := fun room c => do
        let (x, c) ← textValue room c
        .ok (fun d => { d with messageType := some x }, c) },
    { name := "payload", found := (·.payload.isSome)
      read := fun room c => do
        let (x, c) ← orNull anyValue room c
        .ok (fun d => { d with payload := some x }, c) }]
  required := 3
  finish := fun d => do
    let id ← required "messageId" d.id
    let destination ← required "destination" d.destination
    let messageType ← required "messageType" d.messageType
    .ok { id := ⟨id⟩, destination, messageType, payload := d.payload.join }

/-- The envelope that a text writes. -/
def parse (text : String) : Except Refusal OutgoingMessage := readText layout.read text

end OutgoingMessage

/-! ## Incoming messages -/

namespace IncomingMessage

/-- The members of the envelope in the order in which they are written; the identifier is left out
when the message answers nothing. -/
def members (m : IncomingMessage) : List (String × Value) :=
  [("messageType", .str m.messageType), ("data", m.data)]
  ++ match m.id with
    | some id => [("messageId", .str id.text)]
    | none => []

/-- The text of the envelope. -/
def wire (m : IncomingMessage) : String := recordText m.members

/-- A message that the host sends on its own. -/
def broadcast (messageType : String) (data : Value) : IncomingMessage :=
  { messageType, data, id := none }

/-- An answer to a request. -/
def replyTo (request : OutgoingMessage) (messageType : String) (data : Value) : IncomingMessage :=
  { messageType, data, id := some request.id }

/-- The fields of an envelope found so far. -/
structure Draft where
  messageType : Option String := none
  data : Option Value := none
  id : Option (Option String) := none

/-- How an envelope is read.  The content is also found under the name of a webview's payload;
missing content is null, and so is a missing identifier. -/
def layout : Layout Draft IncomingMessage where
  type := "IncomingMessage"
  empty := {}
  fields := [
    { name := "messageType", found := (·.messageType.isSome)
      read := fun room c => do
        let (x, c) ← textValue room c
        .ok (fun d => { d with messageType := some x }, c) },
    { name := "data", otherName := some "payload", found := (·.data.isSome)
      read := fun room c => do
        let (x, c) ← anyValue room c
        .ok (fun d => { d with data := some x }, c) },
    { name := "messageId", found := (·.id.isSome)
      read := fun room c => do
        let (x, c) ← orNull textValue room c
        .ok (fun d => { d with id := some x }, c) }]
  required := 1
  finish := fun d => do
    let messageType ← required "messageType" d.messageType
    .ok { messageType, data := d.data.getD .null, id := d.id.join.map MessageId.mk }

/-- The envelope that a text writes. -/
def parse (text : String) : Except Refusal IncomingMessage := readText layout.read text

end IncomingMessage

end WebviewBridge
