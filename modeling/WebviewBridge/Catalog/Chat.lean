import WebviewBridge.Catalog.Fields
import WebviewBridge.Json.Printer

/-!
# Conversations

A webview asks for a plan by sending the conversation so far: messages with a role, whose content
is a plain text or a list of parts.
-/

namespace WebviewBridge

open Json Catalog

/-- Who speaks in a conversation. -/
inductive ChatRole where
  | system
  | user
  | assistant
deriving DecidableEq, Repr

namespace ChatRole

/-- The name of a role in a message. -/
def name : ChatRole → String
  | system => "system"
  | user => "user"
  | assistant => "assistant"

/-- The roles by name. -/
def names : List (String × ChatRole) :=
  [("system", system), ("user", user), ("assistant", assistant)]

end ChatRole

/-- A part of a message; only parts of kind `text` have a text that counts. -/
structure MessagePart where
  kind : String
  text : Option String
deriving DecidableEq, Repr

/-- What a message says. -/
inductive MessageContent where
  | text (s : String)
  | parts (ps : List MessagePart)
deriving DecidableEq, Repr

/-- A message of a conversation. -/
structure ChatMessage where
  role : ChatRole
  content : MessageContent
deriving DecidableEq, Repr

/-! ## Parts and contents -/

namespace MessagePart

/-- The members of a part in the order in which they are written. -/
def members (p : MessagePart) : List (String × Value) :=
  ("type", .str p.kind) :: match p.text with
    | some s => [("text", .str s)]
    | none => []

/-- A part as a value. -/
def encode (p : MessagePart) : Value := Value.object p.members

/-- A part from an object or from an array of one or two strings; nothing for any other value. -/
def decode? : Value → Option MessagePart
  | .arr [.str kind] => some ⟨kind, none⟩
  | .arr [.str kind, text] => (decodeOptionalText text).toOption.map (⟨kind, ·⟩)
  | .obj ms =>
    match Members.find? ms "type" with
    | some (.str kind) =>
      (decodeOptionalText ((Members.find? ms "text").getD .null)).toOption.map (⟨kind, ·⟩)
    | _ => none
  | _ => none

end MessagePart

namespace MessageContent

/-- The text of a content: that of its text parts, one after the other. -/
def plain : MessageContent → String
  | text s => s
  | parts ps => String.join (ps.filterMap fun p => if p.kind = "text" then p.text else none)

/-- A content as a value. -/
def encode : MessageContent → Value
  | text s => .str s
  | parts ps => .arr (ps.map MessagePart.encode)

/-- A content as it is written, with the members of parts in their order. -/
def written : MessageContent → Value
  | text s => .str s
  | parts ps => .arr (ps.map fun p => .obj p.members)

/-- The content that a value writes. -/
def decode : Value → Except Cause MessageContent
  | .str s => .ok (text s)
  | .arr vs =>
    match vs.mapM MessagePart.decode? with
    | some ps => .ok (parts ps)
    | none => .error (.noAlternative "MessageContent")
  | _ => .error (.noAlternative "MessageContent")

end MessageContent

/-! ## Messages -/

namespace ChatMessage

/-- A plain text from the user. -/
def ofUser (text : String) : ChatMessage := ⟨.user, .text text⟩

/-- A message as a value. -/
def encode (m : ChatMessage) : Value :=
  .obj [("content", m.content.encode), ("role", .str m.role.name)]

/-- A message as it is written. -/
def written (m : ChatMessage) : Value :=
  .obj [("role", .str m.role.name), ("content", m.content.written)]

/-- Decodes a value if there is one. -/
def decodePresent {α : Type} (decode : Value → Except Cause α) :
    Option Value → Except Cause (Option α)
  | some v => (decode v).map some
  | none => .ok none

/-- The message that a value writes. -/
def decode : Value → Except Cause ChatMessage
  | .obj ms => do
    let content ← decodePresent MessageContent.decode (Members.find? ms "content")
    let role ← decodePresent (decodeName ChatRole.names) (Members.find? ms "role")
    let role ← required "role" role
    let content ← required "content" content
    .ok ⟨role, content⟩
  | .arr [] => .error (.invalidLength 0 (structWith "ChatMessage" 2))
  | .arr (r :: rest) => do
    let role ← decodeName ChatRole.names r
    match rest with
    | [] => .error (.invalidLength 1 (structWith "ChatMessage" 2))
    | c :: more => do
      let content ← MessageContent.decode c
      if more.isEmpty then .ok ⟨role, content⟩ else refuseMore (r :: rest)
  | v => refuse v (structName "ChatMessage")

/-- The conversation that a value writes. -/
def decodeAll : Value → Except Cause (List ChatMessage)
  | .arr vs => vs.mapM decode
  | v => refuse v "a sequence"

/-- The conversation of a request for a plan. -/
def decodeRequest : Value → Except Cause (List ChatMessage)
  | .obj ms =>
    match Members.find? ms "messages" with
    | some v => decodeAll v
    | none => .error (.missingField "messages")
  | .arr [] => .error (.invalidLength 0 (structWith "ProcessLlm" 1))
  | .arr (v :: rest) => do
    let messages ← decodeAll v
    if rest.isEmpty then .ok messages else refuseMore (v :: rest)
  | v => refuse v (structName "ProcessLlm")

end ChatMessage

end WebviewBridge
