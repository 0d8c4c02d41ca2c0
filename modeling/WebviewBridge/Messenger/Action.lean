import WebviewBridge.Envelope
import WebviewBridge.Catalog.Payload
import WebviewBridge.Messenger.Listeners

/-!
# Actions and listeners

What can be done with a messenger without waiting, from outside or by a listener while it is
being told about a message, and what each action gives.  A listener is known by a label; what it
does about a message is a list of actions.
-/

namespace WebviewBridge

open Json

/-- What can be done with a messenger without waiting. -/
inductive Action where
  /-- Sends a message and waits for nothing. -/
  | post (messageType : String) (payload : Option Value)
  /-- Takes in the text of a message. -/
  | frame (text : String)
  /-- Takes in a message. -/
  | receive (message : IncomingMessage)
  /-- Registers a listener for a message type; with a kind, for messages whose content is of that
  kind. -/
  | register (label messageType : String) (kind : Option Kind)
      (reaction : IncomingMessage → List Action)
  /-- Ends the latest subscription under a label. -/
  | unregister (label : String)
  /-- Removes the latest registration under a label, if it is for that type. -/
  | unregisterFrom (label messageType : String)
  /-- Counts the listeners for a message type. -/
  | count (messageType : String)
  /-- Asks for the destination and the time that an answer may take. -/
  | describe

/-- The name of an action. -/
def Action.name : Action → String
  | post _ _ => "post"
  | frame _ => "frame"
  | receive _ => "incoming"
  | register _ _ none _ => "register"
  | register _ _ (some _) _ => "register_typed"
  | unregister _ => "unregister"
  | unregisterFrom _ _ => "unregister_id"
  | count _ => "count"
  | describe => "info"

/-- Someone to be told about messages of a type. -/
structure Listener where
  label : String
  /-- The kind of content that it understands, when it asks for one. -/
  kind : Option Kind
  /-- What it does about a message. -/
  reaction : IncomingMessage → List Action

/-- What an action gives. -/
inductive ActionResult where
  | posted (id : MessageId)
  | failed (e : MessengerError)
  /-- The message was taken in. -/
  | received
  | registered (s : Subscription)
  | unregistered (wasLive : Bool)
  | counted (n : Nat)
  | described (destination : Destination) (timeoutMs : Nat)
  /-- No listener was ever registered under the label. -/
  | unknownLabel
deriving DecidableEq, Repr

/-- What an action that posts a message gives. -/
def ActionResult.ofPost : Except MessengerError MessageId → ActionResult
  | .ok id => posted id
  | .error e => failed e

end WebviewBridge
