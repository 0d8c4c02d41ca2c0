/-!
# Listeners

Who is told about an inbound message.  Listeners register for one message type and are told in
the order of their registration.  Every registration has an identifier of its own, and the
subscription that names it removes that registration and no other.
-/

namespace WebviewBridge

/-- The identity of one registration. -/
structure ListenerId where
  number : Nat
deriving DecidableEq, Repr, Inhabited

/-- How the identity of a registration is shown. -/
def ListenerId.description (id : ListenerId) : String :=
  "ListenerId(" ++ toString id.number ++ ")"

/-- What a registration hands out: the type it is for, and its identity. -/
structure Subscription where
  messageType : String
  id : ListenerId
deriving DecidableEq, Repr, Inhabited

/-- The live registrations, in the order in which they were made, and the number of the next
one. -/
structure Registry (α : Type) where
  next : Nat := 0
  entries : List (Subscription × α) := []

namespace Registry

variable {α : Type}

/-- The live subscriptions. -/
def live (r : Registry α) : List Subscription := r.entries.map (·.1)

/-- The listeners for a message type, in the order of their registration. -/
def listeners (r : Registry α) (messageType : String) : List α :=
  (r.entries.filter (·.1.messageType = messageType)).map (·.2)

/-- The number of listeners for a message type. -/
def count (r : Registry α) (messageType : String) : Nat := (r.listeners messageType).length

/-- Registers a listener for a message type. -/
def register (r : Registry α) (messageType : String) (listener : α) :
    Registry α × Subscription :=
  let s : Subscription := ⟨messageType, ⟨r.next⟩⟩
  (⟨r.next + 1, r.entries ++ [(s, listener)]⟩, s)

/-- Whether a registration is live. -/
def isLive (r : Registry α) (s : Subscription) : Bool := r.entries.any (·.1 = s)

/-- Removes a registration; tells whether it was live. -/
def unregister (r : Registry α) (s : Subscription) : Registry α × Bool :=
  (⟨r.next, r.entries.filter (·.1 ≠ s)⟩, r.isLive s)

end Registry

end WebviewBridge
