import WebviewBridge.Envelope

/-!
# Outstanding requests

The requests of a messenger that still wait for an answer, in the order in which they were made.
A request is known by its identifier; an entry leaves the table when an answer comes in, and at the
latest when nobody waits any more: the request has timed out, was given up or could not be posted.
-/

namespace WebviewBridge

/-- A request that waits for its answer. -/
structure Waiting where
  id : MessageId
  messageType : String
  /-- The moment at which it has waited long enough. -/
  deadline : Nat
deriving DecidableEq, Repr

/-- The requests that wait, oldest first. -/
structure Pending where
  entries : List Waiting := []
deriving DecidableEq, Repr, Inhabited

namespace Pending

/-- The identifiers of the requests that wait. -/
def ids (p : Pending) : List MessageId := p.entries.map (·.id)

/-- The number of requests that wait. -/
def size (p : Pending) : Nat := p.entries.length

/-- The request of that identifier. -/
def find? (p : Pending) (id : MessageId) : Option Waiting := p.entries.find? (·.id = id)

/-- Takes a request out of the table; nothing happens when it is not there. -/
def forget (p : Pending) (id : MessageId) : Pending := ⟨p.entries.filter (·.id ≠ id)⟩

/-- Enters a request, in place of an earlier one of the same identifier. -/
def track (p : Pending) (w : Waiting) : Pending := ⟨(p.forget w.id).entries ++ [w]⟩

/-- The request that a message answers: the one whose identifier it carries. -/
def answeredBy? (p : Pending) (m : IncomingMessage) : Option Waiting := m.id.bind p.find?

/-- The requests that have waited long enough at a moment. -/
def due (p : Pending) (now : Nat) : List Waiting := p.entries.filter (·.deadline ≤ now)

/-- The request of that identifier, if it has waited long enough at a moment. -/
def overdue? (p : Pending) (id : MessageId) (now : Nat) : Option Waiting :=
  (p.find? id).filter (·.deadline ≤ now)

@[simp] theorem mem_ids_forget {p : Pending} {a b : MessageId} :
    a ∈ (p.forget b).ids ↔ a ∈ p.ids ∧ a ≠ b := by
  simp only [ids, forget, List.mem_map, List.mem_filter, decide_eq_true_eq, ne_eq]
  constructor
  · rintro ⟨w, ⟨hw, hn⟩, rfl⟩
    exact ⟨⟨w, hw, rfl⟩, hn⟩
  · rintro ⟨⟨w, hw, rfl⟩, hn⟩
    exact ⟨w, ⟨hw, hn⟩, rfl⟩

@[simp] theorem mem_ids_track {p : Pending} {a : MessageId} {w : Waiting} :
    a ∈ (p.track w).ids ↔ a ∈ p.ids ∨ a = w.id := by
  have h := mem_ids_forget (p := p) (a := a) (b := w.id)
  simp only [ids] at h
  simp only [ids, track, List.map_append, List.mem_append, h, List.map_cons, List.map_nil,
    List.mem_singleton]
  by_cases he : a = w.id <;> simp [he]

end Pending

end WebviewBridge
