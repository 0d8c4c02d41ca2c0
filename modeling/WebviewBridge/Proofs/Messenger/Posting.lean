import WebviewBridge.Proofs.Messenger.Outstanding

/-!
# What a messenger leaves to its transport

A deed is something done with a messenger: an operation with all that it sets off, a span of time,
or a single turn, after which others may come in between.  Whoever does it, the transport stays in
its place, what was on record stays there, and a message is on record as posted only if the
transport took it.

Main statement: `Messenger.continues_doing`.
-/

namespace WebviewBridge

open Json

namespace Messenger

/-! ## Deeds -/

/-- Something done with a messenger. -/
inductive Deed where
  /-- An operation is done, and all that it sets off. -/
  | operate (o : Operation)
  /-- Time passes, and the requests for which there are news then end. -/
  | advance (ms : ℕ)
  /-- A single turn; what it sets off is still to be done. -/
  | turn (t : Turn)

/-- A messenger with which something was done. -/
def doing (m : Messenger) : Deed → Messenger
  | .operate o => (m.begin o).1
  | .advance ms => m.advance ms
  | .turn t => m.turn t

/-- A deed that puts no other transport in the place of the present one. -/
def Deed.IsOwn : Deed → Prop
  | turn (.reroute _) => False
  | _ => True

/-! ## From a messenger to a later one -/

/-- From a messenger to a later one with the same transport: what it has posted since, the transport
took. -/
structure Continues (m m' : Messenger) : Prop where
  transport_eq : m'.transport = m.transport
  policy_eq : m'.policy = m.policy
  history : ∃ new, m'.history = m.history ++ new ∧
    ∀ x, .posted x ∈ new → (m.transport.post x).outcome = .ok ()

namespace Continues

variable {m m' m'' : Messenger}

/-- Nothing more is on record. -/
lemma of_history_eq (htransport : m'.transport = m.transport) (hpolicy : m'.policy = m.policy)
    (hhistory : m'.history = m.history) : m.Continues m' :=
  ⟨htransport, hpolicy, [], by rw [hhistory, List.append_nil], fun _ h => absurd h List.not_mem_nil⟩

lemma trans (h : m.Continues m') (h' : m'.Continues m'') : m.Continues m'' where
  transport_eq := h'.transport_eq.trans h.transport_eq
  policy_eq := h'.policy_eq.trans h.policy_eq
  history := by
    obtain ⟨new, hhistory, htaken⟩ := h.history
    obtain ⟨new', hhistory', htaken'⟩ := h'.history
    rw [h.transport_eq] at htaken'
    refine ⟨new ++ new', by rw [hhistory', hhistory, List.append_assoc], fun x hx => ?_⟩
    exact (List.mem_append.1 hx).elim (htaken x) (htaken' x)

end Continues

variable (m : Messenger)

lemma Works.continues {m m' : Messenger} (h : m.Works m') : m.Continues m' where
  transport_eq := h.transport_eq
  policy_eq := h.policy_eq
  history := by
    obtain ⟨new, hhistory, htaken, -⟩ := h.history
    exact ⟨new, hhistory, htaken⟩

lemma continues_wait (ms : ℕ) : m.Continues { m with now := m.now + ms } :=
  .of_history_eq rfl rfl rfl

/-- It is no post to give a request up. -/
lemma continues_abandon (id : MessageId) : m.Continues (m.abandon id) := by
  rw [abandon]
  split
  · refine ⟨rfl, rfl, [.abandoned id], rfl, fun x hx => ?_⟩
    cases List.mem_singleton.1 hx
  · exact .of_history_eq rfl rfl rfl

/-- **Whatever is done with a messenger, it posts what its transport takes and nothing else.** -/
theorem continues_doing {d : Deed} (hd : d.IsOwn) : m.Continues (m.doing d) := by
  cases d with
  | operate o => exact (m.works_begin o).continues
  | advance ms => exact (m.continues_wait ms).trans (works_conclude _).continues
  | turn t =>
    cases t with
    | act a => exact (m.works_beginAct a).continues
    | step => exact m.works_step.continues
    | request t p => exact (m.works_beginRequest t p).continues
    | wait ms => exact m.continues_wait ms
    | resume id => exact (m.works_resume id).continues
    | abandon id => exact m.continues_abandon id
    | reroute t => exact hd.elim

end Messenger

end WebviewBridge
