import WebviewBridge.Proofs.Messenger.Turns

/-!
# What a messenger does at its own moment

Whatever is asked of a messenger, and whatever that sets off, is done at one moment: time stands
still, the transport stays in its place, and nobody gives up a request.  What is on record stays
there, and a message is put on record as posted only if the transport took it.

Main statements: an operation and all that it sets off is such work (`Messenger.works_begin`); so
time passes in a run when it is let pass, and at no other time (`Messenger.now_run`), and a request
is given up by those who wait for it, and by nobody else (`Messenger.mem_abandoned_run`).
-/

namespace WebviewBridge

open Json

namespace Messenger

/-- From a messenger to a later one, at the same moment and with the same transport. -/
structure Works (m m' : Messenger) : Prop where
  transport_eq : m'.transport = m.transport
  policy_eq : m'.policy = m.policy
  now_eq : m'.now = m.now
  /-- What it has posted since, the transport took. -/
  history : ∃ new, m'.history = m.history ++ new ∧
    (∀ x, .posted x ∈ new → (m.transport.post x).outcome = .ok ()) ∧ ∀ id, .abandoned id ∉ new

namespace Works

variable {m m' m'' : Messenger}

/-- Nothing more is on record. -/
lemma of_history_eq (htransport : m'.transport = m.transport) (hpolicy : m'.policy = m.policy)
    (hnow : m'.now = m.now) (hhistory : m'.history = m.history) : m.Works m' :=
  ⟨htransport, hpolicy, hnow, [], by rw [hhistory, List.append_nil],
    fun _ h => absurd h List.not_mem_nil, fun _ => List.not_mem_nil⟩

lemma refl (m : Messenger) : m.Works m := of_history_eq rfl rfl rfl rfl

lemma trans (h : m.Works m') (h' : m'.Works m'') : m.Works m'' where
  transport_eq := h'.transport_eq.trans h.transport_eq
  policy_eq := h'.policy_eq.trans h.policy_eq
  now_eq := h'.now_eq.trans h.now_eq
  history := by
    obtain ⟨new, hhistory, htaken, hkept⟩ := h.history
    obtain ⟨new', hhistory', htaken', hkept'⟩ := h'.history
    rw [h.transport_eq] at htaken'
    refine ⟨new ++ new', by rw [hhistory', hhistory, List.append_assoc], fun x hx => ?_,
      fun id hid => ?_⟩
    · exact (List.mem_append.1 hx).elim (htaken x) (htaken' x)
    · exact (List.mem_append.1 hid).elim (hkept id) (hkept' id)

/-- Something that is neither a post nor that a request is given up is put on record. -/
lemma record (m : Messenger) {e : Event} (hposted : ∀ x, e ≠ .posted x)
    (hkept : ∀ id, e ≠ .abandoned id) : m.Works (m.record e) :=
  ⟨rfl, rfl, rfl, [e], rfl, fun x hx => absurd (List.mem_singleton.1 hx).symm (hposted x),
    fun id hid => hkept id (List.mem_singleton.1 hid).symm⟩

end Works

variable (m : Messenger)

/-! ## Tasks -/

lemma works_handOver (x : OutgoingMessage) : m.Works (m.handOver x).1 := by
  rcases m.handOver_cases x with ⟨htaken, h⟩ | ⟨e, -, -, -, h⟩ | ⟨e, -, -, h⟩ <;> rw [h]
  · refine ⟨rfl, rfl, rfl, [.posted x], rfl, fun y hy => ?_, by simp⟩
    cases List.mem_singleton.1 hy
    exact htaken
  · exact .refl m
  · exact .refl m

lemma works_post (t : String) (p : Option Value) : m.Works (m.post t p).1 := by
  have hcomposed : m.Works (m.compose t p).1 := .of_history_eq rfl rfl rfl rfl
  exact hcomposed.trans (works_handOver _ _)

lemma works_resolve (x : IncomingMessage) : m.Works (m.resolve x) := by
  rw [resolve]
  split
  · exact .of_history_eq rfl rfl rfl rfl
  · exact .refl m

lemma works_receive (x : IncomingMessage) : m.Works (m.receive x).1 := by
  have harrived : m.Works (m.record (.arrived x)) := .record m (by simp) (by simp)
  rw [receive]
  split
  · exact harrived.trans (works_post _ _ _)
  · exact harrived.trans (works_resolve _ x)

lemma works_perform (a : Action) : m.Works (m.perform a).1 := by
  cases a with
  | post t p => exact m.works_post t p
  | frame text =>
    rw [perform]
    split <;> exact .refl m
  | unregister label =>
    rw [perform]
    split <;> exact .of_history_eq rfl rfl rfl rfl
  | unregisterFrom label t =>
    rw [perform]
    split <;> exact .of_history_eq rfl rfl rfl rfl
  | _ => exact .of_history_eq rfl rfl rfl rfl

lemma works_tell (l : Listener) (x : IncomingMessage) : m.Works (m.tell l x).1 := by
  rw [tell]
  split
  · exact .record m (by simp) (by simp)
  · split
    · exact .record m (by simp) (by simp)
    · exact .refl m

lemma works_carryOut (t : Task) : m.Works (m.carryOut t).1 := by
  cases t with
  | receive x => exact m.works_receive x
  | tell l x => exact m.works_tell l x
  | act label a => exact m.works_perform a
  | note label a r => exact .record m (by simp) (by simp)

lemma works_schedule (ts : List Task) : m.Works (m.schedule ts) :=
  .of_history_eq rfl rfl rfl rfl

lemma works_step : m.Works m.step := by
  rw [step]
  split
  · exact .refl m
  · rename_i t rest _
    have hrest : m.Works { m with agenda := rest } := .of_history_eq rfl rfl rfl rfl
    exact (hrest.trans (works_carryOut _ t)).trans (works_schedule _ _)

lemma works_work (n : ℕ) : m.Works (m.work n) := by
  induction n generalizing m with
  | zero => exact .refl m
  | succ n ih =>
    rw [work]
    split
    · exact .refl m
    · exact m.works_step.trans (ih m.step)

/-! ## Requests -/

lemma works_beginRequest (t : String) (p : Option Value) : m.Works (m.beginRequest t p).1 := by
  have htracked : m.Works { (m.compose t p).1 with
      pending := m.pending.track ⟨(m.compose t p).2.id, t, m.now + m.timeoutMs.toNat⟩ } :=
    .of_history_eq rfl rfl rfl rfl
  have hmade : m.Works (m.withRequest t p) := htracked.trans (.record _ (by simp) (by simp))
  have hover := hmade.trans (works_handOver _ (m.compose t p).2)
  have hscheduled := hover.trans (works_schedule _
    ((((m.withRequest t p).handOver (m.compose t p).2).2.1).map .receive))
  rw [beginRequest_eq]
  rcases ((m.withRequest t p).handOver (m.compose t p).2).2.2 with e | ⟨⟩
  · exact hscheduled.trans (.of_history_eq rfl rfl rfl rfl)
  · exact hscheduled

lemma works_resume (id : MessageId) : m.Works (m.resume id) := by
  rw [resume]
  split
  · have hdismissed : m.Works (m.dismiss id) := .of_history_eq rfl rfl rfl rfl
    exact hdismissed.trans (.record _ (by simp) (by simp))
  · exact .refl m

lemma works_conclude : m.Works m.conclude := by
  have hall : ∀ (ids : List MessageId) (m : Messenger), m.Works (ids.foldl resume m) := by
    intro ids
    induction ids with
    | nil => exact .refl
    | cons id ids ih => exact fun m => (m.works_resume id).trans (ih _)
  exact hall _ m

/-! ## Whatever a messenger is asked to do -/

lemma works_settle : m.Works m.settle := (m.works_work patience).trans (works_conclude _)

lemma works_beginAct (a : Action) : m.Works (m.beginAct a) :=
  (m.works_perform a).trans (works_schedule _ _)

lemma works_act (a : Action) : m.Works (m.act a).1 :=
  (m.works_beginAct a).trans (works_settle _)

lemma works_request (t : String) (p : Option Value) : m.Works (m.request t p).1 :=
  (m.works_beginRequest t p).trans (works_settle _)

lemma works_dispatch (t : String) (p : Option Value) : m.Works (m.dispatch t p).1 := by
  have hact := m.works_act (.post t p)
  rw [dispatch]
  split <;> rename_i heq <;> rw [heq] at hact <;> exact hact

/-- **An operation, and all that it sets off, is done at one moment.** -/
theorem works_begin (o : Operation) : m.Works (m.begin o).1 := by
  cases o with
  | immediate a => exact m.works_act a
  | request t p => exact m.works_request t p
  | send t p wait =>
    cases wait with
    | true => exact m.works_request t p
    | false => exact m.works_dispatch t p
  | requestTyped p reply => exact m.works_request _ _
  | sendTyped p wait =>
    cases wait with
    | true => exact m.works_request _ _
    | false => exact m.works_dispatch _ _

/-! ## Time, and requests that are given up -/

/-- The time that passes in a turn. -/
def Turn.span : Turn → ℕ
  | wait ms => ms
  | _ => 0

/-- The time that passes in some turns. -/
def Turn.elapsed : List Turn → ℕ
  | [] => 0
  | t :: ts => t.span + elapsed ts

/-- In a turn the time passes that it lets pass. -/
lemma now_turn (t : Turn) : (m.turn t).now = m.now + t.span := by
  cases t with
  | act a => exact (m.works_beginAct a).now_eq
  | step => exact m.works_step.now_eq
  | request t p => exact (m.works_beginRequest t p).now_eq
  | wait ms => rfl
  | resume id => exact (m.works_resume id).now_eq
  | abandon id =>
    rw [turn, abandon]
    split <;> rfl
  | reroute t => rfl

theorem now_run (ts : List Turn) : (m.run ts).now = m.now + Turn.elapsed ts := by
  induction ts generalizing m with
  | nil => rfl
  | cons t ts ih => rw [run_cons, ih, now_turn, Turn.elapsed, Nat.add_assoc]

variable {m} in
lemma Works.mem_abandoned {m' : Messenger} (h : m.Works m') {id : MessageId}
    (hid : .abandoned id ∈ m'.history) : .abandoned id ∈ m.history := by
  obtain ⟨new, hhistory, -, hkept⟩ := h.history
  rw [hhistory] at hid
  exact (List.mem_append.1 hid).resolve_right (hkept id)

/-- It is put on record that a request is given up when somebody gives it up. -/
lemma mem_abandoned_turn {t : Turn} {id : MessageId} (h : .abandoned id ∈ (m.turn t).history) :
    .abandoned id ∈ m.history ∨ t = .abandon id := by
  cases t with
  | act a => exact Or.inl ((m.works_beginAct a).mem_abandoned h)
  | step => exact Or.inl (m.works_step.mem_abandoned h)
  | request t p => exact Or.inl ((m.works_beginRequest t p).mem_abandoned h)
  | wait ms => exact Or.inl h
  | resume i => exact Or.inl ((m.works_resume i).mem_abandoned h)
  | abandon i =>
    rw [turn, abandon] at h
    split at h
    · rcases List.mem_append.1 h with hold | hnew
      · exact Or.inl hold
      · cases List.mem_singleton.1 hnew
        exact Or.inr rfl
    · exact Or.inl h
  | reroute t => exact Or.inl h

theorem mem_abandoned_run {ts : List Turn} {id : MessageId}
    (h : .abandoned id ∈ (m.run ts).history) : .abandoned id ∈ m.history ∨ .abandon id ∈ ts := by
  induction ts generalizing m with
  | nil => exact Or.inl h
  | cons t ts ih =>
    rcases ih (m.turn t) h with hold | hlater
    · rcases m.mem_abandoned_turn hold with hbefore | rfl
      · exact Or.inl hbefore
      · exact Or.inr List.mem_cons_self
    · exact Or.inr (List.mem_cons_of_mem t hlater)

end Messenger

end WebviewBridge
