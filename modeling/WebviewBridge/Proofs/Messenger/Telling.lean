import WebviewBridge.Proofs.Messenger.Agenda
import WebviewBridge.Proofs.Messenger.Registry

/-!
# Telling the listeners

An inbound message that is no `ping` is told to the listeners that are live when it is taken in, one
after the other in the order of their registration, each with all that it does about the message
before the next (`Tells`); what is registered or removed meanwhile matters from the next message on.

Main statements: to take in a message is to tell it to the listeners live at that moment
(`carries_receive_iff`); every turn does to the registry what is written down as its deeds
(`Registry.Follows.turn`); what the listeners of a messenger can rely on at every moment of a run
is `run_keepsListeners`.
-/

namespace WebviewBridge

open Json

/-! ## Who understands a message -/

namespace Listener

/-- A listener understands a message, and is told about it with that content: the content that it
asked for, and none if it asked for no kind. -/
inductive Understands (l : Listener) (x : IncomingMessage) : Option Payload → Prop
  | untyped (hkind : l.kind = none) : Understands l x none
  | typed {k : Kind} {p : Payload} (hkind : l.kind = some k)
      (hdecode : k.decodePayload (some x.data) = .ok p) : Understands l x (some p)

/-- A listener asked for a kind, and the data of the message do not decode as that kind. -/
def Misses (l : Listener) (x : IncomingMessage) : Prop :=
  ∃ k e, l.kind = some k ∧ k.decodePayload (some x.data) = .error e

/-- What is on record when a listener is told about a message; nothing if it is passed over. -/
def told? (l : Listener) (x : IncomingMessage) : Option Event :=
  match l.kind with
  | none => some (.told l.label x none)
  | some k =>
    match k.decodePayload (some x.data) with
    | .ok p => some (.told l.label x (some p))
    | .error _ => none

variable {l : Listener} {x : IncomingMessage} {content : Option Payload}

/-- A listener either understands a message, in one way, or misses it. -/
lemma understands_or_misses (l : Listener) (x : IncomingMessage) :
    (∃ content, l.Understands x content) ∨ l.Misses x := by
  cases hkind : l.kind with
  | none => exact Or.inl ⟨none, .untyped hkind⟩
  | some k =>
    cases hdecode : k.decodePayload (some x.data) with
    | ok p => exact Or.inl ⟨some p, .typed hkind hdecode⟩
    | error e => exact Or.inr ⟨k, e, hkind, hdecode⟩

lemma Understands.told?_eq (h : l.Understands x content) :
    l.told? x = some (.told l.label x content) := by
  cases h with
  | untyped hkind => rw [told?, hkind]
  | typed hkind hdecode => simp only [told?, hkind, hdecode]

lemma Misses.told?_eq (h : l.Misses x) : l.told? x = none := by
  obtain ⟨k, e, hkind, hdecode⟩ := h
  simp only [told?, hkind, hdecode]

end Listener

namespace Messenger

variable {m m' : Messenger} {x : IncomingMessage} {l : Listener} {ls : List Listener}
  {content : Option Payload}

lemma tell_of_understands (m : Messenger) (h : l.Understands x content) :
    m.tell l x = (m.record (.told l.label x content), (l.reaction x).map (Task.act l.label)) := by
  cases h with
  | untyped hkind => rw [tell, hkind]
  | typed hkind hdecode => simp only [tell, hkind, hdecode]

lemma tell_of_misses (m : Messenger) (h : l.Misses x) : m.tell l x = (m, []) := by
  obtain ⟨k, e, hkind, hdecode⟩ := h
  simp only [tell, hkind, hdecode]

/-! ## Telling listeners one after the other -/

/-- From one messenger to another by telling some listeners about a message, in their order: each
listener is told once and has carried out all that it does about the message before the next one is
told; one that cannot read the data is passed over. -/
inductive Tells (x : IncomingMessage) : Messenger → List Listener → Messenger → Prop
  | done (m : Messenger) : Tells x m [] m
  | told {m m₁ m₂ : Messenger} {l : Listener} {ls : List Listener} {content : Option Payload}
      (understands : l.Understands x content)
      (reacts : Carries (m.record (.told l.label x content))
        ((l.reaction x).map (Task.act l.label)) m₁)
      (rest : Tells x m₁ ls m₂) : Tells x m (l :: ls) m₂
  | passedOver {m m₁ : Messenger} {l : Listener} {ls : List Listener}
      (misses : l.Misses x) (rest : Tells x m ls m₁) : Tells x m (l :: ls) m₁

lemma carries_tell_iff :
    Carries m (ls.map (Task.tell · x)) m' ↔ Tells x m ls m' := by
  induction ls generalizing m with
  | nil =>
    rw [List.map_nil, carries_nil_iff]
    constructor
    · rintro rfl
      exact .done _
    · rintro ⟨⟩
      rfl
  | cons l ls ih =>
    rw [List.map_cons, carries_cons_iff, carryOut]
    constructor
    · rintro ⟨m₁, hset, hrest⟩
      rcases l.understands_or_misses x with ⟨content, hl⟩ | hl
      · rw [tell_of_understands m hl] at hset
        exact .told hl hset (ih.1 hrest)
      · rw [tell_of_misses m hl, carries_nil_iff] at hset
        subst hset
        exact .passedOver hl (ih.1 hrest)
    · intro h
      cases h with
      | told hl hset hrest =>
        rw [tell_of_understands m hl]
        exact ⟨_, hset, ih.2 hrest⟩
      | passedOver hl hrest =>
        rw [tell_of_misses m hl]
        exact ⟨m, .done m, ih.2 hrest⟩

@[simp] lemma registry_record (m : Messenger) (e : Event) : (m.record e).registry = m.registry :=
  rfl

@[simp] lemma registry_resolve (m : Messenger) (x : IncomingMessage) :
    (m.resolve x).registry = m.registry := by
  rw [resolve]
  split <;> rfl

/-- **A message that is no ping is told to those who are registered for its type** when it is taken
in, whether or not it answers a request. -/
theorem carries_receive_iff (hx : x.messageType ≠ Kind.ping.messageType) :
    Carries m [.receive x] m' ↔
      Tells x ((m.record (.arrived x)).resolve x) (m.registry.listeners x.messageType) m' := by
  have hreceive : m.carryOut (.receive x) = ((m.record (.arrived x)).resolve x,
      (((m.record (.arrived x)).resolve x).registry.listeners x.messageType).map
        (Task.tell · x)) := by
    rw [carryOut, receive, if_neg hx]
  rw [carries_singleton_iff, hreceive, carries_tell_iff, registry_resolve, registry_record]

end Messenger

/-! ### Listeners whose reactions set nothing off -/

/-- An action after which there is nothing more to be done: it takes in no message, neither itself
nor as the answer to one that it posts. -/
def Action.IsQuiet (transport : Transport) : Action → Prop
  | .post _ _ => ∀ message, (transport.post message).answers = []
  | .frame _ | .receive _ => False
  | _ => True

/-- Whether an event is that a listener was told about a message. -/
def Event.isTold : Event → Bool
  | told _ _ _ => true
  | _ => false

namespace Messenger

variable {m m' : Messenger} {x : IncomingMessage} {ls : List Listener}

/-- Whom a messenger told about what, oldest first. -/
def tellings (m : Messenger) : List Event := m.history.filter (·.isTold)

lemma tellings_record (m : Messenger) (e : Event) :
    (m.record e).tellings = m.tellings ++ [e].filter (·.isTold) :=
  List.filter_append _ _

lemma tellings_record_of_isTold_eq_false (m : Messenger) {e : Event} (he : e.isTold = false) :
    (m.record e).tellings = m.tellings := by
  rw [tellings_record, List.filter_singleton, he]
  exact List.append_nil _

/-- A quiet action sets nothing off and tells nobody anything. -/
lemma perform_of_isQuiet (m : Messenger) {a : Action} (ha : a.IsQuiet m.transport) :
    (m.perform a).2.1 = [] ∧ (m.perform a).1.transport = m.transport ∧
      (m.perform a).1.tellings = m.tellings := by
  cases a with
  | post t p =>
    refine ⟨?_, ?_⟩
    · have htasks := m.tasks_post t p
      rw [ha, List.map_nil] at htasks
      exact htasks
    · have hpost : (m.perform (.post t p)).1 =
        ((m.compose t p).1.handOver (m.compose t p).2).1 := rfl
      rw [hpost]
      rcases (m.compose t p).1.fst_handOver (m.compose t p).2 with hover | hover
      · rw [hover]
        exact ⟨rfl, rfl⟩
      · rw [hover]
        exact ⟨rfl, tellings_record_of_isTold_eq_false _ rfl⟩
  | frame text => exact ha.elim
  | receive y => exact ha.elim
  | register label t kind reaction => exact ⟨rfl, rfl, rfl⟩
  | unregister label =>
    rw [perform]
    split <;> exact ⟨rfl, rfl, rfl⟩
  | unregisterFrom label t =>
    rw [perform]
    split <;> exact ⟨rfl, rfl, rfl⟩
  | count t => exact ⟨rfl, rfl, rfl⟩
  | describe => exact ⟨rfl, rfl, rfl⟩

/-- Quiet actions come to an end, and tell nobody anything. -/
lemma exists_carries_of_isQuiet (label : String) (as : List Action) (m : Messenger)
    (has : ∀ a ∈ as, a.IsQuiet m.transport) :
    ∃ m', Carries m (as.map (Task.act label)) m' ∧ m'.transport = m.transport ∧
      m'.tellings = m.tellings := by
  induction as generalizing m with
  | nil => exact ⟨m, .done m, rfl, rfl⟩
  | cons a as ih =>
    obtain ⟨hnone, htransport, htellings⟩ := m.perform_of_isQuiet (has a (by simp))
    -- what the action gave is noted, and the next one is carried out
    have hact : m.carryOut (.act label a) =
        ((m.perform a).1, [.note label a (m.perform a).2.2]) := by
      simp only [carryOut, hnone, List.nil_append]
    have hset : Carries (m.carryOut (.act label a)).1 (m.carryOut (.act label a)).2
        ((m.perform a).1.record (.acted label a (m.perform a).2.2)) := by
      rw [hact]
      exact .task (.done _) (.done _)
    obtain ⟨m', hrest, htransport', htellings'⟩ :=
      ih ((m.perform a).1.record (.acted label a (m.perform a).2.2)) fun b hb => by
        have hquiet := has b (List.mem_cons_of_mem a hb)
        rw [← htransport] at hquiet
        exact hquiet
    refine ⟨m', .task hset hrest, htransport'.trans htransport, ?_⟩
    rw [htellings', tellings_record_of_isTold_eq_false _ rfl, htellings]

/-- Listeners whose reactions are quiet are all told, and nobody else is told anything. -/
lemma exists_tells_of_isQuiet (ls : List Listener) (m : Messenger)
    (hls : ∀ l ∈ ls, ∀ a ∈ l.reaction x, a.IsQuiet m.transport) :
    ∃ m', Tells x m ls m' ∧ m'.tellings = m.tellings ++ ls.filterMap (·.told? x) := by
  induction ls generalizing m with
  | nil => exact ⟨m, .done m, (List.append_nil _).symm⟩
  | cons l ls ih =>
    have hls' : ∀ l' ∈ ls, ∀ a ∈ l'.reaction x, a.IsQuiet m.transport := fun l' hl' =>
      hls l' (List.mem_cons_of_mem l hl')
    rcases l.understands_or_misses x with ⟨content, hl⟩ | hl
    · obtain ⟨m₁, hreacts, htransport, htellings⟩ := exists_carries_of_isQuiet l.label
        (l.reaction x) (m.record (.told l.label x content)) (hls l (by simp))
      obtain ⟨m₂, hrest, htellings'⟩ := ih m₁ (by rw [htransport]; exact hls')
      refine ⟨m₂, .told hl hreacts hrest, ?_⟩
      have hfirst : (l :: ls).filterMap (·.told? x) =
          .told l.label x content :: ls.filterMap (·.told? x) :=
        List.filterMap_cons_some hl.told?_eq
      rw [htellings', htellings, tellings_record, List.append_assoc, hfirst]
      rfl
    · obtain ⟨m₁, hrest, htellings⟩ := ih m hls'
      have hfirst : (l :: ls).filterMap (·.told? x) = ls.filterMap (·.told? x) :=
        List.filterMap_cons_none hl.told?_eq
      exact ⟨m₁, .passedOver hl hrest, by rw [htellings, hfirst]⟩

/-- A message about which nobody does anything that sets off more is told to every listener for its
type that understands it, in the order of registration. -/
theorem exists_carries_receive (hx : x.messageType ≠ Kind.ping.messageType)
    (hls : ∀ l ∈ m.registry.listeners x.messageType, ∀ a ∈ l.reaction x, a.IsQuiet m.transport) :
    ∃ m', Carries m [.receive x] m' ∧
      m'.tellings = m.tellings ++ (m.registry.listeners x.messageType).filterMap (·.told? x) := by
  have hresolved : ((m.record (.arrived x)).resolve x).transport = m.transport ∧
      ((m.record (.arrived x)).resolve x).tellings = m.tellings := by
    have harrived : (m.record (.arrived x)).tellings = m.tellings :=
      m.tellings_record_of_isTold_eq_false rfl
    rw [resolve]
    split
    · exact ⟨rfl, harrived⟩
    · exact ⟨rfl, harrived⟩
  rw [← hresolved.1] at hls
  obtain ⟨m', htells, htellings⟩ := exists_tells_of_isQuiet _ _ hls
  exact ⟨m', (carries_receive_iff hx).2 htells, by rw [htellings, hresolved.2]⟩

/-! ## What is done with the registrations -/

variable (m)

/-- What an action does with the registrations. -/
def actionDeeds : Action → List (Registry.Deed Listener)
  | .register label t kind reaction =>
    [.registered (m.registry.register t { label, kind, reaction }).2 { label, kind, reaction }]
  | .unregister label =>
    match m.subscription? label with
    | some s => [.unregistered s (m.registry.unregister s).2]
    | none => []
  | .unregisterFrom label t =>
    match m.subscription? label with
    | some s => [.unregistered ⟨t, s.id⟩ (m.registry.unregister ⟨t, s.id⟩).2]
    | none => []
  | _ => []

/-- What a turn does with the registrations. -/
def turnDeeds : Turn → List (Registry.Deed Listener)
  | .act a => m.actionDeeds a
  | .step =>
    match m.agenda with
    | .act _ a :: _ => m.actionDeeds a
    | _ => []
  | _ => []

lemma registry_handOver (x : OutgoingMessage) : (m.handOver x).1.registry = m.registry := by
  rcases m.fst_handOver x with h | h
  · rw [h]
  · rw [h, registry_record]

lemma registry_post (t : String) (p : Option Value) : (m.post t p).1.registry = m.registry :=
  (m.compose t p).1.registry_handOver (m.compose t p).2

lemma registry_receive (x : IncomingMessage) : (m.receive x).1.registry = m.registry := by
  rw [receive]
  split
  · exact registry_post (m.record (.arrived x)) Kind.pong.messageType none
  · exact registry_resolve _ x

lemma registry_tell (l : Listener) (x : IncomingMessage) :
    (m.tell l x).1.registry = m.registry := by
  rcases l.understands_or_misses x with ⟨content, hl⟩ | hl
  · rw [tell_of_understands m hl]
    rfl
  · rw [tell_of_misses m hl]

lemma registry_beginRequest (t : String) (p : Option Value) :
    (m.beginRequest t p).1.registry = m.registry := by
  have hover : ((m.withRequest t p).handOver (m.compose t p).2).1.registry = m.registry :=
    (m.withRequest t p).registry_handOver (m.compose t p).2
  rw [beginRequest_eq]
  cases ((m.withRequest t p).handOver (m.compose t p).2).2.2 with
  | ok u => exact hover
  | error e => exact hover

lemma registry_resume (id : MessageId) : (m.resume id).registry = m.registry := by
  rw [resume]
  split <;> rfl

lemma registry_abandon (id : MessageId) : (m.abandon id).registry = m.registry := by
  rw [abandon]
  split <;> rfl

variable {m} {deeds : List (Registry.Deed Listener)}

lemma follows_perform (h : m.registry.Follows deeds) (a : Action) :
    (m.perform a).1.registry.Follows (deeds ++ m.actionDeeds a) := by
  cases a with
  | post t p => exact h.unchanged (m.registry_post t p)
  | frame text =>
    rw [perform]
    split <;> exact h.unchanged rfl
  | register label t kind reaction => exact h.register t _
  | unregister label =>
    cases hs : m.subscription? label with
    | none =>
      simp only [perform, actionDeeds, hs]
      exact h.unchanged rfl
    | some s =>
      simp only [perform, actionDeeds, hs]
      exact h.unregister s
  | unregisterFrom label t =>
    cases hs : m.subscription? label with
    | none =>
      simp only [perform, actionDeeds, hs]
      exact h.unchanged rfl
    | some s =>
      simp only [perform, actionDeeds, hs]
      exact h.unregister ⟨t, s.id⟩
  | receive x => exact h.unchanged rfl
  | count t => exact h.unchanged rfl
  | describe => exact h.unchanged rfl

lemma follows_step (h : m.registry.Follows deeds) :
    m.step.registry.Follows (deeds ++ m.turnDeeds .step) := by
  rw [step, turnDeeds]
  cases hagenda : m.agenda with
  | nil => exact h.unchanged rfl
  | cons t rest =>
    cases t with
    | receive x => exact h.unchanged (registry_receive { m with agenda := rest } x)
    | tell l x => exact h.unchanged (registry_tell { m with agenda := rest } l x)
    | act label a => exact follows_perform (m := { m with agenda := rest }) h a
    | note label a r => exact h.unchanged rfl

/-- A turn does to the registry what is written down as its deeds. -/
theorem follows_turn (h : m.registry.Follows deeds) (t : Turn) :
    (m.turn t).registry.Follows (deeds ++ m.turnDeeds t) := by
  cases t with
  | act a => exact follows_perform h a
  | step => exact follows_step h
  | request t p => exact h.unchanged (m.registry_beginRequest t p)
  | wait ms => exact h.unchanged rfl
  | resume id => exact h.unchanged (m.registry_resume id)
  | abandon id => exact h.unchanged (m.registry_abandon id)
  | reroute t => exact h.unchanged rfl

/-! ## Runs in which registrations are removed by anyone -/

/-- What can happen to a messenger and its registrations: a turn, or a removal by somebody who names
a type and an identity, whether or not they were ever given out together. -/
inductive Move where
  | turn (t : Turn)
  | unregister (s : Subscription)

/-- A messenger after a move. -/
def move (m : Messenger) : Move → Messenger
  | .turn t => m.turn t
  | .unregister s => (m.unregister s).1

/-- A messenger after some moves. -/
def moves (m : Messenger) (vs : List Move) : Messenger := vs.foldl move m

/-- What some moves do with the registrations, oldest first. -/
def deedsOf (m : Messenger) : List Move → List (Registry.Deed Listener)
  | [] => []
  | .turn t :: vs => m.turnDeeds t ++ (m.turn t).deedsOf vs
  | .unregister s :: vs =>
    .unregistered s (m.registry.unregister s).2 :: (m.unregister s).1.deedsOf vs

/-- Some moves do to the registry what is written down as their deeds. -/
theorem follows_moves (h : m.registry.Follows deeds) (vs : List Move) :
    (m.moves vs).registry.Follows (deeds ++ m.deedsOf vs) := by
  induction vs generalizing m deeds with
  | nil =>
    rw [deedsOf, List.append_nil]
    exact h
  | cons v vs ih =>
    cases v with
    | turn t =>
      rw [deedsOf, ← List.append_assoc]
      exact ih (follows_turn h t)
    | unregister s =>
      rw [deedsOf, List.append_cons]
      exact ih (m := (m.unregister s).1) (h.unregister s)

/-! ## What listeners can rely on -/

/-- What is promised about the listeners of a messenger whose registrations went through some
deeds. -/
structure KeepsListeners (m : Messenger) (deeds : List (Registry.Deed Listener)) : Prop where
  /-- Listeners are counted by the live registrations for a type. -/
  counted : ∀ t, (m.perform (.count t)).2.2 =
    .counted ((Registry.liveAfter deeds).countP (·.1.messageType = t))
  /-- Registrations are numbered in the order in which they were made, so that no two are alike. -/
  distinct : (Registry.registrations deeds).map (·.id.number) = List.range m.registry.next
  /-- A removal takes out the registration of that type and identity, if it is live, and leaves all
  others as they are; it answers whether there was something to take out. -/
  removed : ∀ s,
    (m.unregister s = (m, .unregistered false) ∧
      ∀ l, (s, l) ∉ Registry.liveAfter deeds) ∨
    ∃ front l back, Registry.liveAfter deeds = front ++ (s, l) :: back ∧
      m.unregister s =
        ({ m with registry := ⟨m.registry.next, front ++ back⟩ }, .unregistered true)
  /-- Of those who asked for the removal of a registration, one is told that it was live, or none
  as long as it still is; for anything that was never registered nobody is. -/
  once : ∀ s, (Registry.answers s deeds).count true +
      ((Registry.liveAfter deeds).map (·.1)).count s =
    if s ∈ Registry.registrations deeds then 1 else 0
  /-- A message that is no ping is told to the listeners that are live for its type when it is
  taken in, and to no others, each once and in the order of registration, whatever they do to the
  registrations meanwhile, and whether or not it answers a request. -/
  told : ∀ x m', x.messageType ≠ Kind.ping.messageType →
    (Carries m [.receive x] m' ↔
      Tells x ((m.record (.arrived x)).resolve x)
        (((Registry.liveAfter deeds).filter (·.1.messageType = x.messageType)).map (·.2)) m')
  /-- Unless what they do sets off more, that comes to an end, and in one way; then exactly the
  listeners that understand the message are on record as told, in that order. -/
  heard : ∀ x, x.messageType ≠ Kind.ping.messageType →
    (∀ e ∈ Registry.liveAfter deeds, e.1.messageType = x.messageType →
      ∀ a ∈ e.2.reaction x, a.IsQuiet m.transport) →
    ∃ m', (∀ m'', Carries m [.receive x] m'' ↔ m'' = m') ∧
      m'.tellings = m.tellings ++
        (((Registry.liveAfter deeds).filter (·.1.messageType = x.messageType)).map
          (·.2)).filterMap (·.told? x)

/-- Where the registry follows its deeds, the promises are kept. -/
theorem keepsListeners_of_follows (h : m.registry.Follows deeds) : m.KeepsListeners deeds where
  counted t := by
    rw [perform, Registry.count, Registry.listeners, List.length_map, h.entries,
      List.countP_eq_length_filter]
  distinct := h.numbers
  removed s := by
    rcases h.unregister_cases s with ⟨heq, hnone⟩ | ⟨front, l, back, hsplit, heq⟩
    · rw [h.entries] at hnone
      refine Or.inl ⟨?_, hnone⟩
      rw [unregister, heq]
    · rw [h.entries] at hsplit
      refine Or.inr ⟨front, l, back, hsplit, ?_⟩
      rw [unregister, heq]
  once s := by
    have honce := h.once s
    rw [Registry.live, h.entries] at honce
    rw [honce]
    split
    · rename_i hs
      exact List.count_eq_one_of_mem h.nodup_registrations hs
    · rename_i hs
      exact List.count_eq_zero.2 hs
  told x m' hx := by
    rw [carries_receive_iff hx, Registry.listeners, h.entries]
  heard x hx hquiet := by
    rw [← h.entries] at hquiet ⊢
    have hls : ∀ l ∈ m.registry.listeners x.messageType, ∀ a ∈ l.reaction x,
        a.IsQuiet m.transport := by
      intro l hl
      obtain ⟨e, he, rfl⟩ := List.mem_map.1 hl
      obtain ⟨hmem, htype⟩ := List.mem_filter.1 he
      exact hquiet e hmem (of_decide_eq_true htype)
    obtain ⟨m', hcarries, htellings⟩ := exists_carries_receive hx hls
    refine ⟨m', fun m'' => ⟨fun h' => h'.unique hcarries, ?_⟩, htellings⟩
    rintro rfl
    exact hcarries

/-- **Every live listener is told once.**  Whatever was registered and removed, by listeners in the
middle of being told or by anybody else, and whatever else happened to a messenger that started
with no registrations, its listeners can rely on all of `KeepsListeners`. -/
theorem run_keepsListeners (destination : Destination) (transport : Transport)
    (config : MessagingConfig) (freshIds : ℕ → MessageId) (vs : List Move) :
    ((ofConfig destination transport config freshIds).moves vs).KeepsListeners
      ((ofConfig destination transport config freshIds).deedsOf vs) := by
  have hempty : (ofConfig destination transport config freshIds).registry.Follows [] :=
    ⟨rfl, rfl, fun _ => rfl⟩
  exact keepsListeners_of_follows (follows_moves hempty vs)

end Messenger

end WebviewBridge
