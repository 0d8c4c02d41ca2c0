import Mathlib.Data.List.Nodup
import Mathlib.Logic.Relation
import WebviewBridge.Proofs.Messenger.Fate

/-!
# The books of a messenger

The part of a messenger that its requests live in: the identifiers used up, the time, the table of
requests that wait, what there is for those that do not wait any more, and the history.  Whatever a
messenger does changes these books by a few kinds of entry, listed in `Books.Entry`; that is all
that the proofs about requests know of a messenger.

The invariant `Books.Sound` ties the table to the history: the requests in the table are those that
the history says wait, the answers that are kept are those that the history says came in, and the
outcomes on record are those that the history says they are.
-/

namespace WebviewBridge

/-- The part of a messenger that its requests live in. -/
structure Books where
  freshIds : Nat → MessageId
  timeoutMs : Nat
  issued : Nat
  now : Nat
  pending : Pending
  replies : List (MessageId × IncomingMessage)
  refusals : List (MessageId × MessengerError)
  history : List Event

namespace Books

/-- Records that something happened. -/
def record (b : Books) (e : Event) : Books := { b with history := b.history ++ [e] }

/-- Keeps the answer to a request, which does not wait any more. -/
def reply (b : Books) (id : MessageId) (x : IncomingMessage) : Books :=
  { b with pending := b.pending.forget id, replies := (id, x) :: b.replies }

/-- Keeps what was wrong with a request. -/
def refuse (b : Books) (id : MessageId) (err : MessengerError) : Books :=
  { b with refusals := (id, err) :: b.refusals }

/-- Nobody waits for a request any more. -/
def dismiss (b : Books) (id : MessageId) : Books :=
  { b with
    pending := b.pending.forget id
    replies := b.replies.filter (·.1 ≠ id)
    refusals := b.refusals.filter (·.1 ≠ id) }

/-- What there is for the one who waits for a request. -/
def news? (b : Books) (id : MessageId) : Option (Except MessengerError IncomingMessage) :=
  match b.refusals.lookup id, b.replies.lookup id with
  | some e, _ => some (.error e)
  | none, some reply => some (.ok reply)
  | none, none => (b.pending.overdue? id b.now).map fun w =>
    .error (.timeout w.messageType b.timeoutMs)

/-- Whether somebody waits for a request. -/
def IsOpen (b : Books) (id : MessageId) : Prop :=
  id ∈ b.pending.ids ∨ (b.replies.lookup id).isSome ∨ (b.refusals.lookup id).isSome

/-- The identifier of the next message. -/
def nextId (b : Books) : MessageId := b.freshIds b.issued

/-- The request that is made now. -/
def newRequest (b : Books) (messageType : String) : Waiting :=
  ⟨b.nextId, messageType, b.now + b.timeoutMs⟩

/-- Enters a new request. -/
def make (b : Books) (messageType : String) : Books :=
  { b with issued := b.issued + 1, pending := b.pending.track (b.newRequest messageType) }.record
    (.requested b.nextId messageType)

/-- One entry into the books. -/
inductive Entry : Books → Books → Prop
  /-- An identifier is used for a message that is no request. -/
  | issue (b : Books) : Entry b { b with issued := b.issued + 1 }
  | wait (b : Books) (ms : Nat) : Entry b { b with now := b.now + ms }
  | note (b : Books) (e : Event) (he : e.IsNeutral) : Entry b (b.record e)
  /-- A message comes in that nobody waits for. -/
  | overhear (b : Books) (x : IncomingMessage)
      (hx : ∀ w ∈ b.pending.entries, ¬ x.Answers w.id) : Entry b (b.record (.arrived x))
  | answer (b : Books) (w : Waiting) (x : IncomingMessage) (hw : w ∈ b.pending.entries)
      (hx : x.Answers w.id) : Entry b ((b.record (.arrived x)).reply w.id x)
  | make (b : Books) (t : String) : Entry b (b.make t)
  /-- A request is made that cannot be posted. -/
  | refuse (b : Books) (t : String) (err : MessengerError) :
      Entry b ((b.make t).refuse b.nextId err)
  /-- The one who waits for a request takes up what there is for it. -/
  | resume (b : Books) (id : MessageId) (o : Except MessengerError IncomingMessage)
      (ho : b.news? id = some o) : Entry b ((b.dismiss id).record (.ended id o))
  | abandon (b : Books) (id : MessageId) (hid : b.IsOpen id) :
      Entry b ((b.dismiss id).record (.abandoned id))

/-- Any number of entries, one after the other. -/
def Grows : Books → Books → Prop := Relation.ReflTransGen Entry

/-- What the history of the books says about a request. -/
def fate (b : Books) (id : MessageId) : Fate := Fate.ofHistory id b.history

/-- The outcomes on record for a request. -/
def outcomes (b : Books) (id : MessageId) : List (Except MessengerError IncomingMessage) :=
  b.history.filterMap (Event.outcomeFor? id)

variable {b b' b'' : Books} {id i : MessageId}

@[simp] lemma fate_record (e : Event) : (b.record e).fate id = (b.fate id).after id e := by
  simp [fate, record]

@[simp] lemma fate_reply (x : IncomingMessage) : (b.reply i x).fate id = b.fate id := rfl

@[simp] lemma fate_dismiss : (b.dismiss i).fate id = b.fate id := rfl

@[simp] lemma outcomes_record (e : Event) :
    (b.record e).outcomes id = b.outcomes id ++ (e.outcomeFor? id).toList := by
  cases h : e.outcomeFor? id <;> simp [outcomes, record, List.filterMap_append, h]

@[simp] lemma outcomes_reply (x : IncomingMessage) :
    (b.reply i x).outcomes id = b.outcomes id := rfl

@[simp] lemma outcomes_dismiss : (b.dismiss i).outcomes id = b.outcomes id := rfl

lemma mem_outcomes_iff {o : Except MessengerError IncomingMessage} :
    o ∈ b.outcomes id ↔ .ended id o ∈ b.history := by
  simp only [outcomes, List.mem_filterMap, Event.outcomeFor?_eq_some_iff]
  constructor
  · rintro ⟨e, he, rfl⟩
    exact he
  · intro h
    exact ⟨_, h, rfl⟩

/-- There are three kinds of news. -/
lemma news?_cases {o : Except MessengerError IncomingMessage} (h : b.news? id = some o) :
    (∃ e, b.refusals.lookup id = some e ∧ o = .error e) ∨
      b.refusals.lookup id = none ∧
        ((∃ x, b.replies.lookup id = some x ∧ o = .ok x) ∨
          ∃ w, b.pending.find? id = some w ∧ w.deadline ≤ b.now ∧
            o = .error (.timeout w.messageType b.timeoutMs)) := by
  rw [news?] at h
  split at h
  · rename_i e hrefused
    exact Or.inl ⟨e, hrefused, (Option.some.inj h).symm⟩
  · rename_i x hrefused hreplied
    exact Or.inr ⟨hrefused, Or.inl ⟨x, hreplied, (Option.some.inj h).symm⟩⟩
  · rename_i hrefused hreplied
    obtain ⟨w, hw, rfl⟩ := Option.map_eq_some_iff.1 h
    obtain ⟨hfind, hdue⟩ := Option.filter_eq_some_iff.1 hw
    exact Or.inr ⟨hrefused, Or.inr ⟨w, hfind, of_decide_eq_true hdue, rfl⟩⟩

end Books

/-! ## Tables -/

/-- What was taken out under a name is not found there. -/
lemma lookup_filter_self {α : Type} (l : List (MessageId × α)) (id : MessageId) :
    (l.filter (·.1 ≠ id)).lookup id = none := by
  rw [List.lookup_eq_none_iff]
  intro p hp
  have hne : p.1 ≠ id := of_decide_eq_true (List.mem_filter.1 hp).2
  exact bne_iff_ne.2 hne.symm

/-- What was taken out under a name makes no difference to others. -/
lemma lookup_filter_of_ne {α : Type} (l : List (MessageId × α)) {id i : MessageId} (h : id ≠ i) :
    (l.filter (·.1 ≠ i)).lookup id = l.lookup id := by
  induction l with
  | nil => rfl
  | cons p l ih =>
    by_cases hp : p.1 = i
    · have hne : (id == p.1) = false := beq_false_of_ne (hp ▸ h)
      rw [List.filter_cons_of_neg (by simpa using hp), ih, List.lookup_cons, hne]
    · rw [List.filter_cons_of_pos (by simpa using hp), List.lookup_cons, List.lookup_cons, ih]

namespace Pending

variable {p : Pending} {w : Waiting}

lemma mem_ids {id : MessageId} : id ∈ p.ids ↔ ∃ w ∈ p.entries, w.id = id := by
  simp [ids]

lemma nodup_ids_forget (h : p.ids.Nodup) (id : MessageId) : (p.forget id).ids.Nodup := by
  have hsub : (p.forget id).ids.Sublist p.ids := List.filter_sublist.map _
  exact h.sublist hsub

lemma nodup_ids_track (h : p.ids.Nodup) (w : Waiting) : (p.track w).ids.Nodup := by
  have hids : (p.track w).ids = (p.forget w.id).ids ++ [w.id] := by simp [track, ids]
  rw [hids, List.nodup_append]
  refine ⟨nodup_ids_forget h w.id, by simp, ?_⟩
  intro i hi j hj hij
  rw [List.mem_singleton] at hj
  exact (mem_ids_forget.1 hi).2 (hij.trans hj)

lemma find?_eq_some {id : MessageId} (h : p.find? id = some w) : w ∈ p.entries ∧ w.id = id :=
  ⟨List.mem_of_find?_eq_some h, by simpa using List.find?_some h⟩

lemma find?_eq_none_iff {id : MessageId} : p.find? id = none ↔ id ∉ p.ids := by
  rw [find?, List.find?_eq_none, mem_ids]
  simp

lemma isSome_find?_iff {id : MessageId} : (p.find? id).isSome ↔ id ∈ p.ids := by
  rw [← not_iff_not, Bool.not_eq_true, Option.isSome_eq_false_iff, Option.isNone_iff_eq_none,
    find?_eq_none_iff]

/-- With one request for each identifier, a request in the table is the one found under its
identifier. -/
lemma find?_of_mem (h : p.ids.Nodup) (hw : w ∈ p.entries) : p.find? w.id = some w := by
  cases hfind : p.find? w.id with
  | none => exact absurd (mem_ids.2 ⟨w, hw, rfl⟩) (find?_eq_none_iff.1 hfind)
  | some v =>
    obtain ⟨hv, hid⟩ := find?_eq_some hfind
    rw [List.inj_on_of_nodup_map h hv hw hid]

@[simp] lemma find?_forget_self (p : Pending) (id : MessageId) : (p.forget id).find? id = none := by
  rw [find?_eq_none_iff, mem_ids_forget]
  exact fun h => h.2 rfl

lemma find?_forget_of_ne (p : Pending) {id i : MessageId} (h : id ≠ i) :
    (p.forget i).find? id = p.find? id := by
  rw [find?, forget, find?, List.find?_filter]
  congr 1
  funext w
  by_cases hw : w.id = id
  · simp [hw, h]
  · simp [hw]

lemma find?_track_self (p : Pending) (w : Waiting) : (p.track w).find? w.id = some w := by
  have hnone : (p.forget w.id).entries.find? (·.id = w.id) = none := find?_forget_self p w.id
  rw [find?, track, List.find?_append, hnone]
  simp

lemma find?_track_of_ne (p : Pending) {id : MessageId} (h : id ≠ w.id) :
    (p.track w).find? id = p.find? id := by
  have hkept : (p.forget w.id).entries.find? (·.id = id) = p.find? id := find?_forget_of_ne p h
  have hnew : [w].find? (·.id = id) = none := by simp [h.symm]
  rw [find?, track, List.find?_append, hnew, Option.or_none, hkept]

/-- Taking out what is not there changes nothing. -/
lemma forget_of_notMem {id : MessageId} (h : id ∉ p.ids) : p.forget id = p := by
  have hall : ∀ w ∈ p.entries, decide (w.id ≠ id) = true := by
    intro w hw
    exact decide_eq_true fun heq => h (mem_ids.2 ⟨w, hw, heq⟩)
  rw [forget, List.filter_eq_self.2 hall]

end Pending

namespace Books

variable {b b' b'' : Books} {id i : MessageId}

/-! ## The table and the history -/

/-- What the books hold about a request is what the history says. -/
structure Agrees (b : Books) (id : MessageId) : Prop where
  waiting_iff : ∀ t, b.fate id = .waiting t ↔
    ∃ w, b.pending.find? id = some w ∧ w.messageType = t
  replied_iff : ∀ x, b.fate id = .answered x ↔ b.replies.lookup id = some x
  refused : ∀ e, b.refusals.lookup id = some e → (b.fate id).IsOpen
  /-- A request that ended well ended with its answer. -/
  ended : ∀ r x, b.fate id = .ended r (.ok x) → r = some x
  outcomes : b.outcomes id = (b.fate id).outcome?.toList
  abandoned : .abandoned id ∈ b.history → b.fate id = .abandoned

/-- The books say the same in both places about every request, and nothing about those to come. -/
structure Sound (b : Books) : Prop where
  nodup : b.pending.ids.Nodup
  unmade : ∀ n, b.issued ≤ n → b.fate (b.freshIds n) = .unmade
  agrees : ∀ id, b.Agrees id

/-- From books to others that say the same about a request. -/
structure SameFor (id : MessageId) (b b' : Books) : Prop where
  pending : b'.pending.find? id = b.pending.find? id
  replies : b'.replies.lookup id = b.replies.lookup id
  refusals : b'.refusals.lookup id = b.refusals.lookup id
  fate : b'.fate id = b.fate id
  outcomes : b'.outcomes id = b.outcomes id
  abandoned : .abandoned id ∈ b'.history → .abandoned id ∈ b.history

namespace SameFor

lemma trans (h : SameFor id b b') (h' : SameFor id b' b'') : SameFor id b b'' where
  pending := h'.pending.trans h.pending
  replies := h'.replies.trans h.replies
  refusals := h'.refusals.trans h.refusals
  fate := h'.fate.trans h.fate
  outcomes := h'.outcomes.trans h.outcomes
  abandoned := fun hmem => h.abandoned (h'.abandoned hmem)

/-- An event that does not concern a request makes no difference to it. -/
lemma record {e : Event} (he : ¬ e.Concerns id) : SameFor id b (b.record e) where
  pending := rfl
  replies := rfl
  refusals := rfl
  fate := by rw [fate_record, Fate.after_of_not_concerns he]
  outcomes := by
    rw [outcomes_record, Event.outcomeFor?_of_not_concerns he, Option.toList_none, List.append_nil]
  abandoned := by
    intro hmem
    rcases List.mem_append.1 hmem with hold | hnew
    · exact hold
    · rw [← List.mem_singleton.1 hnew] at he
      exact absurd rfl he

lemma reply (h : id ≠ i) (x : IncomingMessage) : SameFor id b (b.reply i x) where
  pending := Pending.find?_forget_of_ne _ h
  replies := by rw [Books.reply, List.lookup_cons, beq_false_of_ne h]
  refusals := rfl
  fate := rfl
  outcomes := rfl
  abandoned := fun hmem => hmem

lemma refuse (h : id ≠ i) (err : MessengerError) : SameFor id b (b.refuse i err) where
  pending := rfl
  replies := rfl
  refusals := by rw [Books.refuse, List.lookup_cons, beq_false_of_ne h]
  fate := rfl
  outcomes := rfl
  abandoned := fun hmem => hmem

lemma dismiss (h : id ≠ i) : SameFor id b (b.dismiss i) where
  pending := Pending.find?_forget_of_ne _ h
  replies := lookup_filter_of_ne _ h
  refusals := lookup_filter_of_ne _ h
  fate := rfl
  outcomes := rfl
  abandoned := fun hmem => hmem

lemma make (h : id ≠ b.nextId) (t : String) : SameFor id b (b.make t) := by
  have htracked : SameFor id b
      { b with issued := b.issued + 1, pending := b.pending.track (b.newRequest t) } :=
    ⟨Pending.find?_track_of_ne _ h, rfl, rfl, rfl, rfl, fun hmem => hmem⟩
  exact htracked.trans (.record fun heq : b.nextId = id => h heq.symm)

end SameFor

namespace Agrees

lemma of_same (hb : b.Agrees id) (h : SameFor id b b') : b'.Agrees id where
  waiting_iff t := by rw [h.fate, h.pending, hb.waiting_iff]
  replied_iff x := by rw [h.fate, h.replies, hb.replied_iff]
  refused e := by
    rw [h.fate, h.refusals]
    exact hb.refused e
  ended r x := by
    rw [h.fate]
    exact hb.ended r x
  outcomes := by rw [h.fate, h.outcomes, hb.outcomes]
  abandoned hmem := by rw [h.fate, hb.abandoned (h.abandoned hmem)]

lemma of_waiting {w : Waiting} (hfate : b.fate id = .waiting w.messageType)
    (hpending : b.pending.find? id = some w) (hreplies : b.replies.lookup id = none)
    (houtcomes : b.outcomes id = []) (habandoned : .abandoned id ∉ b.history) : b.Agrees id where
  waiting_iff t := by simp [hfate, hpending]
  replied_iff x := by simp [hfate, hreplies]
  refused e _ := by
    rw [hfate]
    trivial
  ended r x h := by
    rw [hfate] at h
    cases h
  outcomes := by
    rw [hfate, houtcomes]
    rfl
  abandoned h := absurd h habandoned

lemma of_answered {x : IncomingMessage} (hfate : b.fate id = .answered x)
    (hpending : b.pending.find? id = none) (hreplies : b.replies.lookup id = some x)
    (houtcomes : b.outcomes id = []) (habandoned : .abandoned id ∉ b.history) : b.Agrees id where
  waiting_iff t := by simp [hfate, hpending]
  replied_iff y := by simp [hfate, hreplies]
  refused e _ := by
    rw [hfate]
    trivial
  ended r y h := by
    rw [hfate] at h
    cases h
  outcomes := by
    rw [hfate, houtcomes]
    rfl
  abandoned h := absurd h habandoned

/-- Nothing is kept for a request that has just been dismissed. -/
lemma of_isSettled {e : Event} (hfate : (((b.dismiss id).record e).fate id).IsSettled)
    (hended : ∀ r x, ((b.dismiss id).record e).fate id = .ended r (.ok x) → r = some x)
    (houtcomes : ((b.dismiss id).record e).outcomes id =
      (((b.dismiss id).record e).fate id).outcome?.toList)
    (habandoned : .abandoned id ∈ b.history ++ [e] →
      ((b.dismiss id).record e).fate id = .abandoned) : ((b.dismiss id).record e).Agrees id where
  waiting_iff t := by
    have hnone : ((b.dismiss id).record e).pending.find? id = none := Pending.find?_forget_self _ _
    constructor
    · intro h
      rw [h] at hfate
      exact hfate.elim
    · rintro ⟨w, hw, -⟩
      rw [hnone] at hw
      cases hw
  replied_iff x := by
    have hnone : ((b.dismiss id).record e).replies.lookup id = none := lookup_filter_self _ _
    constructor
    · intro h
      rw [h] at hfate
      exact hfate.elim
    · intro h
      rw [hnone] at h
      cases h
  refused err h := by
    have hnone : ((b.dismiss id).record e).refusals.lookup id = none := lookup_filter_self _ _
    rw [hnone] at h
    cases h
  ended := hended
  outcomes := houtcomes
  abandoned := habandoned

end Agrees

namespace Sound

/-- What somebody waits for is open according to the history, too. -/
lemma isOpen_iff (hb : b.Sound) : b.IsOpen id ↔ (b.fate id).IsOpen := by
  have hid := hb.agrees id
  constructor
  · rintro (hpending | hreplied | hrefused)
    · obtain ⟨w, hw⟩ := Option.isSome_iff_exists.1 (Pending.isSome_find?_iff.2 hpending)
      rw [(hid.waiting_iff w.messageType).2 ⟨w, hw, rfl⟩]
      trivial
    · obtain ⟨x, hx⟩ := Option.isSome_iff_exists.1 hreplied
      rw [(hid.replied_iff x).2 hx]
      trivial
    · obtain ⟨e, he⟩ := Option.isSome_iff_exists.1 hrefused
      exact hid.refused e he
  · intro hopen
    cases hf : b.fate id with
    | waiting t =>
      obtain ⟨w, hw, -⟩ := (hid.waiting_iff t).1 hf
      exact Or.inl (Pending.isSome_find?_iff.1 (by rw [hw]; rfl))
    | answered x =>
      have hx := (hid.replied_iff x).1 hf
      exact Or.inr (Or.inl (by rw [hx]; rfl))
    | _ =>
      rw [hf] at hopen
      exact hopen.elim

/-- There is news only for those who wait. -/
lemma isOpen_of_news? (hb : b.Sound) {o : Except MessengerError IncomingMessage}
    (h : b.news? id = some o) : (b.fate id).IsOpen := by
  rw [← hb.isOpen_iff]
  rcases news?_cases h with ⟨e, he, -⟩ | ⟨-, ⟨x, hx, -⟩ | ⟨w, hw, -⟩⟩
  · exact Or.inr (Or.inr (by rw [he]; rfl))
  · exact Or.inr (Or.inl (by rw [hx]; rfl))
  · exact Or.inl (Pending.isSome_find?_iff.1 (by rw [hw]; rfl))

/-- For a request that is closed, nothing is kept. -/
lemma lookup_eq_none (hb : b.Sound) (h : ¬ (b.fate id).IsOpen) :
    b.pending.find? id = none ∧ b.replies.lookup id = none ∧ b.refusals.lookup id = none := by
  rw [← hb.isOpen_iff] at h
  refine ⟨?_, ?_, ?_⟩
  · exact Pending.find?_eq_none_iff.2 fun hid => h (Or.inl hid)
  · exact Option.not_isSome_iff_eq_none.1 fun hid => h (Or.inr (Or.inl hid))
  · exact Option.not_isSome_iff_eq_none.1 fun hid => h (Or.inr (Or.inr hid))

/-- Nothing is on record about identifiers to come, so nobody waits for them. -/
lemma freshIds_ne (hb : b.Sound) (hid : (b.fate id).IsOpen) {n : ℕ} (hn : b.issued ≤ n) :
    b.freshIds n ≠ id := by
  rintro rfl
  rw [hb.unmade n hn] at hid
  exact hid

/-- A request for which there is an end on record is not open, and one that is open has none. -/
lemma outcomes_of_isOpen (hb : b.Sound) (hid : (b.fate id).IsOpen) : b.outcomes id = [] := by
  rw [(hb.agrees id).outcomes]
  cases hf : b.fate id with
  | waiting t => rfl
  | answered x => rfl
  | _ =>
    rw [hf] at hid
    exact hid.elim

lemma notMem_abandoned (hb : b.Sound) (hid : (b.fate id).IsOpen) :
    .abandoned id ∉ b.history := by
  intro hmem
  rw [(hb.agrees id).abandoned hmem] at hid
  exact hid

/-! ### Entries keep the books sound -/

/-- Where nothing is said otherwise about any request, the books stay sound. -/
lemma of_same (hb : b.Sound) (hfresh : b'.freshIds = b.freshIds) (hissued : b.issued ≤ b'.issued)
    (hpending : b'.pending = b.pending) (hsame : ∀ id, SameFor id b b') : b'.Sound where
  nodup := by rw [hpending]; exact hb.nodup
  unmade n hn := by
    rw [hfresh, (hsame _).fate]
    exact hb.unmade n (Nat.le_trans hissued hn)
  agrees id := (hb.agrees id).of_same (hsame id)

/-- Where something is said otherwise about one open request alone, and rightly so, the books stay
sound. -/
lemma of_same_but (hb : b.Sound) (hi : (b.fate i).IsOpen) (hfresh : b'.freshIds = b.freshIds)
    (hissued : b'.issued = b.issued) (hnodup : b'.pending.ids.Nodup)
    (hothers : ∀ id, id ≠ i → SameFor id b b') (hone : b'.Agrees i) : b'.Sound where
  nodup := hnodup
  unmade n hn := by
    rw [hissued] at hn
    rw [hfresh, (hothers _ (hb.freshIds_ne hi hn)).fate]
    exact hb.unmade n hn
  agrees id := by
    by_cases hid : id = i
    · rw [hid]
      exact hone
    · exact (hb.agrees id).of_same (hothers id hid)

lemma overhear (hb : b.Sound) {x : IncomingMessage}
    (hx : ∀ w ∈ b.pending.entries, ¬ x.Answers w.id) (id : MessageId) :
    SameFor id b (b.record (.arrived x)) := by
  by_cases hid : x.Answers id
  · have hnot : ∀ t, b.fate id ≠ .waiting t := by
      intro t ht
      obtain ⟨w, hw, -⟩ := ((hb.agrees id).waiting_iff t).1 ht
      obtain ⟨hmem, rfl⟩ := Pending.find?_eq_some hw
      exact hx w hmem hid
    constructor
    case fate => rw [fate_record, Fate.after_arrived_of_not_waiting hnot]
    case outcomes => exact (outcomes_record _).trans (List.append_nil _)
    case abandoned => simp [Books.record]
    all_goals rfl
  · exact .record hid

lemma answer (hb : b.Sound) {w : Waiting} {x : IncomingMessage} (hw : w ∈ b.pending.entries)
    (hx : x.Answers w.id) : ((b.record (.arrived x)).reply w.id x).Sound := by
  have hwaiting : b.fate w.id = .waiting w.messageType :=
    ((hb.agrees w.id).waiting_iff _).2 ⟨w, Pending.find?_of_mem hb.nodup hw, rfl⟩
  have hopen : (b.fate w.id).IsOpen := by
    rw [hwaiting]
    trivial
  have hfate : ((b.record (.arrived x)).reply w.id x).fate w.id = .answered x := by
    rw [fate_reply, fate_record, hwaiting, Fate.after_waiting_arrived hx]
  refine hb.of_same_but hopen rfl rfl (Pending.nodup_ids_forget hb.nodup _) (fun id hid => ?_) ?_
  · have harrived : SameFor id b (b.record (.arrived x)) :=
      .record fun hx' : x.Answers id => hid (hx'.id_unique hx)
    exact harrived.trans (.reply hid x)
  · refine .of_answered hfate (Pending.find?_forget_self _ _) List.lookup_cons_self ?_ ?_
    · rw [outcomes_reply, outcomes_record, hb.outcomes_of_isOpen hopen]
      rfl
    · simpa [Books.reply, Books.record] using hb.notMem_abandoned hopen

lemma outcomes_nextId (hb : b.Sound) : b.outcomes b.nextId = [] := by
  rw [(hb.agrees b.nextId).outcomes, nextId, hb.unmade b.issued (Nat.le_refl _)]
  rfl

/-- A new request waits. -/
lemma fate_make (hb : b.Sound) (t : String) : (b.make t).fate b.nextId = .waiting t := by
  have hunmade : b.fate b.nextId = .unmade := hb.unmade b.issued (Nat.le_refl _)
  rw [make, fate_record]
  exact (congrArg (Fate.after b.nextId · (.requested b.nextId t)) hunmade).trans (if_pos rfl)

lemma make (hb : b.Sound) (hinj : Function.Injective b.freshIds) (t : String) :
    (b.make t).Sound where
  nodup := Pending.nodup_ids_track hb.nodup _
  unmade n hn := by
    have hlt : b.issued < n := hn
    have hne : b.freshIds n ≠ b.nextId := fun heq => (Nat.ne_of_lt hlt) (hinj heq).symm
    exact (SameFor.make hne t).fate.trans (hb.unmade n (Nat.le_of_lt hlt))
  agrees id := by
    by_cases hid : id = b.nextId
    · have hnext := hb.agrees b.nextId
      have hunmade : b.fate b.nextId = .unmade := hb.unmade b.issued (Nat.le_refl _)
      have hclosed : ¬ (b.fate b.nextId).IsOpen := by
        rw [hunmade]
        exact fun h => h
      rw [hid]
      refine .of_waiting (hb.fate_make t) (Pending.find?_track_self _ (b.newRequest t))
        (hb.lookup_eq_none hclosed).2.1 ?_ ?_
      · rw [Books.make, outcomes_record]
        exact (List.append_nil _).trans hb.outcomes_nextId
      · intro hmem
        have hold : .abandoned b.nextId ∈ b.history := by
          simpa [Books.make, Books.record] using hmem
        have habandoned := hnext.abandoned hold
        rw [hunmade] at habandoned
        cases habandoned
    · exact (hb.agrees id).of_same (.make hid t)

/-- An open request may be found to be impossible to post. -/
lemma refuse (hb : b.Sound) (hi : (b.fate i).IsOpen) (err : MessengerError) :
    (b.refuse i err).Sound := by
  refine hb.of_same_but hi rfl rfl hb.nodup (fun id hid => .refuse hid err) ?_
  have hone := hb.agrees i
  exact ⟨hone.waiting_iff, hone.replied_iff, fun _ _ => hi, hone.ended, hone.outcomes,
    hone.abandoned⟩

/-- Who is dismissed is so for one reason alone, which is recorded. -/
lemma dismiss (hb : b.Sound) (hi : (b.fate i).IsOpen) {e : Event}
    (he : ∀ id, id ≠ i → ¬ e.Concerns id) (hone : ((b.dismiss i).record e).Agrees i) :
    ((b.dismiss i).record e).Sound := by
  refine hb.of_same_but hi rfl rfl (Pending.nodup_ids_forget hb.nodup _) (fun id hid => ?_) hone
  have hdismissed : SameFor id b (b.dismiss i) := .dismiss hid
  exact hdismissed.trans (.record (he id hid))

/-- What a request comes to when it is resumed, after an answer or without one. -/
lemma fate_resume (hb : b.Sound) {o : Except MessengerError IncomingMessage}
    (ho : b.news? i = some o) :
    ∃ r, ((b.dismiss i).record (.ended i o)).fate i = .ended r o ∧
      (b.fate i).reply? = r ∧ ∀ x, o = .ok x → r = some x := by
  have hopen := hb.isOpen_of_news? ho
  have hone := hb.agrees i
  rw [fate_record, fate_dismiss]
  cases hf : b.fate i with
  | waiting t =>
    have hnone : b.replies.lookup i = none := by
      refine Option.eq_none_iff_forall_not_mem.2 fun x hx => ?_
      have hanswered := (hone.replied_iff x).2 hx
      rw [hf] at hanswered
      cases hanswered
    rcases news?_cases ho with ⟨e, -, rfl⟩ | ⟨-, ⟨x, hx, -⟩ | ⟨w, -, -, rfl⟩⟩
    · exact ⟨none, Fate.after_waiting_failed, rfl, nofun⟩
    · rw [hnone] at hx
      cases hx
    · exact ⟨none, Fate.after_waiting_failed, rfl, nofun⟩
  | answered x =>
    refine ⟨some x, Fate.after_answered_ended, rfl, ?_⟩
    rintro y rfl
    have hx := (hone.replied_iff x).1 hf
    rcases news?_cases ho with ⟨e, -, hy⟩ | ⟨-, ⟨z, hz, hy⟩ | ⟨w, -, -, hy⟩⟩
    · cases hy
    · cases hy
      rw [hx] at hz
      exact hz
    · cases hy
  | _ =>
    rw [hf] at hopen
    exact hopen.elim

lemma resume (hb : b.Sound) {o : Except MessengerError IncomingMessage}
    (ho : b.news? i = some o) : ((b.dismiss i).record (.ended i o)).Sound := by
  have hopen := hb.isOpen_of_news? ho
  obtain ⟨r, hfate, -, hreply⟩ := hb.fate_resume ho
  refine hb.dismiss hopen (fun id hid h => hid h.symm) (.of_isSettled ?_ ?_ ?_ ?_)
  · rw [hfate]
    trivial
  · intro r' x h
    rw [hfate] at h
    cases h
    exact hreply x rfl
  · rw [hfate, outcomes_record, outcomes_dismiss, hb.outcomes_of_isOpen hopen,
      Event.outcomeFor?_eq_some_iff.2 rfl]
    rfl
  · intro hmem
    have hold : .abandoned i ∈ b.history := by simpa using hmem
    exact absurd hold (hb.notMem_abandoned hopen)

lemma abandon (hb : b.Sound) (hi : b.IsOpen i) :
    ((b.dismiss i).record (.abandoned i)).Sound := by
  have hopen := hb.isOpen_iff.1 hi
  have hfate : ((b.dismiss i).record (.abandoned i)).fate i = .abandoned := by
    rw [fate_record, fate_dismiss, Fate.after_abandoned_of_isOpen hopen]
  refine hb.dismiss hopen (fun id hid h => hid h.symm) (.of_isSettled ?_ ?_ ?_ ?_)
  · rw [hfate]
    trivial
  · intro r x h
    rw [hfate] at h
    cases h
  · rw [hfate, outcomes_record, outcomes_dismiss, hb.outcomes_of_isOpen hopen]
    rfl
  · exact fun _ => hfate

/-- Every entry keeps the books sound. -/
theorem entry (hb : b.Sound) (hinj : Function.Injective b.freshIds) (h : Entry b b') :
    b'.Sound := by
  cases h with
  | issue =>
    exact hb.of_same rfl (Nat.le_succ _) rfl fun id => ⟨rfl, rfl, rfl, rfl, rfl, fun h => h⟩
  | wait =>
    exact hb.of_same rfl (Nat.le_refl _) rfl fun id => ⟨rfl, rfl, rfl, rfl, rfl, fun h => h⟩
  | note e he => exact hb.of_same rfl (Nat.le_refl _) rfl fun id => .record (he id)
  | overhear x hx => exact hb.of_same rfl (Nat.le_refl _) rfl (hb.overhear hx)
  | answer w x hw hx => exact hb.answer hw hx
  | make t => exact hb.make hinj t
  | refuse t err =>
    refine (hb.make hinj t).refuse ?_ err
    rw [hb.fate_make t]
    trivial
  | resume i o ho => exact hb.resume ho
  | abandon i hi => exact hb.abandon hi

end Sound

/-! ## Any number of entries -/

lemma Entry.freshIds_eq (h : Entry b b') : b'.freshIds = b.freshIds := by
  cases h <;> rfl

lemma Entry.timeoutMs_eq (h : Entry b b') : b'.timeoutMs = b.timeoutMs := by
  cases h <;> rfl

lemma Entry.issued_le (h : Entry b b') : b.issued ≤ b'.issued := by
  cases h with
  | issue => exact Nat.le_succ _
  | make => exact Nat.le_succ _
  | refuse => exact Nat.le_succ _
  | _ => exact Nat.le_refl _

lemma Entry.now_le (h : Entry b b') : b.now ≤ b'.now := by
  cases h with
  | wait => exact Nat.le_add_right _ _
  | _ => exact Nat.le_refl _

/-- Nothing is ever struck from the history. -/
lemma Entry.history_prefix (h : Entry b b') : b.history <+: b'.history := by
  cases h with
  | issue | wait => exact List.prefix_refl _
  | _ => exact List.prefix_append _ _

namespace Grows

@[refl] lemma refl (b : Books) : b.Grows b := Relation.ReflTransGen.refl

lemma single (h : Entry b b') : b.Grows b' := Relation.ReflTransGen.single h

lemma trans (h : b.Grows b') (h' : b'.Grows b'') : b.Grows b'' := Relation.ReflTransGen.trans h h'

lemma freshIds_eq (h : b.Grows b') : b'.freshIds = b.freshIds := by
  induction h with
  | refl => rfl
  | tail _ hentry ih => exact hentry.freshIds_eq.trans ih

lemma timeoutMs_eq (h : b.Grows b') : b'.timeoutMs = b.timeoutMs := by
  induction h with
  | refl => rfl
  | tail _ hentry ih => exact hentry.timeoutMs_eq.trans ih

lemma history_prefix (h : b.Grows b') : b.history <+: b'.history := by
  induction h with
  | refl => exact List.prefix_refl _
  | tail _ hentry ih => exact ih.trans hentry.history_prefix

end Grows

/-- Books stay sound as they grow. -/
theorem Sound.grows (hb : b.Sound) (hinj : Function.Injective b.freshIds) (h : b.Grows b') :
    b'.Sound := by
  induction h with
  | refl => exact hb
  | tail hgrows hentry ih =>
    refine ih.entry ?_ hentry
    rw [Grows.freshIds_eq hgrows]
    exact hinj

end Books

end WebviewBridge
