import WebviewBridge.Messenger.Basic
import Mathlib.Data.List.Induction
import Mathlib.Data.Option.Basic
import Mathlib.Tactic.Lemma

/-!
# The fate of a request

What has become of a request can be read off the history of a messenger: it is made, and then the
first event that decides about it settles what it may come to.  An answer decides, and so does a
failure, and so does giving up.  A request that is answered has not ended yet: the answer has to be
taken up first, and until then the request may still fail or be given up.  This file says so as an
automaton that reads the history event by event (`Fate.after`), and shows what the automaton finds
in terms of the first deciding event.
-/

namespace WebviewBridge

/-- A message answers a request when it carries the identifier of the request and is no ping. -/
def IncomingMessage.Answers (x : IncomingMessage) (id : MessageId) : Prop :=
  x.messageType ≠ Kind.ping.messageType ∧ x.id = some id

instance (x : IncomingMessage) (id : MessageId) : Decidable (x.Answers id) :=
  inferInstanceAs (Decidable (_ ∧ _))

/-- A message answers at most one request. -/
lemma IncomingMessage.Answers.id_unique {x : IncomingMessage} {i j : MessageId}
    (hi : x.Answers i) (hj : x.Answers j) : i = j :=
  Option.some_injective _ (hi.2.symm.trans hj.2)

namespace Event

/-- The events that decide about a request: an answer comes in, the request fails, or nobody waits
for it any more. -/
def Decides (id : MessageId) : Event → Prop
  | arrived x => x.Answers id
  | ended i (.error _) => i = id
  | abandoned i => i = id
  | _ => False

/-- The outcome of a request, if this event is its end. -/
def outcomeFor? (id : MessageId) : Event → Option (Except MessengerError IncomingMessage)
  | ended i o => if i = id then some o else none
  | _ => none

/-- The events in the life of a request. -/
def Concerns (id : MessageId) : Event → Prop
  | requested i _ => i = id
  | arrived x => x.Answers id
  | ended i _ => i = id
  | abandoned i => i = id
  | _ => False

/-- The events that concern no request. -/
def IsNeutral (e : Event) : Prop := ∀ id, ¬ e.Concerns id

/-- What kinds of event decide about a request. -/
lemma decides_iff {id : MessageId} {e : Event} :
    e.Decides id ↔ (∃ x, e = arrived x ∧ x.Answers id) ∨
      (∃ err, e = ended id (.error err)) ∨ e = abandoned id := by
  constructor
  · intro h
    cases e with
    | arrived x => exact Or.inl ⟨x, rfl, h⟩
    | ended i o =>
      cases o with
      | ok x => exact h.elim
      | error err =>
        have hi : i = id := h
        exact Or.inr (Or.inl ⟨err, by rw [hi]⟩)
    | abandoned i =>
      have hi : i = id := h
      exact Or.inr (Or.inr (by rw [hi]))
    | _ => exact h.elim
  · rintro (⟨x, rfl, hx⟩ | ⟨err, rfl⟩ | rfl)
    · exact hx
    · exact rfl
    · exact rfl

lemma outcomeFor?_of_not_concerns {id : MessageId} {e : Event} (he : ¬ e.Concerns id) :
    e.outcomeFor? id = none := by
  cases e with
  | ended i o => exact if_neg he
  | _ => rfl

lemma outcomeFor?_eq_some_iff {id : MessageId} {e : Event}
    {o : Except MessengerError IncomingMessage} : e.outcomeFor? id = some o ↔ e = ended id o := by
  constructor
  · intro h
    cases e with
    | ended i o' =>
      rw [outcomeFor?] at h
      split at h
      · rename_i hi
        rw [hi, Option.some_injective _ h]
      · cases h
    | _ => cases h
  · rintro rfl
    exact if_pos rfl

end Event

/-- What has become of a request. -/
inductive Fate where
  | unmade
  | waiting (messageType : String)
  /-- Its answer has come in, and has not been taken up. -/
  | answered (reply : IncomingMessage)
  /-- It has ended, after or before an answer came in. -/
  | ended (reply : Option IncomingMessage) (outcome : Except MessengerError IncomingMessage)
  | abandoned

namespace Fate

variable {id : MessageId}

/-- What becomes of a request when one more event happens.  What is settled stays so. -/
def after (id : MessageId) : Fate → Event → Fate
  | unmade, .requested i t => if i = id then waiting t else unmade
  | waiting t, .arrived x => if x.Answers id then answered x else waiting t
  | waiting t, .ended i (.error e) => if i = id then ended none (.error e) else waiting t
  | waiting t, .abandoned i => if i = id then abandoned else waiting t
  | answered x, .ended i o => if i = id then ended (some x) o else answered x
  | answered x, .abandoned i => if i = id then abandoned else answered x
  | f, _ => f

/-- What the events so far make of a request. -/
def ofHistory (id : MessageId) (h : List Event) : Fate := h.foldl (after id) unmade

/-- The outcome of a request that is over. -/
def outcome? : Fate → Option (Except MessengerError IncomingMessage)
  | ended _ o => some o
  | _ => none

/-- The answer that came in for a request while somebody waited for it. -/
def reply? : Fate → Option IncomingMessage
  | answered x => some x
  | ended r _ => r
  | _ => none

/-- Whether somebody waits for a request. -/
def IsOpen : Fate → Prop
  | waiting _ | answered _ => True
  | _ => False

/-- Whether something has decided about a request. -/
def IsDecided : Fate → Prop
  | unmade | waiting _ => False
  | _ => True

/-- Whether nothing more can become of a request. -/
def IsSettled : Fate → Prop
  | ended _ _ | abandoned => True
  | _ => False

@[simp] lemma ofHistory_append (h l : List Event) :
    ofHistory id (h ++ l) = l.foldl (after id) (ofHistory id h) := List.foldl_append

/-- What an event can make of a request: it changes nothing, or is one of the events in the life of
the request. -/
inductive Becomes (id : MessageId) : Fate → Event → Fate → Prop
  | same (f : Fate) (e : Event) : Becomes id f e f
  | made (t : String) : Becomes id unmade (.requested id t) (waiting t)
  | answered {x : IncomingMessage} (hx : x.Answers id) (t : String) :
      Becomes id (waiting t) (.arrived x) (answered x)
  | failed (t : String) (err : MessengerError) :
      Becomes id (waiting t) (.ended id (.error err)) (ended none (.error err))
  | taken (x : IncomingMessage) (o : Except MessengerError IncomingMessage) :
      Becomes id (answered x) (.ended id o) (ended (some x) o)
  | abandoned {f : Fate} (hf : f.IsOpen) : Becomes id f (.abandoned id) abandoned

/-- Every event does one of these things. -/
theorem becomes_after (id : MessageId) (f : Fate) (e : Event) : Becomes id f e (f.after id e) := by
  cases f with
  | unmade =>
    cases e with
    | requested i t =>
      by_cases hi : i = id
      · rw [after, if_pos hi, hi]
        exact .made t
      · rw [after, if_neg hi]
        exact .same _ _
    | _ => exact .same _ _
  | waiting t =>
    cases e with
    | arrived x =>
      by_cases hx : x.Answers id
      · rw [after, if_pos hx]
        exact .answered hx t
      · rw [after, if_neg hx]
        exact .same _ _
    | ended i o =>
      cases o with
      | ok x => exact .same _ _
      | error err =>
        by_cases hi : i = id
        · rw [after, if_pos hi, hi]
          exact .failed t err
        · rw [after, if_neg hi]
          exact .same _ _
    | abandoned i =>
      by_cases hi : i = id
      · rw [after, if_pos hi, hi]
        exact .abandoned trivial
      · rw [after, if_neg hi]
        exact .same _ _
    | _ => exact .same _ _
  | answered x =>
    cases e with
    | ended i o =>
      by_cases hi : i = id
      · rw [after, if_pos hi, hi]
        exact .taken x o
      · rw [after, if_neg hi]
        exact .same _ _
    | abandoned i =>
      by_cases hi : i = id
      · rw [after, if_pos hi, hi]
        exact .abandoned trivial
      · rw [after, if_neg hi]
        exact .same _ _
    | _ => exact .same _ _
  | ended r o => cases e <;> exact .same _ _
  | abandoned => cases e <;> exact .same _ _

/-! ## Events that change nothing -/

/-- What does not concern a request changes nothing about it. -/
lemma after_of_not_concerns {e : Event} (he : ¬ e.Concerns id) (f : Fate) : f.after id e = f := by
  have h := becomes_after id f e
  generalize f.after id e = g at h
  cases h with
  | same => rfl
  | answered hx t => exact absurd hx he
  | _ => exact absurd rfl he

/-- An answer changes nothing about a request that does not wait. -/
lemma after_arrived_of_not_waiting {f : Fate} (hf : ∀ t, f ≠ waiting t) (x : IncomingMessage) :
    f.after id (.arrived x) = f := by
  cases f with
  | waiting t => exact absurd rfl (hf t)
  | _ => rfl

lemma after_of_isSettled {f : Fate} (hf : f.IsSettled) (e : Event) : f.after id e = f := by
  have h := becomes_after id f e
  generalize f.after id e = g at h
  cases h with
  | same => rfl
  | abandoned hopen => cases f <;> first | exact hf.elim | exact hopen.elim
  | _ => exact hf.elim

lemma foldl_after_of_isSettled {f : Fate} (hf : f.IsSettled) (l : List Event) :
    l.foldl (after id) f = f := by
  induction l with
  | nil => rfl
  | cons e l ih => rw [List.foldl_cons, after_of_isSettled hf, ih]

lemma after_waiting_of_not_decides {e : Event} {t : String} (he : ¬ e.Decides id) :
    (waiting t).after id e = waiting t := by
  cases e with
  | arrived x => exact if_neg he
  | ended i o =>
    cases o with
    | ok x => rfl
    | error _ => exact if_neg he
  | abandoned i => exact if_neg he
  | _ => rfl

lemma foldl_after_waiting_of_not_decides {l : List Event} {t : String}
    (hl : ∀ e ∈ l, ¬ e.Decides id) : l.foldl (after id) (waiting t) = waiting t := by
  induction l with
  | nil => rfl
  | cons e l ih =>
    rw [List.foldl_cons, after_waiting_of_not_decides (hl e (by simp))]
    exact ih fun e' he' => hl e' (by simp [he'])

/-! ## Events that decide -/

lemma after_waiting_arrived {x : IncomingMessage} {t : String} (hx : x.Answers id) :
    (waiting t).after id (.arrived x) = answered x := if_pos hx

lemma after_waiting_failed {err : MessengerError} {t : String} :
    (waiting t).after id (.ended id (.error err)) = ended none (.error err) := if_pos rfl

lemma after_waiting_abandoned {t : String} :
    (waiting t).after id (.abandoned id) = abandoned := if_pos rfl

lemma after_answered_ended {x : IncomingMessage} {o : Except MessengerError IncomingMessage} :
    (answered x).after id (.ended id o) = ended (some x) o := if_pos rfl

lemma after_answered_abandoned {x : IncomingMessage} :
    (answered x).after id (.abandoned id) = abandoned := if_pos rfl

/-- Who is given up while somebody waits is abandoned. -/
lemma after_abandoned_of_isOpen {f : Fate} (hf : f.IsOpen) :
    f.after id (.abandoned id) = abandoned := by
  cases f with
  | waiting t => exact after_waiting_abandoned
  | answered x => exact after_answered_abandoned
  | _ => exact hf.elim

/-- Any event that decides about a request that waits is a decision. -/
lemma isDecided_after_waiting {e : Event} {t : String} (he : e.Decides id) :
    ((waiting t).after id e).IsDecided := by
  rcases Event.decides_iff.1 he with ⟨x, rfl, hx⟩ | ⟨err, rfl⟩ | rfl
  · rw [after_waiting_arrived hx]
    trivial
  · rw [after_waiting_failed]
    trivial
  · rw [after_waiting_abandoned]
    trivial

/-- What was made stays made. -/
lemma foldl_after_ne_unmade {f : Fate} (hf : f ≠ unmade) (l : List Event) :
    l.foldl (after id) f ≠ unmade := by
  induction l generalizing f with
  | nil => exact hf
  | cons e l ih =>
    refine ih ?_
    have h := becomes_after id f e
    generalize f.after id e = g at h
    cases h with
    | same => exact hf
    | _ => exact nofun

/-- A request that is answered has its answer for good, unless it is given up. -/
lemma reply?_foldl_answered (id : MessageId) (x : IncomingMessage) (l : List Event) :
    (l.foldl (after id) (answered x)).reply? = some x ∨
      l.foldl (after id) (answered x) = abandoned := by
  induction l with
  | nil => exact Or.inl rfl
  | cons e l ih =>
    rw [List.foldl_cons]
    have h := becomes_after id (answered x) e
    generalize (answered x).after id e = g at h
    cases h with
    | same => exact ih
    | taken =>
      rw [foldl_after_of_isSettled (f := ended _ _) trivial]
      exact Or.inl rfl
    | abandoned =>
      rw [foldl_after_of_isSettled (f := abandoned) trivial]
      exact Or.inr rfl

/-! ## The first event that decides -/

/-- The first event that decides about a request: it decides, and nothing before it does. -/
def IsFirstDecision (id : MessageId) (l : List Event) (e : Event) : Prop :=
  ∃ before later, l = before ++ e :: later ∧ e.Decides id ∧ ∀ d ∈ before, ¬ d.Decides id

lemma IsFirstDecision.decides {l : List Event} {e : Event} (h : IsFirstDecision id l e) :
    e.Decides id := by
  obtain ⟨_, _, _, he, _⟩ := h
  exact he

lemma IsFirstDecision.mem {l : List Event} {e : Event} (h : IsFirstDecision id l e) : e ∈ l := by
  obtain ⟨before, later, rfl, -⟩ := h
  simp

/-- Of a request that waits, nothing matters before the first deciding event. -/
lemma IsFirstDecision.foldl_after {l : List Event} {e : Event} (t : String)
    (h : IsFirstDecision id l e) :
    ∃ later : List Event, l.foldl (after id) (waiting t) =
      later.foldl (after id) ((waiting t).after id e) := by
  obtain ⟨before, later, rfl, he, hbefore⟩ := h
  refine ⟨later, ?_⟩
  rw [List.foldl_append, foldl_after_waiting_of_not_decides hbefore, List.foldl_cons]

/-- Either nothing decides about a request, or something does first. -/
lemma exists_isFirstDecision_or (id : MessageId) (l : List Event) :
    (∀ e ∈ l, ¬ e.Decides id) ∨ ∃ e, IsFirstDecision id l e := by
  induction l with
  | nil => exact Or.inl (by simp)
  | cons d l ih =>
    by_cases hd : d.Decides id
    · exact Or.inr ⟨d, [], l, rfl, hd, by simp⟩
    · rcases ih with hnone | ⟨e, before, later, rfl, he, hbefore⟩
      · exact Or.inl (List.forall_mem_cons.2 ⟨hd, hnone⟩)
      · exact Or.inr ⟨e, d :: before, later, rfl, he, List.forall_mem_cons.2 ⟨hd, hbefore⟩⟩

/-- A message is the answer to a request that waits exactly when its arrival is the first event that
decides about the request, and the request is not given up afterwards. -/
lemma reply?_foldl_eq_some_iff {l : List Event} {t : String} {x : IncomingMessage} :
    (l.foldl (after id) (waiting t)).reply? = some x ↔
      IsFirstDecision id l (.arrived x) ∧ l.foldl (after id) (waiting t) ≠ abandoned := by
  constructor
  · intro h
    refine ⟨?_, fun habandoned => by rw [habandoned] at h; cases h⟩
    rcases exists_isFirstDecision_or id l with hnone | ⟨e, he⟩
    · rw [foldl_after_waiting_of_not_decides hnone] at h
      cases h
    · obtain ⟨later, heq⟩ := he.foldl_after t
      rw [heq] at h
      rcases Event.decides_iff.1 he.decides with ⟨y, rfl, hy⟩ | ⟨err, rfl⟩ | rfl
      · rw [after_waiting_arrived hy] at h
        rcases reply?_foldl_answered id y later with hy' | habandoned
        · rw [h] at hy'
          cases hy'
          exact he
        · rw [habandoned] at h
          cases h
      · rw [after_waiting_failed, foldl_after_of_isSettled (f := ended none _) trivial] at h
        cases h
      · rw [after_waiting_abandoned, foldl_after_of_isSettled (f := abandoned) trivial] at h
        cases h
  · rintro ⟨h, hkept⟩
    obtain ⟨later, heq⟩ := h.foldl_after t
    rw [heq, after_waiting_arrived h.decides] at hkept ⊢
    exact (reply?_foldl_answered id x later).resolve_right hkept

/-- Whoever is abandoned was given up. -/
lemma mem_of_ofHistory_eq_abandoned {h : List Event} (heq : ofHistory id h = abandoned) :
    .abandoned id ∈ h := by
  induction h using List.reverseRecOn with
  | nil => cases heq
  | append_singleton h e ih =>
    have hlast := becomes_after id (ofHistory id h) e
    rw [ofHistory_append, List.foldl_cons, List.foldl_nil] at heq
    rw [heq] at hlast
    generalize ofHistory id h = f at hlast ih
    cases hlast with
    | same => exact List.mem_append_left _ (ih rfl)
    | abandoned => simp

/-- The answer to a request is a message that answers it. -/
lemma answers_of_reply?_eq {h : List Event} {x : IncomingMessage}
    (heq : (ofHistory id h).reply? = some x) : x.Answers id := by
  induction h using List.reverseRecOn with
  | nil => cases heq
  | append_singleton h e ih =>
    have hlast := becomes_after id (ofHistory id h) e
    rw [ofHistory_append, List.foldl_cons, List.foldl_nil] at heq
    generalize (ofHistory id h).after id e = g at hlast heq
    generalize ofHistory id h = f at hlast ih
    cases hlast with
    | same => exact ih heq
    | answered hy t =>
      cases heq
      exact hy
    | taken y o => exact ih heq
    | _ => cases heq

end Fate

end WebviewBridge
