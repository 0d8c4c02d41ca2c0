import Mathlib.Data.Set.Card
import WebviewBridge.Proofs.Messenger.Correlation

/-!
# Outstanding requests

A request is outstanding from the moment at which it is made until the first event that decides
about it.  The table of a messenger holds the outstanding requests and no others
(`Books.mem_ids_iff`), so that its size is their number.  A turn takes at most one request out of
the table, and only requests that are made are ever entered (`Messenger.pending_turn`).  What the
table promises at every moment of a run is `Messenger.run_keepsAccount`.
-/

namespace WebviewBridge

open Json

namespace Fate

variable {id : MessageId}

/-- A request is outstanding when it was made and nothing has decided about it since. -/
def IsOutstanding (id : MessageId) (h : List Event) : Prop :=
  ∃ before t later, h = before ++ .requested id t :: later ∧ ∀ e ∈ later, ¬ e.Decides id

/-- A request that waits is outstanding. -/
lemma isOutstanding_of_ofHistory_eq {h : List Event} {t : String}
    (heq : ofHistory id h = waiting t) : IsOutstanding id h := by
  induction h using List.reverseRecOn generalizing t with
  | nil => cases heq
  | append_singleton h e ih =>
    have hlast := becomes_after id (ofHistory id h) e
    rw [ofHistory_append, List.foldl_cons, List.foldl_nil] at heq
    rw [heq] at hlast
    generalize hf : ofHistory id h = f at hlast
    cases hlast with
    | made => exact ⟨h, t, [], rfl, List.forall_mem_nil _⟩
    | same =>
      have he : ¬ e.Decides id := by
        intro he
        have hdecided := isDecided_after_waiting (t := t) he
        rw [← hf, heq] at hdecided
        exact hdecided
      obtain ⟨before, t', later, rfl, hlater⟩ := ih hf
      refine ⟨before, t', later ++ [e], by rw [List.append_assoc, List.cons_append], ?_⟩
      intro d hd
      rcases List.mem_append.1 hd with hd | hd
      · exact hlater d hd
      · rw [List.mem_singleton.1 hd]
        exact he

end Fate

namespace Books

variable {b b' : Books} {id : MessageId}

/-- Every request on record was unheard of before it was made. -/
def MadeOnce (b : Books) : Prop :=
  ∀ id before t later, b.history = before ++ .requested id t :: later →
    Fate.ofHistory id before = .unmade

namespace MadeOnce

lemma record (hb : b.MadeOnce) {e : Event}
    (he : ∀ id t, e = .requested id t → b.fate id = .unmade) : (b.record e).MadeOnce := by
  intro id before t later heq
  rcases List.eq_nil_or_concat later with rfl | ⟨later', d, rfl⟩
  · obtain ⟨rfl, hlast⟩ := List.append_inj' heq rfl
    exact he id t (List.singleton_inj.1 hlast)
  · have hfront : b.history ++ [e] = (before ++ .requested id t :: later') ++ [d] := by
      rw [List.concat_eq_append] at heq
      rw [List.append_assoc, List.cons_append]
      exact heq
    exact hb id before t later' (List.append_inj' hfront rfl).1

theorem entry (hb : b.MadeOnce) (hs : b.Sound) (h : Entry b b') : b'.MadeOnce := by
  have hmake : ∀ t, (b.make t).MadeOnce := by
    intro t
    refine record (b := { b with
      issued := b.issued + 1, pending := b.pending.track (b.newRequest t) }) hb ?_
    intro id t' heq
    cases heq
    exact hs.unmade b.issued (Nat.le_refl _)
  cases h with
  | issue => exact hb
  | wait => exact hb
  | note e he => exact hb.record fun id t heq => absurd rfl (heq ▸ he id)
  | overhear x hx => exact hb.record nofun
  | answer w x hw hx => exact hb.record (e := .arrived x) nofun
  | make t => exact hmake t
  | refuse t err => exact hmake t
  | resume i o ho => exact record (b := b.dismiss i) hb nofun
  | abandon i hi => exact record (b := b.dismiss i) hb nofun

theorem grows (hb : b.MadeOnce) (hs : b.Sound) (hinj : Function.Injective b.freshIds)
    (h : b.Grows b') : b'.MadeOnce := by
  induction h with
  | refl => exact hb
  | tail hgrows hentry ih => exact ih.entry (hs.grows hinj hgrows) hentry

end MadeOnce

/-- The table holds the outstanding requests, and no others. -/
theorem Sound.mem_ids_iff (hs : b.Sound) (hb : b.MadeOnce) :
    id ∈ b.pending.ids ↔ Fate.IsOutstanding id b.history := by
  rw [← Pending.isSome_find?_iff, Option.isSome_iff_exists]
  constructor
  · rintro ⟨w, hw⟩
    exact Fate.isOutstanding_of_ofHistory_eq (((hs.agrees id).waiting_iff _).2 ⟨w, hw, rfl⟩)
  · rintro ⟨before, t, later, hsplit, hlater⟩
    have hwaiting : b.fate id = .waiting t := by
      rw [fate, hsplit, Fate.ofHistory_append, hb id before t later hsplit, List.foldl_cons]
      exact (congrArg (List.foldl (Fate.after id) · later) (if_pos rfl)).trans
        (Fate.foldl_after_waiting_of_not_decides hlater)
    obtain ⟨w, hw, -⟩ := ((hs.agrees id).waiting_iff t).1 hwaiting
    exact ⟨w, hw⟩

lemma Sound.nextId_notMem (hs : b.Sound) : b.nextId ∉ b.pending.ids := by
  intro hid
  have hopen := hs.isOpen_iff.1 (Or.inl hid)
  rw [nextId, hs.unmade b.issued (Nat.le_refl _)] at hopen
  exact hopen

end Books

namespace Pending

variable {p : Pending}

/-- A request that is entered and taken out again leaves no trace. -/
lemma forget_track {w : Waiting} (h : w.id ∉ p.ids) : (p.track w).forget w.id = p := by
  rw [track, forget_of_notMem h, forget, List.filter_append, List.filter_singleton]
  simpa [forget] using forget_of_notMem h

lemma size_eq_ncard (h : p.ids.Nodup) : p.size = {id | id ∈ p.ids}.ncard := by
  rw [← List.coe_toFinset, Set.ncard_coe_finset, List.toFinset_card_of_nodup h, ids,
    List.length_map, size]

end Pending

namespace Messenger

variable (m : Messenger)

/-! ## What a turn does to the table -/

lemma pending_handOver (x : OutgoingMessage) : (m.handOver x).1.pending = m.pending := by
  rcases m.fst_handOver x with h | h <;> rw [h]
  rfl

lemma pending_post (t : String) (p : Option Value) : (m.post t p).1.pending = m.pending :=
  (m.compose t p).1.pending_handOver _

lemma pending_receive (x : IncomingMessage) :
    (m.receive x).1.pending = m.pending ∨ ∃ i, (m.receive x).1.pending = m.pending.forget i := by
  rw [receive]
  split
  · exact Or.inl (pending_post _ _ _)
  · rw [resolve]
    split
    · exact Or.inr ⟨_, rfl⟩
    · exact Or.inl rfl

lemma pending_perform (a : Action) : (m.perform a).1.pending = m.pending := by
  cases a with
  | post t p => exact m.pending_post t p
  | frame text =>
    rw [perform]
    split <;> rfl
  | unregister label =>
    rw [perform]
    split <;> rfl
  | unregisterFrom label t =>
    rw [perform]
    split <;> rfl
  | _ => rfl

lemma pending_tell (l : Listener) (x : IncomingMessage) :
    (m.tell l x).1.pending = m.pending := by
  rw [tell]
  split
  · rfl
  · split <;> rfl

lemma pending_carryOut (t : Task) :
    (m.carryOut t).1.pending = m.pending ∨
      ∃ i, (m.carryOut t).1.pending = m.pending.forget i := by
  cases t with
  | receive x => exact m.pending_receive x
  | tell l x => exact Or.inl (m.pending_tell l x)
  | act label a => exact Or.inl (m.pending_perform a)
  | note label a r => exact Or.inl rfl

lemma pending_step : m.step.pending = m.pending ∨ ∃ i, m.step.pending = m.pending.forget i := by
  rw [step]
  split
  · exact Or.inl rfl
  · rename_i t rest _
    exact pending_carryOut { m with agenda := rest } t

lemma pending_beginRequest (t : String) (p : Option Value) :
    (m.beginRequest t p).1.pending = m.pending.track (m.books.newRequest t) := by
  have hover := (m.withRequest t p).pending_handOver (m.compose t p).2
  rw [beginRequest_eq]
  rcases ((m.withRequest t p).handOver (m.compose t p).2).2.2 with e | ⟨⟩ <;> exact hover

/-- Only a request enters anything, and a turn takes out one request at most. -/
theorem pending_turn (t : Turn) :
    (m.turn t).pending = m.pending ∨ (∃ i, (m.turn t).pending = m.pending.forget i) ∨
      ∃ messageType payload, t = .request messageType payload ∧
        (m.turn t).pending = m.pending.track (m.books.newRequest messageType) := by
  cases t with
  | act a => exact Or.inl (m.pending_perform a)
  | step => exact m.pending_step.imp_right Or.inl
  | request t p => exact Or.inr (Or.inr ⟨t, p, rfl, m.pending_beginRequest t p⟩)
  | wait ms => exact Or.inl rfl
  | resume id =>
    rw [turn, resume]
    split
    · exact Or.inr (Or.inl ⟨id, rfl⟩)
    · exact Or.inl rfl
  | abandon id =>
    rw [turn, abandon]
    split
    · exact Or.inr (Or.inl ⟨id, rfl⟩)
    · exact Or.inl rfl
  | reroute t => exact Or.inl rfl

/-! ## Absent transports -/

variable {m}

/-- An action that posts is answered with what comes of the post. -/
lemma snd_perform_post (m : Messenger) (t : String) (p : Option Value) :
    (m.perform (.post t p)).2.2 =
      (m.refusal? t p).elim (.posted (m.freshIds m.issued)) .failed := by
  have hpost := m.outcome_post t p
  have hperform : (m.perform (.post t p)).2.2 = .ofPost (m.post t p).2.2 := rfl
  rw [hperform, refusal?, hpost]
  cases (m.handOver (m.compose t p).2).2.2 <;> rfl

/-- Where the policy is to drop it, a message that an absent transport cannot take counts as
posted. -/
lemma refusal?_of_ignored (hpolicy : m.policy = .ignore) {t : String} {p : Option Value}
    {e : TransportError} (he : (m.transport.post (m.compose t p).2).outcome = .error e)
    (habsent : e.isUnavailable = true) : m.refusal? t p = none := by
  rw [refusal?, outcome_post]
  rcases m.handOver_cases (m.compose t p).2 with ⟨-, h⟩ | ⟨_, -, -, -, h⟩ | ⟨e', he', hkept, -⟩
  · rw [h]
    rfl
  · rw [h]
    rfl
  · rw [he] at he'
    cases he'
    exact absurd ⟨habsent, hpolicy⟩ hkept

/-- Where the policy is to fail, whatever a transport cannot take has failed. -/
lemma refusal?_of_failing (hpolicy : m.policy = .fail) {t : String} {p : Option Value}
    {e : TransportError} (he : (m.transport.post (m.compose t p).2).outcome = .error e) :
    m.refusal? t p = some (.transport e) := by
  rw [refusal?, outcome_post]
  rcases m.handOver_cases (m.compose t p).2 with ⟨hok, -⟩ | ⟨_, -, -, hignore, -⟩ | ⟨e', he', -, h⟩
  · rw [he] at hok
    cases hok
  · cases hpolicy.symm.trans hignore
  · rw [he] at he'
    cases he'
    rw [h]
    rfl

/-- A request that was posted, or dropped, leaves the table with its answer, when nobody waits for
it any more, or in time. -/
lemma pending_or_settled (hm : m.books.Sound) (hmade : m.books.MadeOnce)
    (hinj : Function.Injective m.freshIds) {t : String} {p : Option Value}
    (hposted : m.refusal? t p = none) (us : List Turn)
    {id : MessageId} (hid : id = (m.beginRequest t p).2) {m' : Messenger}
    (hm' : m' = (m.beginRequest t p).1.run us) :
    (∀ err, (m'.resume id).outcome? id = some (.error err) →
        err = .timeout t m.timeoutMs.toNat ∧ m.now + m.timeoutMs.toNat ≤ m'.now) ∧
      (id ∈ m'.pending.ids ∨ ((m'.resume id).outcome? id).isSome ∨
        .abandoned id ∈ m'.history) := by
  have hgrows : m.books.Grows m'.books := by
    rw [hm']
    exact (m.grows_beginRequest t p).trans (grows_run _ us)
  have hsound : m'.books.Sound := hm.grows hinj hgrows
  have htimeout : m'.timeoutMs.toNat = m.timeoutMs.toNat := hgrows.timeoutMs_eq
  obtain ⟨later, hc⟩ := exists_correlates m hm hinj t p us
  rw [← hid, ← hm'] at hc
  constructor
  · intro err herr
    rcases hc.failed err herr with hrefused | ⟨-, hlate⟩
    · rw [hposted] at hrefused
      cases hrefused
    · rw [htimeout] at hlate
      exact hlate
  · by_cases habandoned : .abandoned id ∈ later
    · refine Or.inr (Or.inr ?_)
      rw [hc.history_eq]
      exact List.mem_append_right _ (List.mem_cons_of_mem _ habandoned)
    rcases Fate.exists_isFirstDecision_or id later with hnone | ⟨e, he⟩
    · refine Or.inl ((hsound.mem_ids_iff (hmade.grows hm hinj hgrows)).2 ?_)
      exact ⟨m.history, t, later, hc.history_eq, hnone⟩
    · have hmem : e ∈ m'.history := by
        rw [hc.history_eq]
        exact List.mem_append_right _ (List.mem_cons_of_mem _ he.mem)
      rcases Event.decides_iff.1 he.decides with ⟨x, rfl, hx⟩ | ⟨err, rfl⟩ | rfl
      · refine Or.inr (Or.inl ?_)
        rw [(hc.answered_iff hposted x).2 ⟨he, habandoned⟩]
        rfl
      · have hended : (m'.outcome? id).isSome := by
          rw [outcome?_eq_head?, List.isSome_head?]
          exact List.ne_nil_of_mem (Books.mem_outcomes_iff.2 hmem)
        refine Or.inr (Or.inl ?_)
        rw [outcome?_resume, Option.isSome_or, hended]
        rfl
      · exact absurd he.mem habandoned

/-! ## The account of a messenger -/

/-- What the table of requests of a messenger promises, at a moment and for what is done next. -/
structure KeepsAccount (m : Messenger) : Prop where
  nodup : m.pending.ids.Nodup
  /-- The table holds the requests that were made and are not yet answered, timed out, abandoned or
  refused. -/
  mem_iff : ∀ id, id ∈ m.pending.ids ↔ Fate.IsOutstanding id m.history
  size_eq : m.pending.size = {id | Fate.IsOutstanding id m.history}.ncard
  /-- A request that cannot be posted comes to what is wrong, which leaves the table as it was.  So
  it does later, too, whatever has come in meanwhile, unless the request was given up. -/
  refused : ∀ t p err, m.refusal? t p = some err →
    ((m.beginRequest t p).1.resume (m.beginRequest t p).2).pending = m.pending ∧
      ∀ us, let m' := (m.beginRequest t p).1.run us
        .abandoned (m.beginRequest t p).2 ∉ m'.history →
          (m'.resume (m.beginRequest t p).2).outcome? (m.beginRequest t p).2 =
              some (.error err) ∧
            (m.beginRequest t p).2 ∉ (m'.resume (m.beginRequest t p).2).pending.ids
  /-- Under the policy to ignore it, nobody hears that the transport is absent: a message counts as
  posted, and a request waits.  However things go on, it fails only by its timeout, and leaves the
  table only then, with its answer, or when it is given up. -/
  ignored : m.policy = .ignore → ∀ t p e,
    (m.transport.post (m.compose t p).2).outcome = .error e → e.isUnavailable = true →
    (m.perform (.post t p)).2.2 = .posted (m.freshIds m.issued) ∧
      (m.beginRequest t p).2 ∈ (m.beginRequest t p).1.pending.ids ∧
      ∀ us, let m' := (m.beginRequest t p).1.run us
        let outcome? := (m'.resume (m.beginRequest t p).2).outcome? (m.beginRequest t p).2
        (∀ err, outcome? = some (.error err) →
          err = .timeout t m.timeoutMs.toNat ∧ m.now + m.timeoutMs.toNat ≤ m'.now) ∧
        ((m.beginRequest t p).2 ∈ m'.pending.ids ∨ outcome?.isSome ∨
          .abandoned (m.beginRequest t p).2 ∈ m'.history)
  /-- Under the policy to fail, an absent transport is reported at once. -/
  failed : m.policy = .fail → ∀ t p e,
    (m.transport.post (m.compose t p).2).outcome = .error e →
    (m.perform (.post t p)).2.2 = .failed (.transport e) ∧
      ((m.beginRequest t p).1.resume (m.beginRequest t p).2).outcome? (m.beginRequest t p).2 =
        some (.error (.transport e))
  /-- A request is taken out by what decides about it, and no other with it. -/
  removed : ∀ t, ∀ i ∈ m.pending.ids, i ∉ (m.turn t).pending.ids →
    (∃ later, (m.turn t).history = m.history ++ later ∧ ∃ e ∈ later, e.Decides i) ∧
      ∀ j ∈ m.pending.ids, j ≠ i → j ∈ (m.turn t).pending.ids
  /-- Nothing but a request enters anything: no post does, whether it is made from outside, by a
  listener or in answer to a ping. -/
  entered : ∀ t, ∀ i ∉ m.pending.ids, i ∈ (m.turn t).pending.ids →
    ∃ messageType payload, t = .request messageType payload ∧
      i = (m.beginRequest messageType payload).2
  /-- What answers a request is what comes in, and what gives it up is what is done to that end. -/
  heeds : m.Heeds

/-- What is outstanding and left by a turn has been decided about. -/
lemma exists_decides_of_removed (hm : m.books.Sound) (hmade : m.books.MadeOnce)
    (hinj : Function.Injective m.freshIds) {t : Turn} {i : MessageId} (hi : i ∈ m.pending.ids)
    (hi' : i ∉ (m.turn t).pending.ids) :
    ∃ later, (m.turn t).history = m.history ++ later ∧ ∃ e ∈ later, e.Decides i := by
  have hgrows := m.grows_turn t
  obtain ⟨later, hlater⟩ := hgrows.history_prefix
  have hsplit : (m.turn t).history = m.history ++ later := hlater.symm
  refine ⟨later, hsplit, ?_⟩
  by_contra hnone
  push Not at hnone
  refine hi' (((hm.grows hinj hgrows).mem_ids_iff (hmade.grows hm hinj hgrows)).2 ?_)
  obtain ⟨before, u, since, hsince, hopen⟩ := (hm.mem_ids_iff hmade).1 hi
  have hsince' : m.history = before ++ .requested i u :: since := hsince
  refine ⟨before, u, since ++ later, ?_, ?_⟩
  · change (m.turn t).history = _
    rw [hsplit, hsince', List.append_assoc, List.cons_append]
  · intro e he
    rcases List.mem_append.1 he with he | he
    · exact hopen e he
    · exact hnone e he

/-- What leaves the table in a turn leaves it alone. -/
lemma mem_ids_turn_of_ne {t : Turn} {i j : MessageId}
    (hi : i ∈ m.pending.ids) (hi' : i ∉ (m.turn t).pending.ids) (hj : j ∈ m.pending.ids)
    (hji : j ≠ i) : j ∈ (m.turn t).pending.ids := by
  rcases m.pending_turn t with hsame | ⟨k, hforget⟩ | ⟨u, p, -, htrack⟩
  · rw [hsame]
    exact hj
  · rw [hforget, Pending.mem_ids_forget] at hi' ⊢
    -- what was taken out is `i`
    have hik : i = k := by
      by_contra hne
      exact hi' ⟨hi, hne⟩
    exact ⟨hj, fun hjk => hji (hjk.trans hik.symm)⟩
  · rw [htrack]
    exact Pending.mem_ids_track.2 (Or.inl hj)

/-- What comes into the table in a turn is a request. -/
lemma exists_request_of_entered {t : Turn} {i : MessageId}
    (hi : i ∉ m.pending.ids) (hi' : i ∈ (m.turn t).pending.ids) :
    ∃ messageType payload, t = .request messageType payload ∧
      i = (m.beginRequest messageType payload).2 := by
  rcases m.pending_turn t with hsame | ⟨k, hforget⟩ | ⟨u, p, rfl, htrack⟩
  · rw [hsame] at hi'
    exact absurd hi' hi
  · rw [hforget, Pending.mem_ids_forget] at hi'
    exact absurd hi'.1 hi
  · refine ⟨u, p, rfl, ?_⟩
    rw [htrack, Pending.mem_ids_track] at hi'
    rw [snd_beginRequest]
    exact hi'.resolve_left hi

/-- A request that cannot be posted leaves no trace in the table, and comes to what is wrong. -/
lemma resume_of_refused (hm : m.books.Sound) {t : String} {p : Option Value}
    {err : MessengerError} (h : m.refusal? t p = some err) :
    ((m.beginRequest t p).1.resume (m.beginRequest t p).2).pending = m.pending ∧
      ((m.beginRequest t p).1.resume (m.beginRequest t p).2).outcome? (m.beginRequest t p).2 =
        some (.error err) := by
  have hpost : (m.post t p).2.2 = .error err := by
    rw [refusal?] at h
    split at h
    · cases h
    · cases h
      assumption
  have hbooks := m.books_beginRequest_of_error hpost
  have hrefusals : (m.beginRequest t p).1.refusals.lookup (m.freshIds m.issued) = some err :=
    (congrArg (List.lookup m.books.nextId) (congrArg Books.refusals hbooks)).trans
      List.lookup_cons_self
  have hnews : (m.beginRequest t p).1.news? (m.freshIds m.issued) = some (.error err) := by
    simp only [news?, hrefusals]
  rw [snd_beginRequest]
  constructor
  · have hforgotten : ((m.beginRequest t p).1.dismiss (m.freshIds m.issued)).pending =
        (m.pending.track (m.books.newRequest t)).forget (m.freshIds m.issued) :=
      congrArg (Pending.forget · (m.freshIds m.issued)) (m.pending_beginRequest t p)
    rw [resume, hnews]
    exact hforgotten.trans (Pending.forget_track (w := m.books.newRequest t) hm.nextId_notMem)
  · have houtcomes : (m.books.make t).outcomes m.books.nextId = [] :=
      (Books.outcomes_record _).trans ((List.append_nil _).trans hm.outcomes_nextId)
    have hnone : (m.beginRequest t p).1.outcome? (m.freshIds m.issued) = none := by
      rw [outcome?_eq_head?, hbooks]
      exact congrArg List.head? houtcomes
    rw [outcome?_resume, hnone, hnews]
    rfl

/-- A request that cannot be posted comes to what is wrong, sooner or later. -/
lemma outcome?_resume_of_refused (hm : m.books.Sound) (hinj : Function.Injective m.freshIds)
    {t : String} {p : Option Value} {err : MessengerError} (h : m.refusal? t p = some err)
    (us : List Turn) {m' : Messenger} (hm' : m' = (m.beginRequest t p).1.run us)
    (hkept : .abandoned (m.beginRequest t p).2 ∉ m'.history) :
    (m'.resume (m.beginRequest t p).2).outcome? (m.beginRequest t p).2 = some (.error err) ∧
      (m.beginRequest t p).2 ∉ (m'.resume (m.beginRequest t p).2).pending.ids := by
  obtain ⟨later, hc⟩ := exists_correlates m hm hinj t p us
  rw [← hm'] at hc
  have houtcome := hc.unposted err h fun hmem => hkept (by
    rw [hc.history_eq]
    exact List.mem_append_right _ (List.mem_cons_of_mem _ hmem))
  refine ⟨houtcome, fun hid => ?_⟩
  -- what has ended is not open any more
  have hgrows : m.books.Grows (m'.resume (m.beginRequest t p).2).books := by
    rw [hm']
    exact ((m.grows_beginRequest t p).trans (grows_run _ us)).trans (grows_resume _ _)
  have hsound : (m'.resume (m.beginRequest t p).2).books.Sound := hm.grows hinj hgrows
  have hopen := hsound.isOpen_iff.1 (Or.inl hid)
  rw [outcome?_eq_of_sound hsound] at houtcome
  cases hf : (m'.resume (m.beginRequest t p).2).books.fate (m.beginRequest t p).2 with
  | ended r o =>
    rw [hf] at hopen
    exact hopen
  | _ =>
    rw [hf] at houtcome
    cases houtcome

/-- A messenger whose books are in order keeps account of its requests. -/
lemma keepsAccount_of_sound (hm : m.books.Sound) (hmade : m.books.MadeOnce)
    (hinj : Function.Injective m.freshIds) : m.KeepsAccount := by
  have hmem : ∀ id, id ∈ m.pending.ids ↔ Fate.IsOutstanding id m.history :=
    fun id => hm.mem_ids_iff hmade
  constructor
  case nodup => exact hm.nodup
  case mem_iff => exact hmem
  case size_eq =>
    exact (Pending.size_eq_ncard hm.nodup).trans (congrArg Set.ncard (Set.ext hmem))
  case refused =>
    intro t p err h
    exact ⟨(resume_of_refused hm h).1,
      fun us hkept => outcome?_resume_of_refused hm hinj h us rfl hkept⟩
  case ignored =>
    intro hpolicy t p e he habsent
    have hposted := refusal?_of_ignored hpolicy he habsent
    refine ⟨?_, ?_, fun us => pending_or_settled hm hmade hinj hposted us rfl rfl⟩
    · rw [snd_perform_post, hposted]
      rfl
    · rw [snd_beginRequest, pending_beginRequest, Pending.mem_ids_track]
      exact Or.inr rfl
  case failed =>
    intro hpolicy t p e he
    have hrefused := refusal?_of_failing hpolicy he
    refine ⟨?_, (resume_of_refused hm hrefused).2⟩
    rw [snd_perform_post, hrefused]
    rfl
  case removed =>
    intro t i hi hi'
    exact ⟨exists_decides_of_removed hm hmade hinj hi hi',
      fun j hj hji => mem_ids_turn_of_ne hi hi' hj hji⟩
  case entered => exact fun t i hi hi' => exists_request_of_entered hi hi'
  case heeds => exact heeds_of_sound hm

/-- **The table of requests.**  At every moment of every run the table of a messenger holds the
requests that are outstanding, each of them once, and no others.  A request that is refused leaves
no trace in it, an absent transport is treated as the policy says, a request is taken out alone, and
only requests are entered. -/
theorem run_keepsAccount (destination : Destination) (transport : Transport)
    (config : MessagingConfig) (freshIds : ℕ → MessageId) (hinj : Function.Injective freshIds)
    (ts : List Turn) : ((ofConfig destination transport config freshIds).run ts).KeepsAccount := by
  have hgrows := (ofConfig destination transport config freshIds).grows_run ts
  have hsound := sound_books_ofConfig destination transport config freshIds
  have hmade : (ofConfig destination transport config freshIds).books.MadeOnce := by
    intro id before t later h
    exact absurd h.symm (List.append_ne_nil_of_right_ne_nil _ (List.cons_ne_nil _ _))
  have hfresh : ((ofConfig destination transport config freshIds).run ts).freshIds = freshIds :=
    hgrows.freshIds_eq
  exact keepsAccount_of_sound (hsound.grows hinj hgrows) (hmade.grows hsound hinj hgrows)
    (by rw [hfresh]; exact hinj)

/-- Four requests of a webview whose host cannot be reached, though a message comes in all the same:
one is answered, one is given up and one lapses, while the last, which was made later, still
waits. -/
theorem run_keepsAccount_detached :
    let reply : IncomingMessage := ⟨"getPearAuth", .null, some (tallyId 2)⟩
    let m := (ofConfig .creator .detached {} tallyId).run
      [.request "ProcessLLM" none, .request "SubmitIdea" none, .request "getPearAuth" none,
        .wait 9000, .request "Close" none, .act (.receive reply), .step, .abandon (tallyId 1),
        .wait 1000, .resume (tallyId 0), .resume (tallyId 2), .resume (tallyId 3)]
    Function.Injective tallyId ∧ m.KeepsAccount ∧ m.pending.ids = [tallyId 3] ∧
      m.outcome? (tallyId 2) = some (.ok reply) :=
  ⟨tallyId_injective, run_keepsAccount .creator .detached {} tallyId tallyId_injective _,
    by decide, rfl⟩

end Messenger

end WebviewBridge
