import WebviewBridge.Proofs.Messenger.Arrivals

/-!
# Requests and their answers

A request ends at most once.  It ends with the first message that answers it, if that comes in
before the request fails, and if the request can be posted and is not given up; and it fails only
because its message cannot be posted, or because nothing decided about it for as long as it may
wait.  This holds for every run of a messenger whose identifiers are distinct, in whatever order
things happen.

The proof follows one request, `w`, through the books.  `Books.Follows` says that the table never
holds another request of its identifier, that what was wrong with its message is kept until it is
taken up, and in which ways it may have ended.  From this it can be read off what the request comes
to when it is resumed (`Messenger.outcome?_resume_of_follows`).  What is known of a messenger some
turns after a request is collected in `Messenger.Since`, and each of the promises follows from that.
-/

namespace WebviewBridge

open Json

/-- What a request comes to when it is resumed, if its message could not be posted, or else may have
waited long enough. -/
def Fate.comesTo? (refusal timeout : Option MessengerError) :
    Fate → Option (Except MessengerError IncomingMessage)
  | waiting _ => (refusal.or timeout).map .error
  | answered x => some (refusal.elim (.ok x) .error)
  | ended _ o => some o
  | _ => none

namespace Books

variable {b b' : Books} {id : MessageId} {w : Waiting} {refusal : Option MessengerError}

/-- The ways in which a request may have ended, with its answer if one had come in. -/
inductive Ends (b : Books) (w : Waiting) : Option MessengerError → Option IncomingMessage →
    Except MessengerError IncomingMessage → Prop
  | refused (err : MessengerError) (reply : Option IncomingMessage) :
      Ends b w (some err) reply (.error err)
  | replied (x : IncomingMessage) : Ends b w none (some x) (.ok x)
  | lapsed (hdue : w.deadline ≤ b.now) :
      Ends b w none none (.error (.timeout w.messageType b.timeoutMs))

lemma Ends.mono {r : Option IncomingMessage} {o : Except MessengerError IncomingMessage}
    (h : b.Ends w refusal r o) (hnow : b.now ≤ b'.now) (htimeout : b'.timeoutMs = b.timeoutMs) :
    b'.Ends w refusal r o := by
  cases h with
  | refused err r => exact .refused err r
  | replied x => exact .replied x
  | lapsed hdue =>
    rw [← htimeout]
    exact .lapsed (Nat.le_trans hdue hnow)

variable {f : Fate} {timeout : Option MessengerError}

/-- What could be posted comes to an answer if one has come in, and otherwise to none. -/
lemma comesTo?_eq_ok_iff (hends : ∀ r o, f = .ended r o → b.Ends w none r o)
    {x : IncomingMessage} : f.comesTo? none timeout = some (.ok x) ↔ f.reply? = some x := by
  cases f with
  | waiting t => cases timeout <;> simp [Fate.comesTo?, Fate.reply?]
  | answered y => simp [Fate.comesTo?, Fate.reply?]
  | ended r o => cases hends r o rfl <;> simp [Fate.comesTo?, Fate.reply?]
  | _ => simp [Fate.comesTo?, Fate.reply?]

/-- What could not be posted comes to what is wrong with it, unless it is given up. -/
lemma comesTo?_of_refused {err : MessengerError}
    (hends : ∀ r o, f = .ended r o → b.Ends w (some err) r o) (hmade : f ≠ .unmade)
    (hkept : f ≠ .abandoned) : f.comesTo? (some err) timeout = some (.error err) := by
  cases f with
  | unmade => exact absurd rfl hmade
  | waiting t => rfl
  | answered y => rfl
  | ended r o =>
    cases hends r o rfl
    rfl
  | abandoned => exact absurd rfl hkept

/-- What comes to a failure could not be posted, or has waited long enough. -/
lemma of_comesTo?_eq_error (hends : ∀ r o, f = .ended r o → b.Ends w refusal r o)
    {err : MessengerError} (h : f.comesTo? refusal timeout = some (.error err)) :
    refusal = some err ∨ refusal = none ∧
      (timeout = some err ∨
        w.deadline ≤ b.now ∧ err = .timeout w.messageType b.timeoutMs) := by
  cases f with
  | waiting t =>
    cases refusal with
    | some e =>
      cases h
      exact Or.inl rfl
    | none =>
      obtain ⟨e, he, heq⟩ := Option.map_eq_some_iff.1 h
      cases heq
      exact Or.inr ⟨rfl, Or.inl he⟩
  | answered y =>
    cases refusal with
    | some e =>
      cases h
      exact Or.inl rfl
    | none => cases h
  | ended r o =>
    cases h
    cases hends r (.error err) rfl with
    | refused err r => exact Or.inl rfl
    | lapsed hdue => exact Or.inr ⟨rfl, Or.inr ⟨hdue, rfl⟩⟩
  | _ => cases h

/-- The books of a messenger of which the request `w` was made, and what was wrong with its
message. -/
structure Follows (w : Waiting) (refusal : Option MessengerError) (b : Books) : Prop where
  issued : ∃ n, n < b.issued ∧ b.freshIds n = w.id
  same : ∀ v, b.pending.find? w.id = some v → v = w
  refused : (b.fate w.id).IsOpen → b.refusals.lookup w.id = refusal
  ends : ∀ r o, b.fate w.id = .ended r o → b.Ends w refusal r o

namespace Follows

/-- An entry that says nothing about the request. -/
lemma of_same (hb : b.Follows w refusal) (h : Entry b b') (hsame : SameFor w.id b b') :
    b'.Follows w refusal where
  issued := by
    obtain ⟨n, hn, heq⟩ := hb.issued
    exact ⟨n, Nat.lt_of_lt_of_le hn h.issued_le, by rw [h.freshIds_eq, heq]⟩
  same v hv := by
    rw [hsame.pending] at hv
    exact hb.same v hv
  refused hopen := by
    rw [hsame.fate] at hopen
    rw [hsame.refusals, hb.refused hopen]
  ends r o hend := by
    rw [hsame.fate] at hend
    exact (hb.ends r o hend).mono h.now_le h.timeoutMs_eq

/-- An entry that takes the request out of the table. -/
lemma of_taken (hb : b.Follows w refusal) (h : Entry b b')
    (hnone : b'.pending.find? w.id = none)
    (hrefused : (b'.fate w.id).IsOpen → b'.refusals.lookup w.id = refusal)
    (hends : ∀ r o, b'.fate w.id = .ended r o → b'.Ends w refusal r o) :
    b'.Follows w refusal where
  issued := by
    obtain ⟨n, hn, heq⟩ := hb.issued
    exact ⟨n, Nat.lt_of_lt_of_le hn h.issued_le, by rw [h.freshIds_eq, heq]⟩
  same v hv := by
    rw [hnone] at hv
    cases hv
  refused := hrefused
  ends := hends

/-- The identifier of a request is not given to another. -/
lemma ne_nextId (hb : b.Follows w refusal) (hinj : Function.Injective b.freshIds) :
    w.id ≠ b.nextId := by
  obtain ⟨n, hn, heq⟩ := hb.issued
  intro h
  exact Nat.ne_of_lt hn (hinj (heq.trans h))

/-- Whoever takes up what there is for the request hears what was wrong with it, its answer, or that
it has waited long enough. -/
lemma ends_of_news? (hb : b.Follows w refusal) (hs : b.Sound)
    {o : Except MessengerError IncomingMessage} (ho : b.news? w.id = some o)
    {r : Option IncomingMessage} (hreply : (b.fate w.id).reply? = r)
    (hok : ∀ x, o = .ok x → r = some x) : b.Ends w refusal r o := by
  have hrefused := hb.refused (hs.isOpen_of_news? ho)
  rcases news?_cases ho with ⟨e, he, rfl⟩ | ⟨hnone, ⟨x, -, rfl⟩ | ⟨v, hv, hdue, rfl⟩⟩
  · rw [he] at hrefused
    rw [← hrefused]
    exact .refused e r
  · rw [hnone] at hrefused
    rw [← hrefused, hok x rfl]
    exact .replied x
  · rw [hnone] at hrefused
    obtain rfl := hb.same v hv
    rw [((hs.agrees v.id).waiting_iff _).2 ⟨v, hv, rfl⟩] at hreply
    rw [← hrefused, ← hreply]
    exact .lapsed hdue

theorem entry (hb : b.Follows w refusal) (hs : b.Sound) (hinj : Function.Injective b.freshIds)
    (h : Entry b b') : b'.Follows w refusal := by
  have hnext := hb.ne_nextId hinj
  have hentry := h
  cases h with
  | issue => exact hb.of_same hentry ⟨rfl, rfl, rfl, rfl, rfl, fun h => h⟩
  | wait ms => exact hb.of_same hentry ⟨rfl, rfl, rfl, rfl, rfl, fun h => h⟩
  | note e he => exact hb.of_same hentry (.record (he w.id))
  | overhear x hx => exact hb.of_same hentry (hs.overhear hx w.id)
  | answer v x hv hx =>
    by_cases hvw : w.id = v.id
    · have hwaiting : b.fate v.id = .waiting v.messageType :=
        ((hs.agrees v.id).waiting_iff _).2 ⟨v, Pending.find?_of_mem hs.nodup hv, rfl⟩
      have hopen : (b.fate w.id).IsOpen := by
        rw [hvw, hwaiting]
        trivial
      refine hb.of_taken hentry ?_ (fun _ => hb.refused hopen) ?_
      · rw [hvw]
        exact Pending.find?_forget_self _ _
      · intro r o hend
        rw [hvw, fate_reply, fate_record, hwaiting, Fate.after_waiting_arrived hx] at hend
        cases hend
    · have harrived : SameFor w.id b (b.record (.arrived x)) :=
        .record fun hx' : x.Answers w.id => hvw (hx'.id_unique hx)
      exact hb.of_same hentry (harrived.trans (.reply hvw x))
  | make t => exact hb.of_same hentry (.make hnext t)
  | refuse t err =>
    have hmade : SameFor w.id b (b.make t) := .make hnext t
    exact hb.of_same hentry (hmade.trans (.refuse hnext err))
  | resume i o ho =>
    by_cases hi : w.id = i
    · subst hi
      obtain ⟨r, hfate, hreply, hok⟩ := hs.fate_resume ho
      refine hb.of_taken hentry (Pending.find?_forget_self _ _) ?_ ?_
      · intro hopen
        rw [hfate] at hopen
        exact hopen.elim
      · intro r' o' hend
        rw [hfate] at hend
        cases hend
        exact (hb.ends_of_news? hs ho hreply hok).mono (Nat.le_refl _) rfl
    · have hdismissed : SameFor w.id b (b.dismiss i) := .dismiss hi
      exact hb.of_same hentry (hdismissed.trans (.record fun h : i = w.id => hi h.symm))
  | abandon i hid =>
    by_cases hi : w.id = i
    · subst hi
      have hfate : ((b.dismiss w.id).record (.abandoned w.id)).fate w.id = .abandoned := by
        rw [fate_record, fate_dismiss, Fate.after_abandoned_of_isOpen (hs.isOpen_iff.1 hid)]
      refine hb.of_taken hentry (Pending.find?_forget_self _ _) ?_ ?_
      · intro hopen
        rw [hfate] at hopen
        exact hopen.elim
      · intro r o hend
        rw [hfate] at hend
        cases hend
    · have hdismissed : SameFor w.id b (b.dismiss i) := .dismiss hi
      exact hb.of_same hentry (hdismissed.trans (.record fun h : i = w.id => hi h.symm))

theorem grows (hb : b.Follows w refusal) (hs : b.Sound) (hinj : Function.Injective b.freshIds)
    (h : b.Grows b') : b'.Follows w refusal := by
  induction h with
  | refl => exact hb
  | tail hgrows hentry ih =>
    refine ih.entry (hs.grows hinj hgrows) ?_ hentry
    rw [Grows.freshIds_eq hgrows]
    exact hinj

end Follows

/-- A request that is made is followed from then on. -/
lemma Sound.follows_make (hb : b.Sound) (t : String) :
    (b.make t).Follows (b.newRequest t) none where
  issued := ⟨b.issued, Nat.lt_succ_self _, rfl⟩
  same v hv := by
    have hself := Pending.find?_track_self b.pending (b.newRequest t)
    exact Option.some.inj (hv.symm.trans hself)
  refused _ := by
    have hclosed : ¬ (b.fate b.nextId).IsOpen := by
      rw [nextId, hb.unmade b.issued (Nat.le_refl _)]
      exact fun h => h
    exact (hb.lookup_eq_none hclosed).2.2
  ends r o hend := by
    rw [show (b.newRequest t).id = b.nextId from rfl, hb.fate_make t] at hend
    cases hend

/-- A request that is refused is followed, and what is wrong with it is known. -/
lemma Sound.follows_refuse (hb : b.Sound) (t : String) (err : MessengerError) :
    ((b.make t).refuse b.nextId err).Follows (b.newRequest t) (some err) where
  issued := ⟨b.issued, Nat.lt_succ_self _, rfl⟩
  same := (hb.follows_make t).same
  refused _ := List.lookup_cons_self
  ends r o hend := by
    have hmade : (b.make t).fate (b.newRequest t).id = .waiting t := hb.fate_make t
    have hend' : (b.make t).fate (b.newRequest t).id = .ended r o := hend
    rw [hmade] at hend'
    cases hend'

/-! ### What has happened since a request was made -/

variable {t : String} {later : List Event}

/-- The fate of a request is what the history makes of it since it was made. -/
lemma Sound.fate_nextId (hb : b.Sound)
    (h : b'.history = b.history ++ .requested b.nextId t :: later) :
    b'.fate b.nextId = later.foldl (Fate.after b.nextId) (.waiting t) := by
  have hunmade : Fate.ofHistory b.nextId b.history = .unmade := hb.unmade b.issued (Nat.le_refl _)
  have hmade : Fate.unmade.after b.nextId (.requested b.nextId t) = .waiting t := if_pos rfl
  rw [fate, h, Fate.ofHistory_append, hunmade, List.foldl_cons, hmade]

/-- A request was given up if that has happened since it was made. -/
lemma Sound.fate_nextId_eq_abandoned_iff (hb : b.Sound) (hb' : b'.Sound)
    (h : b'.history = b.history ++ .requested b.nextId t :: later) :
    b'.fate b.nextId = .abandoned ↔ .abandoned b.nextId ∈ later := by
  constructor
  · intro hfate
    have hmem := Fate.mem_of_ofHistory_eq_abandoned hfate
    rw [h] at hmem
    rcases List.mem_append.1 hmem with hold | hnew
    · have habandoned := (hb.agrees b.nextId).abandoned hold
      rw [nextId, hb.unmade b.issued (Nat.le_refl _)] at habandoned
      cases habandoned
    · rcases List.mem_cons.1 hnew with hmade | hlater
      · cases hmade
      · exact hlater
  · intro hmem
    refine (hb'.agrees b.nextId).abandoned ?_
    rw [h]
    exact List.mem_append_right _ (List.mem_cons_of_mem _ hmem)

end Books

namespace Messenger

/-- What is wrong with a message, if it cannot be posted. -/
def refusal? (m : Messenger) (t : String) (p : Option Value) : Option MessengerError :=
  match (m.post t p).2.2 with
  | .ok _ => none
  | .error err => some err

/-- A request is followed from the moment at which it is made. -/
lemma follows_beginRequest (m : Messenger) (hm : m.books.Sound)
    (hinj : Function.Injective m.freshIds) (t : String) (p : Option Value) :
    (m.beginRequest t p).1.books.Follows (m.books.newRequest t) (m.refusal? t p) := by
  rw [refusal?]
  split
  · rename_i hpost
    rcases m.books_beginRequest_of_ok hpost with hbooks | hbooks <;> rw [hbooks]
    · exact hm.follows_make t
    · exact (hm.follows_make t).entry (hm.make hinj t) hinj (.note _ _ (Event.isNeutral_posted _))
  · rename_i err hpost
    rw [m.books_beginRequest_of_error hpost]
    exact hm.follows_refuse t err

/-- What a request that is followed comes to can be read off its fate. -/
lemma outcome?_resume_of_follows {m : Messenger} (hm : m.books.Sound) {w : Waiting}
    {refusal : Option MessengerError} (hw : m.books.Follows w refusal) :
    (m.resume w.id).outcome? w.id = (m.books.fate w.id).comesTo? refusal
      (if w.deadline ≤ m.now then some (.timeout w.messageType m.timeoutMs.toNat) else none) := by
  have hid := hm.agrees w.id
  have hrefused := hw.refused
  have hclosed := fun h : ¬ (m.books.fate w.id).IsOpen => hm.lookup_eq_none h
  rw [outcome?_resume, outcome?_eq_of_sound hm]
  cases hf : m.books.fate w.id with
  | waiting t =>
    obtain ⟨v, hv, -⟩ := (hid.waiting_iff t).1 hf
    obtain rfl := hw.same v hv
    have hrefusals : m.refusals.lookup v.id = refusal := hrefused (by rw [hf]; trivial)
    have hreplies : m.replies.lookup v.id = none := by
      refine Option.eq_none_iff_forall_not_mem.2 fun x hx => ?_
      have hanswered := (hid.replied_iff x).2 hx
      rw [hf] at hanswered
      cases hanswered
    have hoverdue : m.pending.overdue? v.id m.now =
        if v.deadline ≤ m.now then some v else none := by
      have hfind : m.pending.find? v.id = some v := hv
      rw [Pending.overdue?, hfind, Option.filter_some]
      simp
    cases refusal with
    | some err => simp only [Fate.outcome?, Fate.comesTo?, news?, hrefusals]; rfl
    | none =>
      simp only [Fate.outcome?, Fate.comesTo?, news?, hrefusals, hreplies, hoverdue]
      split <;> rfl
  | answered x =>
    have hrefusals : m.refusals.lookup w.id = refusal := hrefused (by rw [hf]; trivial)
    have hreplies : m.replies.lookup w.id = some x := (hid.replied_iff x).1 hf
    cases refusal with
    | some err => simp only [Fate.outcome?, Fate.comesTo?, news?, hrefusals]; rfl
    | none => simp only [Fate.outcome?, Fate.comesTo?, news?, hrefusals, hreplies]; rfl
  | ended r o => rfl
  | _ =>
    have hnone := hclosed (by rw [hf]; exact fun h => h)
    have hpending : m.pending.find? w.id = none := hnone.1
    have hreplies : m.replies.lookup w.id = none := hnone.2.1
    have hrefusals : m.refusals.lookup w.id = none := hnone.2.2
    simp only [Fate.outcome?, Fate.comesTo?, news?, hrefusals, hreplies, Pending.overdue?, hpending]
    rfl

/-! ## From a request on -/

/-- A new request is entered right after what was recorded before it. -/
lemma history_beginRequest (m : Messenger) (t : String) (p : Option Value) :
    m.history ++ [.requested (m.freshIds m.issued) t] <+: (m.beginRequest t p).1.history := by
  change _ <+: (m.beginRequest t p).1.books.history
  cases h : (m.post t p).2.2 with
  | ok r =>
    rcases m.books_beginRequest_of_ok h with hbooks | hbooks
    · rw [hbooks]
      exact List.prefix_refl _
    · rw [hbooks]
      exact List.prefix_append _ _
  | error err =>
    rw [m.books_beginRequest_of_error h]
    exact List.prefix_refl _

/-- From a messenger of which a request was made to what it has become since: `later` is what has
happened. -/
structure Since (m₁ : Messenger) (t : String) (p : Option Value) (later : List Event)
    (m : Messenger) : Prop where
  before : m₁.books.Sound
  sound : m.books.Sound
  follows : m.books.Follows (m₁.books.newRequest t) (m₁.refusal? t p)
  timeoutMs_eq : m.timeoutMs.toNat = m₁.timeoutMs.toNat
  history_eq : m.history = m₁.history ++ .requested m₁.books.nextId t :: later

lemma exists_since (m₁ : Messenger) (hm : m₁.books.Sound) (hinj : Function.Injective m₁.freshIds)
    (t : String) (p : Option Value) (us : List Turn) :
    ∃ later, m₁.Since t p later ((m₁.beginRequest t p).1.run us) := by
  have hbegun := m₁.grows_beginRequest t p
  have hrun := (m₁.beginRequest t p).1.grows_run us
  have hinj' : Function.Injective (m₁.beginRequest t p).1.books.freshIds := by
    rw [hbegun.freshIds_eq]
    exact hinj
  obtain ⟨later, hlater⟩ := (m₁.history_beginRequest t p).trans hrun.history_prefix
  refine ⟨later, hm, hm.grows hinj (hbegun.trans hrun), ?_, ?_, ?_⟩
  · exact (m₁.follows_beginRequest hm hinj t p).grows (hm.grows hinj hbegun) hinj' hrun
  · exact (hbegun.trans hrun).timeoutMs_eq
  · rw [List.append_cons]
    exact hlater.symm

namespace Since

variable {m₁ m : Messenger} {t : String} {p : Option Value} {later : List Event}
  (h : m₁.Since t p later m)

include h

lemma mem_history {e : Event} (he : e ∈ later) : e ∈ m.history := by
  rw [h.history_eq]
  exact List.mem_append_right _ (List.mem_cons_of_mem _ he)

lemma fate_eq : m.books.fate m₁.books.nextId =
    later.foldl (Fate.after m₁.books.nextId) (.waiting t) :=
  h.before.fate_nextId h.history_eq

lemma fate_eq_abandoned_iff :
    m.books.fate m₁.books.nextId = .abandoned ↔ .abandoned m₁.books.nextId ∈ later :=
  h.before.fate_nextId_eq_abandoned_iff h.sound h.history_eq

lemma fate_ne_unmade : m.books.fate m₁.books.nextId ≠ .unmade := by
  have hwaiting : Fate.waiting t ≠ .unmade := by
    intro heq
    cases heq
  rw [h.fate_eq]
  exact Fate.foldl_after_ne_unmade hwaiting later

lemma deadline_eq : (m₁.books.newRequest t).deadline = m₁.now + m.timeoutMs.toNat := by
  rw [h.timeoutMs_eq]
  rfl

lemma ends_once : (m.history.filterMap (Event.outcomeFor? m₁.books.nextId)).length ≤ 1 := by
  change (m.books.outcomes m₁.books.nextId).length ≤ 1
  rw [(h.sound.agrees m₁.books.nextId).outcomes]
  cases (m.books.fate m₁.books.nextId).outcome? <;> simp

/-- What the request comes to can be read off its fate. -/
lemma outcome?_resume : (m.resume m₁.books.nextId).outcome? m₁.books.nextId =
    (m.books.fate m₁.books.nextId).comesTo? (m₁.refusal? t p)
      (if m₁.now + m.timeoutMs.toNat ≤ m.now then some (.timeout t m.timeoutMs.toNat)
        else none) := by
  have houtcome := outcome?_resume_of_follows h.sound h.follows
  rw [h.deadline_eq] at houtcome
  exact houtcome

/-- If it could be posted, it comes to the first answer, unless something else decides before. -/
lemma answered_iff (hposted : m₁.refusal? t p = none) {x : IncomingMessage} :
    (m.resume m₁.books.nextId).outcome? m₁.books.nextId = some (.ok x) ↔
      Fate.IsFirstDecision m₁.books.nextId later (.arrived x) ∧
        .abandoned m₁.books.nextId ∉ later := by
  have hends : ∀ r o, m.books.fate m₁.books.nextId = .ended r o →
      m.books.Ends (m₁.books.newRequest t) none r o := by
    rw [← hposted]
    exact h.follows.ends
  rw [h.outcome?_resume, hposted, Books.comesTo?_eq_ok_iff hends, ← h.fate_eq_abandoned_iff,
    h.fate_eq, Fate.reply?_foldl_eq_some_iff]

lemma failed {err : MessengerError}
    (herr : (m.resume m₁.books.nextId).outcome? m₁.books.nextId = some (.error err)) :
    m₁.refusal? t p = some err ∨ m₁.refusal? t p = none ∧
      err = .timeout t m.timeoutMs.toNat ∧ m₁.now + m.timeoutMs.toNat ≤ m.now := by
  rw [h.outcome?_resume] at herr
  rcases Books.of_comesTo?_eq_error h.follows.ends herr with
    hrefused | ⟨hposted, hlate | ⟨hdue, rfl⟩⟩
  · exact Or.inl hrefused
  · split at hlate
    · cases hlate
      exact Or.inr ⟨hposted, rfl, ‹_›⟩
    · cases hlate
  · rw [h.deadline_eq] at hdue
    exact Or.inr ⟨hposted, rfl, hdue⟩

/-- If it could not be posted, it comes to what was wrong, whatever has come in. -/
lemma unposted {err : MessengerError} (hrefused : m₁.refusal? t p = some err)
    (hkept : .abandoned m₁.books.nextId ∉ later) :
    (m.resume m₁.books.nextId).outcome? m₁.books.nextId = some (.error err) := by
  have hends : ∀ r o, m.books.fate m₁.books.nextId = .ended r o →
      m.books.Ends (m₁.books.newRequest t) (some err) r o := by
    rw [← hrefused]
    exact h.follows.ends
  rw [← h.fate_eq_abandoned_iff] at hkept
  rw [h.outcome?_resume, hrefused, Books.comesTo?_of_refused hends h.fate_ne_unmade hkept]

lemma outcome?_of_abandoned (habandoned : .abandoned m₁.books.nextId ∈ later) :
    (m.resume m₁.books.nextId).outcome? m₁.books.nextId = none := by
  rw [h.outcome?_resume, h.fate_eq_abandoned_iff.2 habandoned]
  rfl

section Undecided

variable (hposted : m₁.refusal? t p = none)
  (hundecided : ∀ e ∈ later, ¬ e.Decides m₁.books.nextId)

include hundecided

lemma fate_eq_waiting : m.books.fate m₁.books.nextId = .waiting t := by
  rw [h.fate_eq, Fate.foldl_after_waiting_of_not_decides hundecided]

include hposted

lemma lapses (hdue : m₁.now + m.timeoutMs.toNat ≤ m.now) :
    (m.resume m₁.books.nextId).outcome? m₁.books.nextId =
      some (.error (.timeout t m.timeoutMs.toNat)) := by
  rw [h.outcome?_resume, h.fate_eq_waiting hundecided, hposted, if_pos hdue]
  rfl

lemma waits (hearly : m.now < m₁.now + m.timeoutMs.toNat) :
    m₁.books.nextId ∈ m.pending.ids ∧
      (m.resume m₁.books.nextId).outcome? m₁.books.nextId = none := by
  have hwaiting := h.fate_eq_waiting hundecided
  constructor
  · obtain ⟨w, hw, -⟩ := ((h.sound.agrees m₁.books.nextId).waiting_iff t).1 hwaiting
    exact Pending.isSome_find?_iff.1 (Option.isSome_iff_exists.2 ⟨w, hw⟩)
  · rw [h.outcome?_resume, hwaiting, hposted, if_neg (Nat.not_le.2 hearly)]
    rfl

end Undecided

end Since

/-! ## What a request comes to -/

/-- What holds of a request that was made of the messenger `m₁`, once the messenger has become `m`
in some turns: `id` is the identifier of the request, and `later` is what has happened since it was
made.  What the request comes to is what there is on record for it when it is resumed. -/
structure Correlates (m₁ : Messenger) (t : String) (p : Option Value) (id : MessageId)
    (us : List Turn) (later : List Event) (m : Messenger) : Prop where
  history_eq : m.history = m₁.history ++ .requested id t :: later
  /-- What has come in since is what the turns took in. -/
  arrivals_eq : later.filterMap Event.arrival? = (m₁.beginRequest t p).1.takenIn us
  /-- The request was given up since only if this was done in one of the turns. -/
  given_up : .abandoned id ∈ later → .abandon id ∈ us
  /-- The time that has passed since is what the turns let pass. -/
  now_eq : m.now = m₁.now + Turn.elapsed us
  /-- At most one end is on record. -/
  ends_once : (m.history.filterMap (Event.outcomeFor? id)).length ≤ 1
  /-- A request that could be posted comes to an answer exactly if that is the first message to
  answer it, if it came in before the request failed, and if the request was not given up. -/
  answered_iff : m₁.refusal? t p = none → ∀ x, (m.resume id).outcome? id = some (.ok x) ↔
    Fate.IsFirstDecision id later (.arrived x) ∧ .abandoned id ∉ later
  /-- There are two failures: the failure to post, and a lapse after the time that an answer may
  take, with the type of the request and that time. -/
  failed : ∀ err, (m.resume id).outcome? id = some (.error err) →
    m₁.refusal? t p = some err ∨ m₁.refusal? t p = none ∧
      err = .timeout t m.timeoutMs.toNat ∧ m₁.now + m.timeoutMs.toNat ≤ m.now
  /-- A request that could not be posted comes to what was wrong with it, even if it was answered in
  the meantime. -/
  unposted : ∀ err, m₁.refusal? t p = some err → .abandoned id ∉ later →
    (m.resume id).outcome? id = some (.error err)
  /-- A request that was given up comes to nothing. -/
  abandoned : .abandoned id ∈ later → (m.resume id).outcome? id = none
  /-- A request about which nothing has decided for as long as it may wait has lapsed. -/
  lapses : m₁.refusal? t p = none → (∀ e ∈ later, ¬ e.Decides id) →
    m₁.now + m.timeoutMs.toNat ≤ m.now →
    (m.resume id).outcome? id = some (.error (.timeout t m.timeoutMs.toNat))
  /-- Until then it waits. -/
  waits : m₁.refusal? t p = none → (∀ e ∈ later, ¬ e.Decides id) →
    m.now < m₁.now + m.timeoutMs.toNat →
    id ∈ m.pending.ids ∧ (m.resume id).outcome? id = none
  /-- It makes no difference whether the request is resumed alone or with all others for which there
  are news. -/
  concluded : m.conclude.outcome? id = (m.resume id).outcome? id
  /-- A message ends the request of its own identifier only. -/
  own : ∀ i x, m.outcome? i = some (.ok x) → x.Answers i
  /-- No message ends two requests. -/
  single : ∀ i j x, m.outcome? i = some (.ok x) → m.outcome? j = some (.ok x) → i = j
  /-- What comes in next answers the request that waits for it, and no other; what is given up next
  comes to nothing. -/
  heeds : m.Heeds

/-- An answer that a request ended with is a message that answers it. -/
lemma answers_of_outcome? {m : Messenger} (hm : m.books.Sound) {i : MessageId}
    {x : IncomingMessage} (h : m.outcome? i = some (.ok x)) : x.Answers i := by
  rw [outcome?_eq_of_sound hm] at h
  cases hf : m.books.fate i with
  | ended r o =>
    rw [hf] at h
    cases h
    refine Fate.answers_of_reply?_eq (h := m.history) ?_
    have hreply : (m.books.fate i).reply? = some x := by
      rw [hf]
      exact (hm.agrees i).ended r x hf
    exact hreply
  | _ =>
    rw [hf] at h
    cases h

/-- Whoever makes a request of a messenger with sound books gets what is promised. -/
lemma exists_correlates (m₁ : Messenger) (hm : m₁.books.Sound)
    (hinj : Function.Injective m₁.freshIds) (t : String) (p : Option Value) (us : List Turn) :
    ∃ later, m₁.Correlates t p (m₁.beginRequest t p).2 us later
      ((m₁.beginRequest t p).1.run us) := by
  obtain ⟨later, h⟩ := m₁.exists_since hm hinj t p us
  refine ⟨later, ?_⟩
  rw [snd_beginRequest]
  constructor
  case history_eq => exact h.history_eq
  case arrivals_eq =>
    have harrivals := (m₁.beginRequest t p).1.arrivals_run us
    rw [arrivals_beginRequest, arrivals, h.history_eq, List.filterMap_append] at harrivals
    exact List.append_cancel_left harrivals
  case given_up =>
    intro hmem
    refine ((m₁.beginRequest t p).1.mem_abandoned_run (h.mem_history hmem)).resolve_left ?_
    intro hbegun
    -- a new request has not been given up before
    have hold := (hm.agrees m₁.books.nextId).abandoned
      ((m₁.works_beginRequest t p).mem_abandoned hbegun)
    rw [Books.nextId, hm.unmade m₁.books.issued (Nat.le_refl _)] at hold
    cases hold
  case now_eq => rw [now_run, (m₁.works_beginRequest t p).now_eq]
  case ends_once => exact h.ends_once
  case answered_iff => exact fun hposted x => h.answered_iff hposted
  case failed => exact fun err herr => h.failed herr
  case unposted => exact fun err hrefused hkept => h.unposted hrefused hkept
  case abandoned => exact h.outcome?_of_abandoned
  case lapses => exact fun hposted hundecided hdue => h.lapses hposted hundecided hdue
  case waits => exact fun hposted hundecided hearly => h.waits hposted hundecided hearly
  case concluded => exact outcome?_conclude _ _
  case own => exact fun i x hi => answers_of_outcome? h.sound hi
  case single =>
    intro i j x hi hj
    exact (answers_of_outcome? h.sound hi).id_unique (answers_of_outcome? h.sound hj)
  case heeds => exact heeds_of_sound h.sound

/-- Identifiers that tell how many came before. -/
def tallyId (n : ℕ) : MessageId := ⟨String.ofList (List.replicate n 'i')⟩

lemma tallyId_injective : Function.Injective tallyId := by
  intro a b h
  have hlength := congrArg (fun id : MessageId => id.text.toList.length) h
  simpa [tallyId] using hlength

/-- A request is answered while it is posted, and the post fails in the end: the answer comes in,
and takes the request out of the table, but the request comes to the failure. -/
example :
    let lost : Transport :=
      ⟨fun m => ⟨[⟨"getPearAuth", .null, some m.id⟩], .error (.connect "lost")⟩⟩
    let m := ((ofConfig .settings lost {} tallyId).beginRequest "getPearAuth" none).1.run [.step]
    m.arrivals = [⟨"getPearAuth", .null, some (tallyId 0)⟩] ∧ m.pending.ids = [] ∧
      (m.resume (tallyId 0)).outcome? (tallyId 0) =
        some (.error (.transport (.connect "lost"))) :=
  ⟨rfl, rfl, rfl⟩

end Messenger

end WebviewBridge
