import WebviewBridge.Proofs.Messenger.Turns

/-!
# Taking up what there is for a request

Who waits for a request looks, and what there is for the request becomes its outcome; whatever there
is for others stays.  To end all requests for which there are news is to do this for each of them,
so that no request hears anything else than if it were resumed alone
(`Messenger.outcome?_conclude`), and nothing is left to be told (`Messenger.isPrompt_conclude`).
-/

namespace WebviewBridge

namespace Messenger

variable (m : Messenger)

lemma outcome?_record (e : Event) (id : MessageId) :
    (m.record e).outcome? id = (m.outcome? id).or (e.outcomeFor? id) := by
  have hlast : [e].findSome? (Event.outcomeFor? id) = e.outcomeFor? id := by
    cases h : e.outcomeFor? id <;> simp [h]
  rw [← hlast]
  exact List.findSome?_append

/-- What there is for a request is what ends it. -/
lemma outcome?_resume (id : MessageId) :
    (m.resume id).outcome? id = (m.outcome? id).or (m.news? id) := by
  rw [resume]
  split
  · rename_i o ho
    rw [ho, outcome?_record, Event.outcomeFor?_eq_some_iff.2 rfl]
    rfl
  · rename_i hnone
    rw [hnone, Option.or_none]

lemma outcome?_resume_of_ne {id i : MessageId} (h : id ≠ i) :
    (m.resume i).outcome? id = m.outcome? id := by
  rw [resume]
  split
  · rename_i o _
    have hother : Event.outcomeFor? id (.ended i o) = none := if_neg h.symm
    rw [outcome?_record, hother, Option.or_none]
    rfl
  · rfl

/-- For a request that nobody waits for there is nothing. -/
lemma news?_dismiss (id : MessageId) : (m.dismiss id).news? id = none := by
  have hrefusals : (m.refusals.filter (·.1 ≠ id)).lookup id = none := lookup_filter_self _ _
  have hreplies : (m.replies.filter (·.1 ≠ id)).lookup id = none := lookup_filter_self _ _
  have hpending : (m.pending.forget id).overdue? id m.now = none := by
    rw [Pending.overdue?, Pending.find?_forget_self]
    rfl
  simp only [news?, dismiss, hrefusals, hreplies, hpending, Option.map_none]

lemma news?_dismiss_of_ne {id i : MessageId} (h : id ≠ i) :
    (m.dismiss i).news? id = m.news? id := by
  have hrefusals : (m.refusals.filter (·.1 ≠ i)).lookup id = m.refusals.lookup id :=
    lookup_filter_of_ne _ h
  have hreplies : (m.replies.filter (·.1 ≠ i)).lookup id = m.replies.lookup id :=
    lookup_filter_of_ne _ h
  have hpending : (m.pending.forget i).overdue? id m.now = m.pending.overdue? id m.now := by
    rw [Pending.overdue?, Pending.find?_forget_of_ne _ h, Pending.overdue?]
  simp only [news?, dismiss, hrefusals, hreplies, hpending]

/-- What was taken up is there no longer. -/
lemma news?_resume (id : MessageId) : (m.resume id).news? id = none := by
  rw [resume]
  split
  · exact m.news?_dismiss id
  · assumption

lemma news?_resume_of_ne {id i : MessageId} (h : id ≠ i) :
    (m.resume i).news? id = m.news? id := by
  rw [resume]
  split
  · exact m.news?_dismiss_of_ne h
  · rfl

/-! ## All requests for which there are news -/

/-- Whoever there are news for is looked after. -/
lemma mem_ready_of_news? {id : MessageId} {o : Except MessengerError IncomingMessage}
    (h : m.news? id = some o) : id ∈ m.ready := by
  have hlookup : ∀ {α : Type} {l : List (MessageId × α)} {x : α}, l.lookup id = some x →
      id ∈ l.map (·.1) := by
    intro α l x hx
    obtain ⟨before, later, rfl, -⟩ := List.lookup_eq_some_iff.1 hx
    simp
  rw [ready, List.mem_append, List.mem_append]
  rcases Books.news?_cases (b := m.books) h with ⟨e, he, -⟩ | ⟨-, ⟨x, hx, -⟩ | ⟨w, hw, hdue, -⟩⟩
  · exact Or.inl (Or.inl (hlookup he))
  · exact Or.inl (Or.inr (hlookup hx))
  · obtain ⟨hmem, rfl⟩ := Pending.find?_eq_some hw
    exact Or.inr (List.mem_map_of_mem (List.mem_filter.2 ⟨hmem, decide_eq_true hdue⟩))

/-- One after the other, each request gets what there is for it, and nothing is left. -/
lemma outcome?_foldl_resume (ids : List MessageId) (id : MessageId) :
    (ids.foldl resume m).outcome? id =
        (if id ∈ ids then (m.outcome? id).or (m.news? id) else m.outcome? id) ∧
      (ids.foldl resume m).news? id = if id ∈ ids then none else m.news? id := by
  induction ids generalizing m with
  | nil => exact ⟨rfl, rfl⟩
  | cons i ids ih =>
    obtain ⟨houtcome, hnews⟩ := ih (m.resume i)
    rw [List.foldl_cons, houtcome, hnews]
    by_cases hi : id = i
    · subst hi
      simp [news?_resume, outcome?_resume]
    · simp [hi, m.news?_resume_of_ne hi, m.outcome?_resume_of_ne hi]

/-- Who is looked after together with others hears what it would hear alone. -/
theorem outcome?_conclude (id : MessageId) :
    m.conclude.outcome? id = (m.resume id).outcome? id := by
  rw [conclude, (m.outcome?_foldl_resume _ id).1, outcome?_resume]
  split
  · rfl
  · rename_i hid
    have hnone : m.news? id = none :=
      Option.eq_none_iff_forall_not_mem.2 fun o ho => hid (m.mem_ready_of_news? ho)
    rw [hnone, Option.or_none]

/-- There are no news for any request. -/
def IsPrompt (m : Messenger) : Prop := ∀ id, m.news? id = none

lemma isPrompt_conclude : m.conclude.IsPrompt := by
  intro id
  rw [conclude, (m.outcome?_foldl_resume _ id).2]
  split
  · rfl
  · rename_i hid
    exact Option.eq_none_iff_forall_not_mem.2 fun o ho => hid (m.mem_ready_of_news? ho)

variable {m}

lemma IsPrompt.resume_eq (hm : m.IsPrompt) (id : MessageId) : m.resume id = m := by
  rw [resume, hm id]

lemma IsPrompt.conclude_eq (hm : m.IsPrompt) : m.conclude = m := by
  have hall : ∀ ids : List MessageId, ids.foldl resume m = m := by
    intro ids
    induction ids with
    | nil => rfl
    | cons i ids ih => rw [List.foldl_cons, hm.resume_eq, ih]
  exact hall _

/-- To give a request up makes no news. -/
lemma IsPrompt.abandon (hm : m.IsPrompt) (id : MessageId) : (m.abandon id).IsPrompt := by
  intro i
  rw [Messenger.abandon]
  split
  · by_cases hi : i = id
    · subst hi
      exact m.news?_dismiss i
    · exact (m.news?_dismiss_of_ne hi).trans (hm i)
  · exact hm i

/-! ## Messengers with sound books -/

lemma sound_books_ofConfig (destination : Destination) (transport : Transport)
    (config : MessagingConfig) (freshIds : ℕ → MessageId) :
    (ofConfig destination transport config freshIds).books.Sound where
  nodup := List.nodup_nil
  unmade _ _ := rfl
  agrees id :=
    { waiting_iff := fun t => by
        constructor
        · intro h
          cases h
        · rintro ⟨w, hw, -⟩
          cases hw
      replied_iff := fun x => by
        constructor
        · intro h
          cases h
        · intro h
          cases h
      refused := nofun
      ended := nofun
      outcomes := rfl
      abandoned := fun h => absurd h List.not_mem_nil }

variable (m) in
lemma outcome?_eq_head? (id : MessageId) : m.outcome? id = (m.books.outcomes id).head? := by
  rw [outcome?, Books.outcomes, List.head?_filterMap]
  rfl

/-- What a request has come to is what the history says. -/
lemma outcome?_eq_of_sound (hm : m.books.Sound) (id : MessageId) :
    m.outcome? id = (m.books.fate id).outcome? := by
  rw [outcome?_eq_head?, (hm.agrees id).outcomes]
  cases (m.books.fate id).outcome? <;> rfl

/-- Where the books say the same about a request, at the same moment, it comes to the same. -/
lemma outcome?_resume_congr {m' : Messenger} {id : MessageId}
    (h : Books.SameFor id m.books m'.books) (hnow : m'.now = m.now)
    (htimeout : m'.timeoutMs.toNat = m.timeoutMs.toNat) :
    (m'.resume id).outcome? id = (m.resume id).outcome? id := by
  have hoverdue : m'.pending.overdue? id m'.now = m.pending.overdue? id m.now := by
    rw [hnow]
    exact congrArg (Option.filter fun w : Waiting => w.deadline ≤ m.now) h.pending
  have hnews : m'.news? id = m.news? id := by
    have hrefusals : m'.refusals.lookup id = m.refusals.lookup id := h.refusals
    have hreplies : m'.replies.lookup id = m.replies.lookup id := h.replies
    simp only [news?, hrefusals, hreplies, hoverdue, htimeout]
  rw [outcome?_resume, outcome?_resume, hnews, outcome?_eq_head?, outcome?_eq_head?, h.outcomes]

end Messenger

end WebviewBridge
