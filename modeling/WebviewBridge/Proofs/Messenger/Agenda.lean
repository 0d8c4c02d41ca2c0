import Mathlib.Logic.Function.Iterate
import WebviewBridge.Proofs.Messenger.Turns

/-!
# Tasks and all that they set off

A task may set off others, which are done before the tasks that were there already.  So some tasks
are carried out one after the other, each with all that it sets off (`Messenger.Carries`), whatever
else stands on the agenda: neither what a task does nor what it sets off depends on the rest of the
agenda (`Messenger.carryOut_withAgenda`).

Main statement: to carry out some tasks with all that they set off is to put them on the agenda and
do one step after the other until none of them is left (`Messenger.carries_iff_iterate_step`).
-/

namespace WebviewBridge

open Json

namespace Messenger

variable (m : Messenger)

/-- A messenger with another agenda. -/
def withAgenda (ts : List Task) : Messenger := { m with agenda := ts }

@[simp] lemma agenda_withAgenda (ts : List Task) : (m.withAgenda ts).agenda = ts := rfl

@[simp] lemma withAgenda_withAgenda (ts us : List Task) :
    (m.withAgenda ts).withAgenda us = m.withAgenda us := rfl

@[simp] lemma withAgenda_agenda : m.withAgenda m.agenda = m := rfl

lemma schedule_eq (ts : List Task) : m.schedule ts = m.withAgenda (ts ++ m.agenda) := rfl

/-! ## What a task does, whatever else is to be done -/

lemma handOver_withAgenda (ts : List Task) (x : OutgoingMessage) :
    (m.withAgenda ts).handOver x = ((m.handOver x).1.withAgenda ts, (m.handOver x).2) := by
  have htransport : (m.withAgenda ts).transport = m.transport := rfl
  have hpolicy : (m.withAgenda ts).policy = m.policy := rfl
  simp only [handOver, htransport, hpolicy]
  split
  · rfl
  · split <;> rfl

lemma post_withAgenda (ts : List Task) (t : String) (p : Option Value) :
    (m.withAgenda ts).post t p = ((m.post t p).1.withAgenda ts, (m.post t p).2) := by
  have hcompose : (m.withAgenda ts).compose t p =
      ((m.compose t p).1.withAgenda ts, (m.compose t p).2) := rfl
  rw [post_eq, post_eq, hcompose]
  dsimp only
  rw [handOver_withAgenda]
  rfl

lemma resolve_withAgenda (ts : List Task) (x : IncomingMessage) :
    (m.withAgenda ts).resolve x = (m.resolve x).withAgenda ts := by
  have hpending : (m.withAgenda ts).pending = m.pending := rfl
  rw [resolve, resolve, hpending]
  split <;> rfl

lemma receive_withAgenda (ts : List Task) (x : IncomingMessage) :
    (m.withAgenda ts).receive x = ((m.receive x).1.withAgenda ts, (m.receive x).2) := by
  have hrecord : (m.withAgenda ts).record (.arrived x) =
      (m.record (.arrived x)).withAgenda ts := rfl
  rw [receive, receive, hrecord]
  split
  · rw [post_withAgenda]
  · rw [resolve_withAgenda]
    rfl

lemma perform_withAgenda (ts : List Task) (a : Action) :
    (m.withAgenda ts).perform a = ((m.perform a).1.withAgenda ts, (m.perform a).2) := by
  cases a with
  | post t p =>
    rw [perform, perform, post_withAgenda]
  | frame text =>
    rw [perform, perform]
    split <;> rfl
  | receive x => rfl
  | register label t kind reaction => rfl
  | unregister label =>
    have hsubscription : (m.withAgenda ts).subscription? label = m.subscription? label := rfl
    rw [perform, perform, hsubscription]
    split <;> rfl
  | unregisterFrom label t =>
    have hsubscription : (m.withAgenda ts).subscription? label = m.subscription? label := rfl
    rw [perform, perform, hsubscription]
    split <;> rfl
  | count t => rfl
  | describe => rfl

lemma tell_withAgenda (ts : List Task) (l : Listener) (x : IncomingMessage) :
    (m.withAgenda ts).tell l x = ((m.tell l x).1.withAgenda ts, (m.tell l x).2) := by
  rw [tell, tell]
  split
  · rfl
  · split <;> rfl

/-- What a task does and sets off does not depend on what else is to be done. -/
theorem carryOut_withAgenda (ts : List Task) (t : Task) :
    (m.withAgenda ts).carryOut t = ((m.carryOut t).1.withAgenda ts, (m.carryOut t).2) := by
  cases t with
  | receive x => exact m.receive_withAgenda ts x
  | tell l x => exact m.tell_withAgenda ts l x
  | act label a =>
    rw [carryOut, carryOut, perform_withAgenda]
  | note label a r => rfl

/-- A task leaves the agenda alone. -/
lemma agenda_carryOut (t : Task) : (m.carryOut t).1.agenda = m.agenda := by
  have h := m.carryOut_withAgenda m.agenda t
  rw [withAgenda_agenda] at h
  exact congrArg (·.1.agenda) h

lemma step_withAgenda_cons (t : Task) (rest : List Task) :
    (m.withAgenda (t :: rest)).step =
      (m.carryOut t).1.withAgenda ((m.carryOut t).2 ++ rest) := by
  have h := m.carryOut_withAgenda rest t
  exact (congrArg (fun r => r.1.schedule r.2) h : _)

/-! ## Carrying out tasks with all that they set off -/

/-- From one messenger to another by carrying out some tasks in their order, each with all that it
sets off before the next. -/
inductive Carries : Messenger → List Task → Messenger → Prop
  | done (m : Messenger) : Carries m [] m
  | task {m m₁ m₂ : Messenger} {t : Task} {ts : List Task}
      (setOff : Carries (m.carryOut t).1 (m.carryOut t).2 m₁) (rest : Carries m₁ ts m₂) :
      Carries m (t :: ts) m₂

variable {m} {m' m₁ : Messenger} {t : Task} {ts us : List Task}

@[simp] lemma carries_nil_iff : Carries m [] m' ↔ m' = m := by
  constructor
  · rintro ⟨⟩
    rfl
  · rintro rfl
    exact .done _

lemma carries_cons_iff :
    Carries m (t :: ts) m' ↔
      ∃ m₁, Carries (m.carryOut t).1 (m.carryOut t).2 m₁ ∧ Carries m₁ ts m' := by
  constructor
  · rintro (_ | ⟨hset, hrest⟩)
    exact ⟨_, hset, hrest⟩
  · rintro ⟨m₁, hset, hrest⟩
    exact .task hset hrest

lemma carries_append_iff :
    Carries m (ts ++ us) m' ↔ ∃ m₁, Carries m ts m₁ ∧ Carries m₁ us m' := by
  induction ts generalizing m with
  | nil => simp
  | cons t ts ih =>
    rw [List.cons_append, carries_cons_iff]
    constructor
    · rintro ⟨m₁, hset, hrest⟩
      obtain ⟨m₂, hts, hus⟩ := ih.1 hrest
      exact ⟨m₂, .task hset hts, hus⟩
    · rintro ⟨m₂, hts, hus⟩
      obtain ⟨m₁, hset, hrest⟩ := carries_cons_iff.1 hts
      exact ⟨m₁, hset, ih.2 ⟨m₂, hrest, hus⟩⟩

lemma carries_singleton_iff :
    Carries m [t] m' ↔ Carries (m.carryOut t).1 (m.carryOut t).2 m' := by
  rw [carries_cons_iff]
  constructor
  · rintro ⟨m₁, hset, hdone⟩
    rwa [carries_nil_iff.1 hdone]
  · intro hset
    exact ⟨m', hset, .done m'⟩

/-- Tasks have one outcome at most. -/
lemma Carries.unique {m₂ : Messenger} (h : Carries m ts m₁) (h' : Carries m ts m₂) : m₁ = m₂ := by
  induction h generalizing m₂ with
  | done => exact (carries_nil_iff.1 h').symm
  | task _ _ ih₁ ih₂ =>
    obtain ⟨m₃, hset, hrest⟩ := carries_cons_iff.1 h'
    obtain rfl := ih₁ hset
    exact ih₂ hrest

/-- Tasks that are carried out leave the rest of the agenda alone. -/
lemma Carries.agenda_eq (h : Carries m ts m') : m'.agenda = m.agenda := by
  induction h with
  | done => rfl
  | @task m m₁ m₂ t ts _ _ ih₁ ih₂ => rw [ih₂, ih₁, agenda_carryOut]

/-- Tasks that are carried out with all that they set off are carried out step by step, in front of
whatever else is to be done. -/
theorem Carries.exists_iterate_step (h : Carries m ts m') (rest : List Task) :
    ∃ n, step^[n] (m.withAgenda (ts ++ rest)) = m'.withAgenda rest := by
  induction h generalizing rest with
  | done m => exact ⟨0, rfl⟩
  | @task m m₁ m₂ t ts _ _ ih₁ ih₂ =>
    obtain ⟨n₁, h₁⟩ := ih₁ (ts ++ rest)
    obtain ⟨n₂, h₂⟩ := ih₂ rest
    refine ⟨n₂ + (n₁ + 1), ?_⟩
    rw [Function.iterate_add_apply, Function.iterate_succ_apply, List.cons_append,
      step_withAgenda_cons, h₁, h₂]

/-- Steps that leave nothing to be done have carried out all that there was. -/
theorem carries_of_iterate_step {n : ℕ} (h : (step^[n] m).agenda = []) :
    Carries (m.withAgenda []) m.agenda (step^[n] m) := by
  induction n generalizing m with
  | zero =>
    have hm : m.agenda = [] := h
    rw [hm, carries_nil_iff, ← hm]
    rfl
  | succ n ih =>
    rw [Function.iterate_succ_apply] at h ⊢
    have hih := ih h
    cases hagenda : m.agenda with
    | nil =>
      have hstep : m.step = m := by rw [step, hagenda]
      rw [hstep, hagenda] at hih
      rwa [hstep]
    | cons t rest =>
      have hm : m = (m.withAgenda []).withAgenda (t :: rest) := by
        rw [withAgenda_withAgenda, ← hagenda]
        rfl
      have hstep : m.step = ((m.withAgenda []).carryOut t).1.withAgenda
          (((m.withAgenda []).carryOut t).2 ++ rest) := by
        rw [← step_withAgenda_cons, ← hm]
      rw [hstep, agenda_withAgenda, withAgenda_withAgenda] at hih
      have hsame : ((m.withAgenda []).carryOut t).1.withAgenda [] =
          ((m.withAgenda []).carryOut t).1 :=
        congrArg ((m.withAgenda []).carryOut t).1.withAgenda
          ((m.withAgenda []).agenda_carryOut t).symm
      rw [hsame, ← hstep] at hih
      rw [carries_cons_iff]
      exact carries_append_iff.1 hih

/-- **Carrying out tasks is doing step after step.**  Some tasks are carried out, each with all
that it sets off, exactly if steps that begin with these tasks come to an end. -/
theorem carries_iff_iterate_step (hm : m.agenda = []) :
    Carries m ts m' ↔ ∃ n, step^[n] (m.schedule ts) = m' ∧ m'.agenda = [] := by
  have hschedule : m.schedule ts = m.withAgenda ts := by
    rw [schedule_eq, hm, List.append_nil]
  have hkept : ∀ {m' : Messenger}, m'.agenda = [] → m'.withAgenda [] = m' := by
    intro m' hm'
    rw [← hm', withAgenda_agenda]
  constructor
  · intro h
    have hm' : m'.agenda = [] := by rw [h.agenda_eq, hm]
    obtain ⟨n, hn⟩ := h.exists_iterate_step []
    rw [List.append_nil, hkept hm'] at hn
    exact ⟨n, by rw [hschedule, hn], hm'⟩
  · rintro ⟨n, rfl, hagenda⟩
    have h := carries_of_iterate_step hagenda
    rw [hschedule] at h ⊢
    rwa [agenda_withAgenda, withAgenda_withAgenda, hkept hm] at h

end Messenger

end WebviewBridge
