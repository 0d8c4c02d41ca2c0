import WebviewBridge.Messenger.Operation
import WebviewBridge.Proofs.Messenger.Correlation

/-!
# Answers that report a failure

A host that cannot do what it is asked for answers with an `error`, whose content is a text for a
person to read.  A typed request does not look at the type of the answer: it decodes the content as
the kind that it expects.  Most kinds need something that no such report has, and the request fails.
But tokens may both be absent, colours may have any names, and who expects a report gets one.  Main
statement: `Messenger.reply?_of_reports`.
-/

namespace WebviewBridge

open Json Catalog

/-- A message that reports a failure in the way of a host. -/
structure IncomingMessage.Reports (x : IncomingMessage) (text : String) : Prop where
  messageType_eq : x.messageType = Kind.errorNotice.messageType
  data_eq : x.data = (Payload.errorNotice text).data

namespace Kind

variable {k : Kind} {text : String}

/-- What a kind takes the report of a failure for, if it takes it for anything. -/
def ofReport? (text : String) : Kind → Option Payload
  | tokens => some (.tokens ⟨none, none⟩)
  | updateCredentials => some (.updateCredentials ⟨none, none⟩)
  | errorNotice => some (.errorNotice text)
  | themeColors => some (.themeColors [("text", text)])
  | _ => none

/-- The kinds that take the report of a failure for something are those of tokens, which may both
be absent, that of colours, which may have any names, and that of the report. -/
lemma isSome_ofReport?_iff :
    (k.ofReport? text).isSome ↔ k ∈ [tokens, updateCredentials, errorNotice, themeColors] := by
  cases k <;> simp [ofReport?]

/-- A kind decodes a report as what it takes it for, and refuses it if that is nothing. -/
lemma decode_report (k : Kind) (text : String) :
    (k.decode (Payload.errorNotice text).data).toOption = k.ofReport? text := by
  cases k with
  | submitIdea => rfl
  | processLlm => rfl
  | close => rfl
  | pong => rfl
  | tokensRequest => rfl
  | tokens => rfl
  | updateCredentials => rfl
  | ping => rfl
  | planStream => rfl
  | planCompleted => rfl
  | errorNotice => rfl
  | tab => rfl
  | themeColors => rfl

end Kind

/-- A typed request that is answered by a report of a failure gets what the expected kind takes the
report for, and fails if that is nothing. -/
lemma typedOutcome_of_reports {x : IncomingMessage} {text : String} (hx : x.Reports text)
    (k : Kind) :
    (∀ c, k.ofReport? text = some c → typedOutcome k (.ok x) = .ok c) ∧
      (k.ofReport? text = none →
        ∃ reason, typedOutcome k (.ok x) = .error (.protocol (.payload "error" reason))) := by
  have hread := k.decode_report text
  rw [← hx.data_eq] at hread
  rw [typedOutcome, decodePayload, Option.getD_some, ← hread]
  cases hdecode : k.decode x.data with
  | ok p =>
    constructor
    · intro c hc
      cases hc
      rfl
    · intro hnone
      cases hnone
  | error cause =>
    constructor
    · intro c hc
      cases hc
    · intro _
      exact ⟨cause.message, by rw [hx.messageType_eq]; rfl⟩

namespace Messenger

/-- What holds of a typed request that was made of the messenger `m₁`, once the messenger has become
`m`, where it is answered by the report of a failure: `later` is what has happened since it was
made. -/
structure TakesReports (m₁ : Messenger) (p : Payload) (k : Kind) (later : List Event)
    (m : Messenger) : Prop where
  history_eq :
    m.history = m₁.history ++ .requested (m₁.freshIds m₁.issued) p.messageType :: later
  /-- If it could be posted and was not given up, the request succeeds where the expected kind takes
  a report for something. -/
  taken : m₁.refusal? p.messageType p.encode = none → ∀ x text, x.Reports text →
    Fate.IsFirstDecision (m₁.freshIds m₁.issued) later (.arrived x) →
    .abandoned (m₁.freshIds m₁.issued) ∉ later →
    ∀ c, k.ofReport? text = some c →
      (m.resume (m₁.freshIds m₁.issued)).reply? (m₁.begin (.requestTyped p k)).2 =
        some (.ok (.content c))
  /-- It fails then where the expected kind needs something that a report does not have. -/
  refused : m₁.refusal? p.messageType p.encode = none → ∀ x text, x.Reports text →
    Fate.IsFirstDecision (m₁.freshIds m₁.issued) later (.arrived x) →
    .abandoned (m₁.freshIds m₁.issued) ∉ later →
    k ∉ [.tokens, .updateCredentials, .errorNotice, .themeColors] →
      ∃ reason, (m.resume (m₁.freshIds m₁.issued)).reply? (m₁.begin (.requestTyped p k)).2 =
        some (.error (.protocol (.payload "error" reason)))
  /-- There it never succeeds, even if it could not be posted in the end, or was given up. -/
  unsuccessful : ∀ x text, x.Reports text →
    Fate.IsFirstDecision (m₁.freshIds m₁.issued) later (.arrived x) →
    k ∉ [.tokens, .updateCredentials, .errorNotice, .themeColors] →
      ∀ reply, (m.resume (m₁.freshIds m₁.issued)).reply? (m₁.begin (.requestTyped p k)).2 ≠
        some (.ok reply)

/-- What a typed request has come to is what the answer to its message makes of it. -/
lemma reply?_begin_requestTyped (m₁ m : Messenger) (p : Payload) (k : Kind) :
    m.reply? (m₁.begin (.requestTyped p k)).2 =
      (m.outcome? (m₁.beginRequest p.messageType p.encode).2).map
        fun o => (typedOutcome k o).map .content := rfl

section

variable {m₁ m : Messenger} {p : Payload} {k : Kind} {us : List Turn} {later : List Event}
  (h : m₁.Correlates p.messageType p.encode (m₁.freshIds m₁.issued) us later m)
  {x : IncomingMessage} {text : String}
  (hfirst : Fate.IsFirstDecision (m₁.freshIds m₁.issued) later (.arrived x))

include h hfirst

/-- A typed request that is answered comes to what the expected kind makes of the answer. -/
lemma reply?_of_isFirstDecision (hposted : m₁.refusal? p.messageType p.encode = none)
    (hkept : .abandoned (m₁.freshIds m₁.issued) ∉ later) :
    (m.resume (m₁.freshIds m₁.issued)).reply? (m₁.begin (.requestTyped p k)).2 =
      some ((typedOutcome k (.ok x)).map .content) := by
  rw [reply?_begin_requestTyped, snd_beginRequest, (h.answered_iff hposted x).2 ⟨hfirst, hkept⟩,
    Option.map_some]

variable (hx : x.Reports text)

include hx

/-- Where the expected kind needs something that a report does not have, the request fails. -/
lemma exists_reply?_eq_error (hk : k ∉ [.tokens, .updateCredentials, .errorNotice, .themeColors])
    (hposted : m₁.refusal? p.messageType p.encode = none)
    (hkept : .abandoned (m₁.freshIds m₁.issued) ∉ later) :
    ∃ reason, (m.resume (m₁.freshIds m₁.issued)).reply? (m₁.begin (.requestTyped p k)).2 =
      some (.error (.protocol (.payload "error" reason))) := by
  have hnone : k.ofReport? text = none := by
    rw [← Option.not_isSome_iff_eq_none, Kind.isSome_ofReport?_iff]
    exact hk
  obtain ⟨reason, hreason⟩ := (typedOutcome_of_reports hx k).2 hnone
  refine ⟨reason, ?_⟩
  rw [reply?_of_isFirstDecision h hfirst hposted hkept, hreason]
  rfl

/-- In any case it does not succeed there: what is given up comes to nothing, and what cannot be
posted fails. -/
lemma reply?_ne_ok (hk : k ∉ [.tokens, .updateCredentials, .errorNotice, .themeColors])
    (reply : Reply) :
    (m.resume (m₁.freshIds m₁.issued)).reply? (m₁.begin (.requestTyped p k)).2 ≠
      some (.ok reply) := by
  intro hreply
  by_cases habandoned : .abandoned (m₁.freshIds m₁.issued) ∈ later
  · rw [reply?_begin_requestTyped, snd_beginRequest, h.abandoned habandoned] at hreply
    cases hreply
  cases hposted : m₁.refusal? p.messageType p.encode with
  | none =>
    obtain ⟨reason, hreason⟩ := exists_reply?_eq_error h hfirst hx hk hposted habandoned
    rw [hreason] at hreply
    cases hreply
  | some err =>
    rw [reply?_begin_requestTyped, snd_beginRequest, h.unposted err hposted habandoned] at hreply
    cases hreply

end

/-- **A failure that is reported to a typed request.**  Whatever a messenger did before and does
after, let the first thing that decides about a typed request be the arrival of a report of a
failure, and let it not be given up before it has taken this up.  The request fails, unless the
content that it expects is optional throughout or may have any names, or it expects a report: then
it succeeds, with what the expected kind takes the report for. -/
theorem reply?_of_reports (destination : Destination) (transport : Transport)
    (config : MessagingConfig) (freshIds : ℕ → MessageId) (hinj : Function.Injective freshIds)
    (ts : List Turn) (p : Payload) (k : Kind) (us : List Turn) :
    ∃ later,
      ((ofConfig destination transport config freshIds).run ts).TakesReports p k later
        ((((ofConfig destination transport config freshIds).run ts).beginRequest p.messageType
          p.encode).1.run us) := by
  have hgrows := (ofConfig destination transport config freshIds).grows_run ts
  have hsound := (sound_books_ofConfig destination transport config freshIds).grows hinj hgrows
  have hfresh : ((ofConfig destination transport config freshIds).run ts).freshIds = freshIds :=
    hgrows.freshIds_eq
  generalize (ofConfig destination transport config freshIds).run ts = m₁ at *
  obtain ⟨later, h⟩ :=
    m₁.exists_correlates hsound (by rw [hfresh]; exact hinj) p.messageType p.encode us
  rw [snd_beginRequest] at h
  refine ⟨later, ?_⟩
  constructor
  case history_eq => exact h.history_eq
  case taken =>
    intro hposted x text hx hfirst hkept c hc
    rw [reply?_of_isFirstDecision h hfirst hposted hkept, (typedOutcome_of_reports hx k).1 c hc]
    rfl
  case refused =>
    intro hposted x text hx hfirst hkept hk
    exact exists_reply?_eq_error h hfirst hx hk hposted hkept
  case unsuccessful =>
    intro x text hx hfirst hk reply
    exact reply?_ne_ok h hfirst hx hk reply

/-- The tokens are asked for after another request, and the host reports twice that it failed. -/
theorem reply?_of_reports_tokens :
    Function.Injective tallyId ∧ ∃ later,
      ((ofConfig .settings .queue {} tallyId).run
        [.request "ProcessLLM" none]).TakesReports .tokensRequest .tokens later
        ((((ofConfig .settings .queue {} tallyId).run [.request "ProcessLLM" none]).beginRequest
          Payload.tokensRequest.messageType Payload.tokensRequest.encode).1.run
          [.act (.receive ⟨"error", .obj [("text", .str "boom")], some ⟨"i"⟩⟩), .step,
            .act (.receive ⟨"error", .obj [("text", .str "again")], some ⟨"i"⟩⟩), .step]) :=
  ⟨tallyId_injective,
    reply?_of_reports .settings .queue {} tallyId tallyId_injective _ .tokensRequest .tokens _⟩

/-- Who asks for tokens and is told that this failed gets tokens, both absent. -/
theorem reply?_tokens_of_reports :
    let m := ofConfig .settings .queue {} tallyId
    let x : IncomingMessage := ⟨"error", .obj [("text", .str "boom")], some (tallyId 0)⟩
    x.Reports "boom" ∧ x.Answers (tallyId 0) ∧
      ((m.beginRequest Payload.tokensRequest.messageType Payload.tokensRequest.encode).1.run
        [.act (.receive x), .step, .resume (tallyId 0)]).reply?
          (m.begin (.requestTyped .tokensRequest .tokens)).2 =
            some (.ok (.content (.tokens ⟨none, none⟩))) :=
  ⟨⟨rfl, rfl⟩, ⟨by decide, rfl⟩, rfl⟩

end Messenger

end WebviewBridge
