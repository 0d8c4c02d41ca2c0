import WebviewBridge.Proofs.Catalog.RoundTrip
import WebviewBridge.Proofs.Host.Floor

/-!
# The account's tokens

A host serves the tokens of the last update, or those that it was given at its start, without the
blank ones.  This holds for every run over any sessions (`Floor.run_keepsTokens`).  An update
replaces both tokens, and nothing but an update that decodes changes them.
-/

namespace WebviewBridge

open Json Catalog

/-! ## Blank tokens -/

namespace AccountTokens

/-- The tokens that are not blank, as they are. -/
def withoutBlank (t : AccountTokens) : AccountTokens :=
  ⟨t.access.filter fun s => !Text.isBlank s, t.refresh.filter fun s => !Text.isBlank s⟩

end AccountTokens

namespace Credentials

/-- The tokens that are served are those that arrived, without the blank ones. -/
lemma toWire_ofWire (t : AccountTokens) : (ofWire t).toWire = t.withoutBlank := by
  simp only [toWire, ofWire, ofTokens, Secret.ofToken, Option.map_map, Function.comp_def,
    Option.map_id', AccountTokens.withoutBlank]

/-- Blank tokens are left out once and for all. -/
lemma ofWire_withoutBlank (t : AccountTokens) : ofWire t.withoutBlank = ofWire t := by
  simp only [ofWire, ofTokens, Secret.ofToken, AccountTokens.withoutBlank, Option.filter_filter,
    Bool.and_self]

end Credentials

/-- The token that is kept of a member: a string that is not blank. -/
def Secret.ofMember : Option Value → Option Secret
  | some (.str s) => if Text.isBlank s then none else some ⟨s⟩
  | _ => none

lemma Secret.ofToken_eq_ofMember {v : Option Value} {token : Option String}
    (hv : decodeOptionalText (v.getD .null) = .ok token) : ofToken token = ofMember v := by
  cases v with
  | none =>
    cases hv
    rfl
  | some v =>
    cases v with
    | null =>
      cases hv
      rfl
    | str s =>
      cases hv
      rw [ofToken, ofMember, Option.filter_some]
      by_cases hs : Text.isBlank s = true
      · rw [hs]
        rfl
      · rw [Bool.not_eq_true] at hs
        rw [hs]
        rfl
    | _ => cases hv

/-- An object brings the tokens of its two members: what is missing, null or blank is none. -/
lemma Credentials.ofWire_of_decode {ms : Members} {t : AccountTokens}
    (ht : AccountTokens.decode (.obj ms) = .ok t) :
    ofWire t =
      ⟨Secret.ofMember (ms.find? "accessToken"), Secret.ofMember (ms.find? "refreshToken")⟩ := by
  rw [AccountTokens.decode] at ht
  rcases ha : decodeOptionalText ((ms.find? "accessToken").getD .null) with _ | access
  · rw [ha] at ht
    cases ht
  rcases hr : decodeOptionalText ((ms.find? "refreshToken").getD .null) with _ | refresh
  · rw [ha, hr] at ht
    cases ht
  rw [ha, hr] at ht
  cases ht
  rw [ofWire, ofTokens, Secret.ofToken_eq_ofMember ha, Secret.ofToken_eq_ofMember hr]

/-! ## Updates -/

namespace OutgoingMessage

variable {m : OutgoingMessage} {t : AccountTokens}

/-- A message that replaces the tokens: an update, sent to the settings, that decodes. -/
structure Updates (m : OutgoingMessage) (t : AccountTokens) : Prop where
  destination : m.destination = .settings
  messageType : m.messageType = Kind.updateCredentials.messageType
  decodes : AccountTokens.decode (m.payload.getD .null) = .ok t

/-- An update needs content. -/
lemma not_updates_of_payload_eq_none (hm : m.payload = none) : ¬m.Updates t := by
  rintro ⟨-, -, hdecodes⟩
  rw [hm] at hdecodes
  cases hdecodes

lemma demand_of_updateCredentials (hd : m.destination = .settings)
    (ht : m.messageType = Kind.updateCredentials.messageType) :
    m.demand = .update (m.content AccountTokens.decode) := by
  rw [demand, hd, ht]
  rfl

lemma demand_of_tokensRequest (hd : m.destination = .settings)
    (ht : m.messageType = Kind.tokensRequest.messageType) : m.demand = .tokens := by
  rw [demand, hd, ht]
  rfl

/-- The tokens that a message brings are those of an update that decodes. -/
lemma update?_demand_eq_some_iff : m.demand.update? = some t ↔ m.Updates t := by
  constructor
  · intro hm
    have hasks := m.asks_demand
    cases hd : m.demand with
    | update content =>
      rw [hd] at hasks hm
      obtain ⟨hdest, htype, hcontent⟩ := hasks
      cases content with
      | error e => cases hm
      | ok t' =>
        cases hm
        exact ⟨hdest, htype, content_eq_ok_iff.1 hcontent.symm⟩
    | _ =>
      rw [hd] at hm
      cases hm
  · rintro ⟨hdest, htype, hdecodes⟩
    rw [demand_of_updateCredentials hdest htype, content_eq_ok_iff.2 hdecodes]
    rfl

end OutgoingMessage

/-- A reply with the stored tokens is only ever given as the answer to a request for them. -/
lemma Creator.Responds.eq_of_messageType {c : Creator} {h h' : Host} {m : OutgoingMessage}
    {added : List IncomingMessage} {pongs : Nat} (hr : c.Responds h m m.demand h' added pongs)
    {x : IncomingMessage} (hx : x ∈ added) (htype : x.messageType = Kind.tokens.messageType) :
    x = m.answer (.tokens h.state.credentials.toWire) := by
  have hasks := m.asks_demand
  generalize m.demand = d at hr hasks
  cases hr with
  | tokens => exact List.mem_singleton.1 hx
  | updated t h' hk hstate =>
    obtain rfl := List.mem_singleton.1 hx
    have hupdate : m.messageType = Kind.tokens.messageType := htype
    rw [hasks.2.1] at hupdate
    exact absurd hupdate (by decide)
  | drafted messages log plans last hlast hscript =>
    rcases List.mem_append.1 hx with hx | hx
    · obtain ⟨plan, _, rfl⟩ := List.mem_map.1 hx
      have hkind : Kind.planStream.messageType = Kind.tokens.messageType := htype
      exact absurd hkind (by decide)
    · obtain rfl := List.mem_singleton.1 hx
      have hkind : last.kind.messageType = Kind.tokens.messageType := htype
      rcases hlast with hlast | hlast <;> rw [hlast] at hkind <;> exact absurd hkind (by decide)
  | pong | submitted | closed | ignored => cases hx
  | _ =>
    -- what is left are reports of failures
    obtain rfl := List.mem_singleton.1 hx
    have hkind : Kind.errorNotice.messageType = Kind.tokens.messageType := htype
    exact absurd hkind (by decide)

lemma Creator.RespondsTo.data_eq {c : Creator} {h h' : Host} {text : String}
    {added : List IncomingMessage} {pongs : Nat} (hr : c.RespondsTo h text h' added pongs)
    {x : IncomingMessage} (hx : x ∈ added) (htype : x.messageType = Kind.tokens.messageType) :
    x.data = h.state.credentials.toWire.encode := by
  cases hm : OutgoingMessage.parse text with
  | error refusal =>
    rw [Creator.RespondsTo, hm] at hr
    obtain ⟨-, rfl, -⟩ := hr
    obtain rfl := List.mem_singleton.1 hx
    have hkind : Kind.errorNotice.messageType = Kind.tokens.messageType := htype
    exact absurd hkind (by decide)
  | ok m =>
    rw [Creator.RespondsTo, hm] at hr
    rw [hr.eq_of_messageType hx htype]
    rfl

/-! ## Closed sessions -/

/-- Nothing is added to a queue that is closed. -/
lemma Procedure.run_of_not_isOpen {α : Type} (p : Procedure α) (h : Host) {s : Session}
    (hs : s.isOpen = false) : (p.run h s).2.1.queue = s.queue := by
  induction p generalizing h s with
  | done a => rfl
  | perform e next ih =>
    rw [run_perform]
    cases e with
    | send m =>
      -- only a message could change the queue, and it is refused
      have hsend : (s.send m).1 = s := by rw [Session.send, hs]; rfl
      have hsame : (h.perform s (.send m)).2.1 = s := hsend
      rw [hsame]
      exact ih _ _ hs
    | recordPong => exact ih () h hs
    | _ => exact ih _ _ hs

namespace Creator

/-- Whatever a frame adds to the queue of its session, each reply with tokens carries the stored
ones. -/
lemma exists_added (c : Creator) (h : Host) (s : Session) (text : String) :
    ∃ added : List IncomingMessage,
      ((c.handleFrame text).run h s).2.1.queue = s.queue ++ added.map (·.wire) ∧
      ∀ x ∈ added, x.messageType = Kind.tokens.messageType →
        x.data = h.state.credentials.toWire.encode := by
  cases hs : s.isOpen with
  | false =>
    refine ⟨[], ?_, nofun⟩
    rw [Procedure.run_of_not_isOpen _ _ hs, List.map_nil, List.append_nil]
  | true =>
    obtain ⟨h', added, pongs, hresponds, hrun⟩ := c.exists_respondsTo h hs text
    refine ⟨added, ?_, ?_⟩
    · rw [hrun]
      rfl
    · intro x hx htype
      exact hresponds.data_eq hx htype

/-- A request for the tokens adds the reply with them, and nothing else. -/
lemma queue_of_tokensRequest (c : Creator) (h : Host) {s : Session} (hs : s.isOpen = true)
    {text : String} {m : OutgoingMessage} (hm : OutgoingMessage.parse text = .ok m)
    (hdest : m.destination = .settings) (htype : m.messageType = Kind.tokensRequest.messageType) :
    ((c.handleFrame text).run h s).2.1.queue =
      s.queue ++ [(m.answer (.tokens h.state.credentials.toWire)).wire] := by
  obtain ⟨h', added, pongs, hresponds, hrun⟩ := c.exists_respondsTo h hs text
  rw [RespondsTo, hm] at hresponds
  simp only [OutgoingMessage.demand_of_tokensRequest hdest htype] at hresponds
  rw [hrun]
  cases hresponds
  rfl

end Creator

lemma Demand.update?_ofText_eq_none {text : String}
    (hm : ∀ m t, OutgoingMessage.parse text = .ok m → ¬m.Updates t) :
    (ofText text).update? = none := by
  cases hparse : OutgoingMessage.parse text with
  | error refusal =>
    rw [ofText_of_error hparse]
    rfl
  | ok m =>
    rw [ofText_of_ok hparse, Option.eq_none_iff_forall_ne_some]
    intro t ht
    exact hm m t hparse (OutgoingMessage.update?_demand_eq_some_iff.1 ht)

lemma Demand.update?_ofText_eq_some {text : String} {m : OutgoingMessage} {t : AccountTokens}
    (hm : OutgoingMessage.parse text = .ok m) (ht : m.Updates t) :
    (ofText text).update? = some t := by
  rw [ofText_of_ok hm, OutgoingMessage.update?_demand_eq_some_iff.2 ht]

/-! ## Runs -/

namespace Floor

variable {ι : Type} [DecidableEq ι] {c : Creator} {f : Floor ι}

lemma session_append_frame (turns : List (Turn ι)) (i : ι) (text : String) :
    (f.run c (turns ++ [.frame i text])).sessions i =
      ((c.handleFrame text).run (f.run c turns).host ((f.run c turns).sessions i)).2.1 := by
  rw [run_append]
  exact turn_frame_session i text

/-- The tokens of the last update of a run, or those that the run began with. -/
def lastTokens (seed : AccountTokens) (turns : List (Turn ι)) : AccountTokens :=
  lastAsked Demand.update? seed turns

/-- A run that keeps the account's tokens. -/
structure KeepsTokens (c : Creator) (f : Floor ι) (seed : AccountTokens)
    (turns : List (Turn ι)) : Prop where
  /-- What is kept are the tokens of the last update that are not blank. -/
  stored : (f.run c turns).host.state.credentials = .ofWire (lastTokens seed turns)
  /-- Whatever the next frame is, each reply with tokens that it gets carries those. -/
  reply (i : ι) (text : String) :
    ∃ added : List IncomingMessage,
      ((f.run c (turns ++ [.frame i text])).sessions i).queue =
        ((f.run c turns).sessions i).queue ++ added.map (·.wire) ∧
      ∀ x ∈ added, x.messageType = Kind.tokens.messageType →
        x.data = (lastTokens seed turns).withoutBlank.encode
  /-- A request for the tokens gets such a reply, and nothing else. -/
  request (i : ι) (text : String) (m : OutgoingMessage)
    (hm : OutgoingMessage.parse text = .ok m) (hdest : m.destination = .settings)
    (htype : m.messageType = Kind.tokensRequest.messageType)
    (hopen : ((f.run c turns).sessions i).isOpen = true) :
    ((f.run c (turns ++ [.frame i text])).sessions i).queue =
      ((f.run c turns).sessions i).queue ++
        [(m.answer (.tokens (lastTokens seed turns).withoutBlank)).wire]
  /-- Who decodes such a reply and keeps its tokens keeps what the host keeps. -/
  readBack : ∃ t, AccountTokens.decode (lastTokens seed turns).withoutBlank.encode = .ok t ∧
    Credentials.ofWire t = (f.run c turns).host.state.credentials
  /-- An update replaces both tokens. -/
  replaced (i : ι) (text : String) (m : OutgoingMessage) (t : AccountTokens)
    (hm : OutgoingMessage.parse text = .ok m) (ht : m.Updates t) :
    (f.run c (turns ++ [.frame i text])).host.state.credentials = .ofWire t
  /-- What the object of an update leaves out, sets to null or leaves blank is gone. -/
  replacedByMembers (i : ι) (text : String) (m : OutgoingMessage) (t : AccountTokens)
    (ms : Members) (hm : OutgoingMessage.parse text = .ok m) (ht : m.Updates t)
    (hms : m.payload = some (.obj ms)) :
    (f.run c (turns ++ [.frame i text])).host.state.credentials =
      ⟨Secret.ofMember (ms.find? "accessToken"), Secret.ofMember (ms.find? "refreshToken")⟩
  /-- Nothing but an update that decodes changes what is kept. -/
  unchanged (i : ι) (text : String)
    (hm : ∀ m t, OutgoingMessage.parse text = .ok m → ¬m.Updates t) :
    (f.run c (turns ++ [.frame i text])).host.state.credentials =
      (f.run c turns).host.state.credentials
  /-- A message without content is no such update. -/
  unchangedByAbsent (i : ι) (text : String) (m : OutgoingMessage)
    (hm : OutgoingMessage.parse text = .ok m) (hnone : m.payload = none) :
    (f.run c (turns ++ [.frame i text])).host.state.credentials =
      (f.run c turns).host.state.credentials

/-- The credentials after one more frame are those of its update, if it brings one. -/
lemma credentials_append_frame {seed : AccountTokens} (hl : f.host.IsLive)
    (hseed : f.host.state.credentials = .ofWire seed) (turns : List (Turn ι)) (i : ι)
    (text : String) :
    (f.run c (turns ++ [.frame i text])).host.state.credentials =
      .ofWire (((Demand.ofText text).update?).getD (lastTokens seed turns)) := by
  rw [(run_spec hl _).credentials, hseed, lastAsked_map, lastAsked_append_frame, lastTokens]

/-- **Every run keeps and serves the tokens of its last update.** -/
theorem run_keepsTokens (c : Creator) (f : Floor ι) (seed : AccountTokens)
    (hl : f.host.IsLive)
    (hseed : f.host.state.credentials = .ofTokens seed.access seed.refresh)
    (turns : List (Turn ι)) : f.KeepsTokens c seed turns := by
  have hstored : (f.run c turns).host.state.credentials = .ofWire (lastTokens seed turns) := by
    rw [(run_spec hl turns).credentials, hseed]
    exact lastAsked_map Demand.update? Credentials.ofWire seed turns
  have hframe := fun i text => credentials_append_frame (c := c) hl hseed turns i text
  have hwire : (f.run c turns).host.state.credentials.toWire =
      (lastTokens seed turns).withoutBlank := by
    rw [hstored, Credentials.toWire_ofWire]
  have hunchanged : ∀ i text, (∀ m t, OutgoingMessage.parse text = .ok m → ¬m.Updates t) →
      (f.run c (turns ++ [.frame i text])).host.state.credentials =
        (f.run c turns).host.state.credentials := by
    intro i text hm
    rw [hframe, Demand.update?_ofText_eq_none hm, hstored]
    rfl
  refine ⟨hstored, ?_, ?_, ?_, ?_, ?_, hunchanged, ?_⟩
  · intro i text
    rw [session_append_frame, ← hwire]
    exact c.exists_added _ _ text
  · intro i text m hm hdest htype hopen
    rw [session_append_frame, ← hwire]
    exact c.queue_of_tokensRequest _ hopen hm hdest htype
  · refine ⟨_, AccountTokens.decode_encode _, ?_⟩
    rw [Credentials.ofWire_withoutBlank, hstored]
  · intro i text m t hm ht
    rw [hframe, Demand.update?_ofText_eq_some hm ht]
    rfl
  · intro i text m t ms hm ht hms
    have hdecodes := ht.decodes
    rw [hms] at hdecodes
    rw [hframe, Demand.update?_ofText_eq_some hm ht]
    exact Credentials.ofWire_of_decode hdecodes
  · intro i text m hm hnone
    refine hunchanged i text fun m' t hm' => ?_
    rw [hm] at hm'
    cases hm'
    exact OutgoingMessage.not_updates_of_payload_eq_none hnone

/-- An update of the access token takes away the refresh token that the host was given. -/
theorem run_keepsTokens_update :
    (run { planner := .unconfigured, cache := ⟨"/"⟩, maxAgeMs := 0, home := none }
      { host := { state := { credentials := .ofTokens (some " ") (some "r") } }
        sessions := fun _ : Bool => default }
      [.frame true ("\x7b\"messageId\":\"1\",\"destination\":\"settings\","
        ++ "\"messageType\":\"updateNellieCredentials\","
        ++ "\"payload\":\x7b\"accessToken\":\"a\"\x7d\x7d")]).host.state.credentials =
      ⟨some ⟨"a"⟩, none⟩ := by
  have hkeeps := run_keepsTokens
    { planner := .unconfigured, cache := ⟨"/"⟩, maxAgeMs := 0, home := none }
    { host := { state := { credentials := .ofTokens (some " ") (some "r") } }
      sessions := fun _ : Bool => default }
    ⟨some " ", some "r"⟩ ⟨nofun, rfl⟩ rfl
    [.frame true ("\x7b\"messageId\":\"1\",\"destination\":\"settings\","
        ++ "\"messageType\":\"updateNellieCredentials\","
        ++ "\"payload\":\x7b\"accessToken\":\"a\"\x7d\x7d")]
  refine hkeeps.stored.trans ?_
  decide +kernel

end Floor

end WebviewBridge
