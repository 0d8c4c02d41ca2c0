import Mathlib.Data.List.Nodup
import WebviewBridge.Loopback
import WebviewBridge.Proofs.Webview.Traffic

/-!
# Frames that go to and fro

On one machine no frame rests on its way: a webview writes all that waits in its queue, the host
takes it in at once, and so does the webview with what the host has written.  This is one order
among all those in which frames may travel, so what holds of all `Traffic` holds of a `Loopback`.

Main statements: to let frames go to and fro is a run in which frames are carried and nothing else
happens (`Traffic.Shows.exists_settle`), and so is what follows when the host does something, a
webview does, or time passes; and while no frame is on its way, each ping that was sent to a linked
session is with one of the two ends, or its pong is, or its pong was counted
(`Traffic.Shows.pinged_eq`).
-/

namespace WebviewBridge

/-! ## Several frames of a line -/

namespace Line

/-- To write all that waits is to write as many frames as wait. -/
lemma foldl_write {c : WebviewConnection} (hc : c.writing = true) (rising falling : List String) :
    (List.replicate c.outbound.length Move.write).foldl move ⟨c, rising, falling⟩ =
      ⟨c.flush, rising ++ c.outbound, falling⟩ := by
  obtain ⟨messenger, isOpen, reading, writing, outbound, written⟩ := c
  obtain rfl : writing = true := hc
  induction outbound generalizing rising written with
  | nil => simp [WebviewConnection.flush]
  | cons f rest ih =>
    have hrest := ih (rising ++ [f]) (written ++ [f])
    simp only [WebviewConnection.flush, if_true, List.append_assoc, List.singleton_append]
      at hrest ⊢
    exact hrest

/-- To take in all that comes is to take in as many frames as come. -/
lemma foldl_deliver (c : WebviewConnection) (rising falling : List String) :
    (List.replicate falling.length Move.deliver).foldl move ⟨c, rising, falling⟩ =
      ⟨falling.foldl (fun c f => c.receive (.text f)) c, rising, []⟩ := by
  induction falling generalizing c with
  | nil => rfl
  | cons f rest ih => exact ih (c.receive (.text f))

end Line

/-- What comes in does not end the writing. -/
lemma WebviewConnection.writing_foldl_receive (c : WebviewConnection) (texts : List String) :
    (texts.foldl (fun c f => c.receive (.text f)) c).writing = c.writing := by
  induction texts generalizing c with
  | nil => rfl
  | cons f rest ih =>
    refine (ih (c.receive (.text f))).trans ?_
    rw [receive]
    split <;> rfl

namespace Traffic

variable (s : Traffic)

/-! ## Carrying frames -/

/-- A turn in which a frame is carried, or some are. -/
def Turn.IsCarriage : Turn → Prop
  | line _ .write | line _ .deliver | arrive _ _ | collect _ => True
  | _ => False

lemma Turn.IsCarriage.isPlain {t : Turn} (ht : t.IsCarriage) : t.IsPlain := by
  cases t with
  | host t => exact ht.elim
  | line id v => cases v <;> first | exact ht.elim | trivial
  | _ => trivial

lemma pinged_of_isCarriage (id : SessionId) {ts : List Turn} (hts : ∀ t ∈ ts, t.IsCarriage) :
    s.pinged id ts = 0 := by
  induction ts generalizing s with
  | nil => rfl
  | cons t ts ih =>
    have ht := hts t List.mem_cons_self
    rw [pinged, ih _ fun u hu => hts u (List.mem_cons_of_mem t hu)]
    cases t with
    | host t => exact ht.elim
    | _ => rfl

lemma after_append (ts us : List Turn) : s.after (ts ++ us) = (s.after ts).after us :=
  List.foldl_append

/-- What happens on one line changes this line alone. -/
lemma after_line (id : SessionId) (vs : List Line.Move) :
    s.after (vs.map (.line id)) =
      { s with lines := s.withLine id (vs.foldl Line.move (s.lines id)) } := by
  induction vs generalizing s with
  | nil => rw [List.map_nil, List.foldl_nil, withLine, Function.update_eq_self]; rfl
  | cons v vs ih =>
    have hturn : (s.turn (.line id v)).lines id = (s.lines id).move v := Function.update_self ..
    rw [List.map_cons, after, List.foldl_cons, ← after, ih, hturn, withLine, turn, withLine,
      Function.update_idem, List.foldl_cons]
    rfl

/-- In some run frames are carried and nothing else happens, and it leads from here to there. -/
def CarriesTo (s s' : Traffic) : Prop := ∃ ts, (∀ t ∈ ts, t.IsCarriage) ∧ s.after ts = s'

variable {s} {s' s'' : Traffic}

lemma CarriesTo.refl (s : Traffic) : s.CarriesTo s := ⟨[], List.forall_mem_nil _, rfl⟩

lemma CarriesTo.trans (h : s.CarriesTo s') (h' : s'.CarriesTo s'') : s.CarriesTo s'' := by
  obtain ⟨ts, hts, rfl⟩ := h
  obtain ⟨us, hus, rfl⟩ := h'
  exact ⟨ts ++ us, List.forall_mem_append.2 ⟨hts, hus⟩, s.after_append ts us⟩

/-- To carry frames is neither to post pongs nor to ping. -/
lemma CarriesTo.exists_after (h : s.CarriesTo s') :
    ∃ ts, (∀ t ∈ ts, t.IsPlain) ∧ s.after ts = s' ∧ ∀ id, s.pinged id ts = 0 := by
  obtain ⟨ts, hts, hafter⟩ := h
  exact ⟨ts, fun t ht => (hts t ht).isPlain, hafter, fun id => s.pinged_of_isCarriage id hts⟩

/-! ## Loopbacks -/

/-- Webviews on whose lines no frame is on its way. -/
structure Links (lines : SessionId → Line) (ws : List LinkedWebview) : Prop where
  line : ∀ w ∈ ws, lines w.session = { webview := w.connection }
  writing : ∀ w ∈ ws, w.connection.writing = true
  once : (ws.map (·.session)).Nodup

/-- The host and the webviews of a loopback. -/
structure Shows (s : Traffic) (l : Loopback) : Prop where
  bridge : s.bridge = l.bridge
  links : Links s.lines l.webviews

variable (s) in
/-- Another host, and a webview on whose line no frame is on its way. -/
def put (b : BridgeHost) (w : LinkedWebview) : Traffic where
  bridge := b
  lines := s.withLine w.session { webview := w.connection }

lemma put_put {b b' : BridgeHost} {w w' : LinkedWebview} (hw : w'.session = w.session) :
    (s.put b w).put b' w' = s.put b' w' := by
  rw [put, put, put, withLine, withLine, withLine, hw, Function.update_idem]

/-- What a webview has posted is carried to the host. -/
lemma carriesTo_carryUp {w : LinkedWebview}
    (hline : s.lines w.session = { webview := w.connection }) (hw : w.connection.writing = true) :
    s.CarriesTo (s.put (Loopback.carryUp s.bridge w).1 (Loopback.carryUp s.bridge w).2.1) := by
  let frames := w.connection.outbound
  refine ⟨(List.replicate frames.length Line.Move.write).map (.line w.session) ++
    [.arrive w.session frames.length], ?_, ?_⟩
  · refine List.forall_mem_append.2 ⟨fun t ht => ?_, List.forall_mem_singleton.2 trivial⟩
    obtain ⟨v, hv, rfl⟩ := List.mem_map.1 ht
    rw [List.eq_of_mem_replicate hv]
    trivial
  · have hwritten := Line.foldl_write hw [] []
    have harrivals : (frames.take frames.length).map Frame.text = frames.map Frame.text := by
      rw [List.take_length]
    rw [after_append, after_line, hline, hwritten]
    simp only [after, List.foldl_cons, List.foldl_nil, turn, arrivals, withLine,
      Function.update_self, Function.update_idem, List.nil_append, Line.drain, put]
    rw [harrivals, List.drop_length]
    rfl

/-- What the host has written to a webview is carried down. -/
lemma carriesTo_carryDown {w : LinkedWebview}
    (hline : s.lines w.session = { webview := w.connection }) :
    s.CarriesTo (s.put (Loopback.carryDown s.bridge w).1 (Loopback.carryDown s.bridge w).2.1) := by
  let frames := (s.bridge.collect w.session).2
  refine ⟨.collect w.session ::
    (List.replicate frames.length Line.Move.deliver).map (.line w.session), ?_, ?_⟩
  · refine List.forall_mem_cons.2 ⟨trivial, fun t ht => ?_⟩
    obtain ⟨v, hv, rfl⟩ := List.mem_map.1 ht
    rw [List.eq_of_mem_replicate hv]
    trivial
  · have hfed : (s.turn (.collect w.session)).lines w.session = ⟨w.connection, [], frames⟩ := by
      simp only [turn, withLine, Function.update_self, hline]
      rfl
    rw [after, List.foldl_cons, ← after, after_line, hfed, Line.foldl_deliver]
    simp only [turn, withLine, Function.update_idem]
    rfl

/-- What a host and one webview have for each other is carried, first up, then down. -/
lemma carriesTo_visit {w : LinkedWebview} (hline : s.lines w.session = { webview := w.connection })
    (hw : w.connection.writing = true) :
    let up := Loopback.carryUp s.bridge w
    let down := Loopback.carryDown up.1 up.2.1
    s.CarriesTo (s.put down.1 down.2.1) ∧ down.2.1.connection.writing = true := by
  intro up down
  have hup : s.CarriesTo (s.put up.1 up.2.1) := carriesTo_carryUp hline hw
  have hline' : (s.put up.1 up.2.1).lines up.2.1.session = { webview := up.2.1.connection } :=
    Function.update_self ..
  have hdown : (s.put up.1 up.2.1).CarriesTo (s.put down.1 down.2.1) := by
    have hput : (s.put up.1 up.2.1).put down.1 down.2.1 = s.put down.1 down.2.1 := put_put rfl
    rw [← hput]
    exact carriesTo_carryDown hline'
  have hflush : w.connection.flush.writing = true := by
    rw [WebviewConnection.flush, if_pos hw]
    exact hw
  exact ⟨hup.trans hdown, (WebviewConnection.writing_foldl_receive _ _).trans hflush⟩

/-- In each round frames are carried on the lines of all webviews, and on no others. -/
lemma exists_after_carry {ws : List LinkedWebview} (h : Links s.lines ws) :
    ∃ s', s.CarriesTo s' ∧ s'.bridge = (Loopback.carry ws s.bridge).1 ∧
      Links s'.lines (Loopback.carry ws s.bridge).2.1 ∧
      (Loopback.carry ws s.bridge).2.1.map (·.session) = ws.map (·.session) ∧
      ∀ id ∉ ws.map (·.session), s'.lines id = s.lines id := by
  induction ws generalizing s with
  | nil => exact ⟨s, .refl s, rfl, h, rfl, fun _ _ => rfl⟩
  | cons w ws ih =>
    obtain ⟨hnew, honce⟩ := List.nodup_cons.1 h.once
    have hvisit := carriesTo_visit (h.line w List.mem_cons_self) (h.writing w List.mem_cons_self)
    let up := Loopback.carryUp s.bridge w
    let down := Loopback.carryDown up.1 up.2.1
    have hothers : ∀ id ≠ w.session, (s.put down.1 down.2.1).lines id = s.lines id :=
      fun id hid => Function.update_of_ne hid ..
    have hlinks : Links (s.put down.1 down.2.1).lines ws := by
      constructor
      case line =>
        intro v hv
        have hne : v.session ≠ w.session := fun heq => hnew (List.mem_map.2 ⟨v, hv, heq⟩)
        rw [hothers _ hne]
        exact h.line v (List.mem_cons_of_mem w hv)
      case writing => exact fun v hv => h.writing v (List.mem_cons_of_mem w hv)
      case once => exact honce
    -- the rounds of the others leave the line of the first webview alone
    obtain ⟨s', hcarries, hbridge, hlinks', hsessions, hframe⟩ := ih hlinks
    have hw : s'.lines w.session = { webview := down.2.1.connection } :=
      (hframe _ hnew).trans (Function.update_self ..)
    have hsame : (Loopback.carry (w :: ws) s.bridge).2.1.map (·.session) =
        (w :: ws).map (·.session) := congrArg (w.session :: ·) hsessions
    refine ⟨s', hvisit.1.trans hcarries, hbridge, ?_, hsame, ?_⟩
    · constructor
      case line => exact List.forall_mem_cons.2 ⟨hw, hlinks'.line⟩
      case writing => exact List.forall_mem_cons.2 ⟨hvisit.2, hlinks'.writing⟩
      case once =>
        rw [hsame]
        exact h.once
    · intro id hid
      obtain ⟨hne, hid⟩ := List.ne_and_not_mem_of_not_mem_cons hid
      rw [hframe id hid, hothers id hne]

/-- To let frames go to and fro for some rounds is a run in which nothing else happens. -/
lemma Shows.exists_after_exchange {l : Loopback} (h : s.Shows l) (n : ℕ) :
    ∃ s', s.CarriesTo s' ∧ s'.Shows (l.exchange n) := by
  induction n generalizing s l with
  | zero => exact ⟨s, .refl s, h⟩
  | succ n ih =>
    obtain ⟨s', hcarries, hbridge, hlinks, -⟩ := exists_after_carry h.links
    rw [h.bridge] at hbridge hlinks
    rcases hround : Loopback.carry l.webviews l.bridge with ⟨b, ws, moved⟩
    rw [hround] at hbridge hlinks
    have hshows : s'.Shows { l with bridge := b, webviews := ws } := ⟨hbridge, hlinks⟩
    rw [Loopback.exchange, hround]
    cases moved with
    | true =>
      obtain ⟨s'', hrest, hshows'⟩ := ih hshows
      exact ⟨s'', hcarries.trans hrest, hshows'⟩
    | false => exact ⟨s', hcarries, hshows⟩

/-- **To let frames go to and fro is a run in which frames are carried, and nothing else happens
in it.** -/
theorem Shows.exists_settle {l : Loopback} (h : s.Shows l) :
    ∃ s', s.CarriesTo s' ∧ s'.Shows l.settle :=
  h.exists_after_exchange Messenger.patience

/-! ## What is done with a loopback is a run -/

/-- To do something with the host, and let frames go to and fro, is a run. -/
theorem Shows.exists_withBridge {l : Loopback} (h : s.Shows l) {α : Type}
    {f : BridgeHost → BridgeHost × α} {t : BridgeHost.Turn}
    (hf : (f l.bridge).1 = l.bridge.turn t) :
    ∃ s', (s.turn (.host t)).CarriesTo s' ∧ s'.Shows (l.withBridge f).1 := by
  have hbridge : (s.turn (.host t)).bridge = (f l.bridge).1 := by
    rw [hf, ← h.bridge]
    rfl
  have hshows : (s.turn (.host t)).Shows { l with bridge := (f l.bridge).1 } := ⟨hbridge, h.links⟩
  exact hshows.exists_settle

/-- To ping all sessions, and let frames go to and fro, is a run. -/
theorem Shows.exists_pingAll {l : Loopback} (h : s.Shows l) :
    ∃ s', (s.turn (.host (.announce Payload.ping.announcement))).CarriesTo s' ∧
      s'.Shows (l.withBridge (·.pingAll)).1 :=
  h.exists_withBridge rfl

/-- To do something with one webview leaves the lines of the others as they are. -/
lemma Links.map {ws : List LinkedWebview} (h : Links s.lines ws) (id : SessionId)
    {c : WebviewConnection} (hc : c.writing = true) :
    Links (s.withLine id { webview := c })
      (ws.map fun w => if w.session = id then { w with connection := c } else w) := by
  constructor
  case line =>
    refine List.forall_mem_map.2 fun w hw => ?_
    split_ifs with hid
    · rw [← hid]
      exact Function.update_self ..
    · exact (Function.update_of_ne hid ..).trans (h.line w hw)
  case writing =>
    refine List.forall_mem_map.2 fun w hw => ?_
    split_ifs
    · exact hc
    · exact h.writing w hw
  case once =>
    have hsame : (ws.map fun w => if w.session = id then { w with connection := c } else w).map
        (·.session) = ws.map (·.session) := by
      rw [List.map_map]
      refine List.map_congr_left fun w _ => ?_
      simp only [Function.comp_apply]
      split_ifs <;> rfl
    rw [hsame]
    exact h.once

/-- To let a webview do something with its messenger, and frames go to and fro, is a run. -/
theorem Shows.exists_withMessenger {l : Loopback} (h : s.Shows l) {id : SessionId}
    {c : WebviewConnection} (hc : l.webview? id = some c) (o : Operation) :
    ∃ s', (s.turn (.line id (.begin o))).CarriesTo s' ∧
      s'.Shows (l.withMessenger id (·.begin o)).1 := by
  obtain ⟨w, hfound, rfl⟩ := Option.map_eq_some_iff.1 hc
  have hw := List.mem_of_find?_eq_some hfound
  have hid : w.session = id := by simpa using List.find?_some hfound
  have hline : s.lines id = { webview := w.connection } := hid ▸ h.links.line w hw
  have hshows : (s.turn (.line id (.begin o))).Shows
      (l.mapWebview id fun _ => (w.connection.withMessenger (·.begin o)).1) := by
    refine ⟨h.bridge, ?_⟩
    rw [turn, hline]
    exact h.links.map id (c := (w.connection.withMessenger (·.begin o)).1) (h.links.writing w hw)
  obtain ⟨s', hcarries, hshows'⟩ := hshows.exists_settle
  refine ⟨s', hcarries, ?_⟩
  rw [Loopback.withMessenger, hc]
  exact hshows'

variable (s) in
lemma after_host (us : List BridgeHost.Turn) :
    s.after (us.map .host) = { s with bridge := s.bridge.after us } := by
  induction us generalizing s with
  | nil => rfl
  | cons u us ih => exact ih (s.turn (.host u))

variable (s) in
/-- The same move on several lines. -/
lemma after_lines (v : Line.Move) {ids : List SessionId} (hids : ids.Nodup) :
    s.after (ids.map fun id => .line id v) =
      { s with lines := fun id => if id ∈ ids then (s.lines id).move v else s.lines id } := by
  induction ids generalizing s with
  | nil => simp [after]
  | cons A ids ih =>
    obtain ⟨hA, hids⟩ := List.nodup_cons.1 hids
    rw [List.map_cons, after, List.foldl_cons, ← after, ih _ hids]
    simp only [turn, withLine, mk.injEq, true_and]
    funext id
    by_cases hid : id = A
    · subst hid
      rw [if_neg hA, if_pos List.mem_cons_self, Function.update_self]
    · simp only [List.mem_cons, hid, false_or, Function.update_of_ne, ne_eq, not_false_eq_true]

/-- The turns in which time passes at both ends of all lines. -/
def passing (l : Loopback) (ms : ℕ) : List Turn :=
  ((l.webviews.map (·.session)).map fun id => .line id (.wait ms)) ++
    (l.bridge.passing ms).map .host

/-- To let time pass, and frames go to and fro, is a run. -/
theorem Shows.exists_advance {l : Loopback} (h : s.Shows l) (ms : ℕ) :
    ∃ s', (s.after (passing l ms)).CarriesTo s' ∧ s'.Shows (l.advance ms) := by
  refine exists_settle ?_
  rw [passing, after_append, after_lines s _ h.links.once, after_host]
  constructor
  case bridge =>
    rw [BridgeHost.advance_eq_after]
    exact congrArg (·.after (l.bridge.passing ms)) h.bridge
  case links =>
    constructor
    case line =>
      refine List.forall_mem_map.2 fun w hw => ?_
      have hsession : w.session ∈ l.webviews.map (·.session) := List.mem_map_of_mem hw
      simp only [if_pos hsession, h.links.line w hw]
      rfl
    case writing => exact List.forall_mem_map.2 h.links.writing
    case once =>
      rw [List.map_map]
      exact h.links.once

/-! ## Pings and pongs at rest -/

/-- **While no frame is on its way, each ping that was sent to a linked session is with one of the
two ends, or its pong is, or its pong was counted.** -/
theorem Shows.pinged_eq {ts : List Turn} (h : s.EchoesPings ts) {l : Loopback}
    (hl : (s.after ts).Shows l) {k : HostConnection} (hk : k ∈ l.bridge.connections)
    (hlost : k.lost = false) {w : LinkedWebview} (hw : w ∈ l.webviews)
    (hsession : w.session = k.id) :
    s.pinged k.id ts =
      k.pings + (w.connection.outbound.countP (fun f => (Frame.text f).isPong) + k.pongs) +
        k.session.pongs := by
  have hline : (s.after ts).lines k.id = { webview := w.connection } :=
    hsession ▸ hl.links.line w hw
  have hbalance := h.balance k (hl.bridge ▸ hk) hlost
  rw [pingsInFlight, pongsInFlight, hline, Line.pings, Line.pongs, List.append_nil] at hbalance
  exact hbalance

end Traffic

end WebviewBridge
