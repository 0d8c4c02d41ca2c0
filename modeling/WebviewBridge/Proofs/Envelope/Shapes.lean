import WebviewBridge.Envelope
import WebviewBridge.Proofs.Json.Layouts

/-!
# Which values are envelopes

An envelope is written as an object, or as an array of its fields in order.
`OutgoingMessage.WrittenAs` and `IncomingMessage.WrittenAs` say which values those are, and which
message each of them is: in an object every field has one value at most, and other keys are ignored.
Main statement: any text of a value of integers that is not too deep is read as a message exactly if
the message is written as that value (`parse_iff_writtenAs`).
-/

namespace WebviewBridge

open Json

/-- Whether a value names a destination: with its name, or with an object of that one key and null
under it. -/
def Destination.IsNamedBy (d : Destination) (v : Value) : Prop :=
  v = .str d.name ∨ v = .obj [(d.name, .null)]

/-- Whether a message from a webview is written as a value. -/
inductive OutgoingMessage.WrittenAs : OutgoingMessage → Value → Prop
  /-- As an object.  A payload of null is none. -/
  | object {ms : List (String × Value)} {id messageType : String} {destination : Destination}
      {name : Value} (payload : Option Value)
      (hid : valuesUnder ["messageId"] ms = [.str id])
      (hdestination : valuesUnder ["destination"] ms = [name])
      (hname : destination.IsNamedBy name)
      (htype : valuesUnder ["messageType"] ms = [.str messageType])
      (hpayload : valuesUnder ["payload"] ms = payload.toList) :
      WrittenAs ⟨⟨id⟩, destination, messageType, payload.bind Value.content⟩ (.obj ms)
  /-- As an array, with a payload or without. -/
  | array {id messageType : String} {destination : Destination} {name : Value}
      (payload : Option Value) (hname : destination.IsNamedBy name) :
      WrittenAs ⟨⟨id⟩, destination, messageType, payload.bind Value.content⟩
        (.arr ([.str id, name, .str messageType] ++ payload.toList))

/-- Whether a message from the host is written as a value. -/
inductive IncomingMessage.WrittenAs : IncomingMessage → Value → Prop
  /-- As an object.  An identifier of null is none. -/
  | object {ms : List (String × Value)} {messageType : String} (data : Option Value)
      (id : Option (Option String))
      (htype : valuesUnder ["messageType"] ms = [.str messageType])
      (hdata : valuesUnder ["data", "payload"] ms = data.toList)
      (hid : valuesUnder ["messageId"] ms = (id.map Value.ofString?).toList) :
      WrittenAs ⟨messageType, (data.map Value.canonical).getD .null, id.join.map .mk⟩ (.obj ms)
  /-- As an array of the type alone. -/
  | one (messageType : String) : WrittenAs ⟨messageType, .null, none⟩ (.arr [.str messageType])
  /-- As an array of the type and the content. -/
  | two (messageType : String) (data : Value) :
      WrittenAs ⟨messageType, data.canonical, none⟩ (.arr [.str messageType, data])
  /-- As an array of all fields. -/
  | three (messageType : String) (data : Value) (id : Option String) :
      WrittenAs ⟨messageType, data.canonical, id.map .mk⟩
        (.arr [.str messageType, data, .ofString? id])

/-! ## From a webview to the host -/

namespace Destination

variable {d : Destination}

lemma lookup_names {name : String} : names.lookup name = some d ↔ name = d.name := by
  by_cases hcreator : name = "creator"
  · subst hcreator
    cases d <;> decide
  by_cases hsettings : name = "settings"
  · subst hsettings
    cases d <;> decide
  · cases d <;> simp [names, Destination.name, List.lookup_cons, beq_false_of_ne hcreator,
      beq_false_of_ne hsettings, hcreator, hsettings]

lemma named?_eq_some {v : Value} : v.named? names = some d ↔ d.IsNamedBy v := by
  rw [Value.named?.eq_def]
  split
  · simp [lookup_names, IsNamedBy]
  · simp [lookup_names, IsNamedBy]
  · next hstr hobj =>
    simp only [reduceCtorEq, false_iff, IsNamedBy]
    rintro (h | h)
    · exact hstr _ h
    · exact hobj _ h

end Destination

namespace OutgoingMessage

/-- What the fields of an envelope make of a value. -/
def accept (name : String) (v : Value) : Option (Draft → Draft) :=
  match name with
  | "messageId" => v.string?.map fun x d => { d with id := some x }
  | "destination" => (v.named? Destination.names).map fun x d => { d with destination := some x }
  | "messageType" => v.string?.map fun x d => { d with messageType := some x }
  | "payload" => (some v.content).map fun x d => { d with payload := some x }
  | _ => none

lemma layout_follows (room : Nat) : layout.Follows room accept := by
  refine ⟨?_, rfl⟩
  intro f hf v hv hdepth
  simp only [layout, List.mem_cons, List.not_mem_nil, or_false] at hf
  rcases hf with rfl | rfl | rfl | rfl
  · exact (settles_textValue hv room).bind fun x (d : Draft) => { d with id := some x }
  · exact (settles_nameValue Destination.names hv hdepth).bind
      fun x (d : Draft) => { d with destination := some x }
  · exact (settles_textValue hv room).bind fun x (d : Draft) => { d with messageType := some x }
  · exact (settles_content hv hdepth).bind fun x (d : Draft) => { d with payload := some x }

/-- Each field is filled with the values under its own key. -/
lemma ofMembers_iff (ms : List (String × Value)) (d d' : Draft) :
    layout.ofMembers accept d ms = some d' ↔
      Fills Value.string? d.id (valuesUnder ["messageId"] ms) d'.id ∧
      Fills (Value.named? Destination.names) d.destination (valuesUnder ["destination"] ms)
        d'.destination ∧
      Fills Value.string? d.messageType (valuesUnder ["messageType"] ms) d'.messageType ∧
      Fills (fun v => some v.content) d.payload (valuesUnder ["payload"] ms) d'.payload := by
  induction ms generalizing d with
  | nil =>
    obtain ⟨i, n, t, p⟩ := d
    obtain ⟨i', n', t', p'⟩ := d'
    simp [Layout.ofMembers, valuesUnder, fills_nil]
  | cons m ms ih =>
    obtain ⟨k, v⟩ := m
    by_cases hid : k = "messageId"
    · subst hid
      rw [Layout.ofMembers_cons_field (f := layout.fields[0]) (x := d.id) rfl rfl rfl]
      simp only [ih, valuesUnder_cons, List.mem_singleton, fills_cons, if_true, String.reduceEq,
        if_false]
      tauto
    by_cases hdestination : k = "destination"
    · subst hdestination
      rw [Layout.ofMembers_cons_field (f := layout.fields[1]) (x := d.destination) rfl rfl rfl]
      simp only [ih, valuesUnder_cons, List.mem_singleton, fills_cons, if_true, String.reduceEq,
        if_false]
      tauto
    by_cases htype : k = "messageType"
    · subst htype
      rw [Layout.ofMembers_cons_field (f := layout.fields[2]) (x := d.messageType) rfl rfl rfl]
      simp only [ih, valuesUnder_cons, List.mem_singleton, fills_cons, if_true, String.reduceEq,
        if_false]
      tauto
    by_cases hpayload : k = "payload"
    · subst hpayload
      rw [Layout.ofMembers_cons_field (f := layout.fields[3]) (x := d.payload)
        (r := fun v => some v.content) (g := fun x d => { d with payload := some x }) rfl rfl rfl]
      simp only [ih, valuesUnder_cons, List.mem_singleton, fills_cons, if_true, String.reduceEq,
        if_false, Option.some.injEq, exists_eq_left']
      tauto
    · have hfield : layout.fields.find? (·.hasName k) = none := by
        simp [layout, Field.hasName, hid, hdestination, htype, hpayload]
      rw [Layout.ofMembers_cons_other hfield]
      simp only [ih, valuesUnder_cons, List.mem_singleton, hid, hdestination, htype, hpayload,
        if_false]

lemma finish_iff (d : Draft) (m : OutgoingMessage) :
    (layout.finish d).toOption = some m ↔
      d.id = some m.id.text ∧ d.destination = some m.destination ∧
        d.messageType = some m.messageType ∧ d.payload.join = m.payload := by
  obtain ⟨i, n, t, p⟩ := d
  obtain ⟨⟨id⟩, destination, messageType, payload⟩ := m
  cases i <;> cases n <;> cases t <;> simp [layout, required, ok_bind, error_bind, Except.toOption]

lemma ofValue_obj_iff (ms : List (String × Value)) (m : OutgoingMessage) :
    layout.ofValue accept (.obj ms) = some m ↔ m.WrittenAs (.obj ms) := by
  have hempty : layout.empty = {} := rfl
  simp only [Layout.ofValue, Option.bind_eq_some_iff, ofMembers_iff, finish_iff, hempty]
  constructor
  · rintro ⟨d, ⟨hid, hdestination, htype, hpayload⟩, hid', hdestination', htype', hpayload'⟩
    rw [hid', fills_written fun _ _ => Value.string?_eq_some] at hid
    rw [hdestination', fills_some] at hdestination
    rw [htype', fills_written fun _ _ => Value.string?_eq_some] at htype
    obtain ⟨name, hdestination, hname⟩ := hdestination
    obtain ⟨payload, hpayload, hfound⟩ := fills_optional.1 hpayload
    rw [Destination.named?_eq_some] at hname
    have h := WrittenAs.object payload hid hdestination hname htype hpayload
    have hcontent : d.payload.join = payload.bind Value.content := by
      rw [← hfound]
      cases payload <;> rfl
    rwa [← hcontent, hpayload'] at h
  · rintro (@⟨_, id, messageType, destination, name, payload, hid, hdestination, hname, htype,
      hpayload⟩)
    rw [← Destination.named?_eq_some] at hname
    refine ⟨⟨some id, some destination, some messageType, payload.map Value.content⟩,
      ⟨fills_some.2 ⟨_, hid, rfl⟩, fills_some.2 ⟨_, hdestination, hname⟩,
        fills_some.2 ⟨_, htype, rfl⟩, fills_optional.2 ⟨_, hpayload, rfl⟩⟩, rfl, rfl, rfl, ?_⟩
    cases payload <;> rfl

lemma ofValue_arr_iff (vs : List Value) (m : OutgoingMessage) :
    layout.ofValue accept (.arr vs) = some m ↔ m.WrittenAs (.arr vs) := by
  constructor
  · intro h
    match vs with
    | [] | [_] | [_, _] => cases h
    | id :: name :: messageType :: others =>
      obtain ⟨d, hitems, hfinish⟩ := Option.bind_eq_some_iff.1 h
      obtain ⟨_, hid, hitems₁⟩ := (Layout.ofItems_cons (f := layout.fields[0]) rfl).1 hitems
      obtain ⟨_, hname, hitems₂⟩ := (Layout.ofItems_cons (f := layout.fields[1]) rfl).1 hitems₁
      obtain ⟨_, htype, hitems₃⟩ := (Layout.ofItems_cons (f := layout.fields[2]) rfl).1 hitems₂
      rw [Value.string?_eq_some] at hid htype
      rw [Destination.named?_eq_some] at hname
      subst hid htype
      -- what comes after the three is the payload, and nothing behind it
      match others with
      | [] =>
        cases hitems₃
        cases hfinish
        exact .array none hname
      | [payload] =>
        cases hitems₃
        cases hfinish
        exact .array (some payload) hname
      | _ :: _ :: _ => cases hitems₃
  · rintro (_ | @⟨id, messageType, destination, name, payload, hname⟩)
    rw [← Destination.named?_eq_some] at hname
    have hitems : Layout.ofItems accept layout.fields {}
        (.str id :: name :: .str messageType :: payload.toList) =
          some ⟨id, destination, messageType, payload.map Value.content⟩ := by
      simp only [layout, Layout.ofItems, accept, Value.string?, hname, Option.map_some,
        Option.bind_some]
      cases payload <;> rfl
    cases payload <;> exact Option.bind_eq_some_iff.2 ⟨_, hitems, rfl⟩

lemma ofValue_iff (v : Value) (m : OutgoingMessage) :
    layout.ofValue accept v = some m ↔ m.WrittenAs v := by
  cases v with
  | obj ms => exact ofValue_obj_iff ms m
  | arr vs => exact ofValue_arr_iff vs m
  | null | bool _ | num _ | str _ => constructor <;> intro h <;> cases h

/-- A text is read as the message that is written as its value. -/
lemma parse_iff {v : Value} (hv : v.IsIntegral) (hdepth : v.depth ≤ depthLimit)
    {w cs w' : List Char} (hw : IsBlank w) (hcs : v.IsText cs) (hw' : IsBlank w')
    (m : OutgoingMessage) : parse (String.ofList (w ++ cs ++ w')) = .ok m ↔ m.WrittenAs v :=
  (((layout_follows 126).settles hv hdepth).readText_iff hw hcs hw' m).trans (ofValue_iff v m)

/-- In an array the destination comes before the type: with the two exchanged there is no
message. -/
theorem parse_exchanged :
    let exchanged : Value := .arr [.str "1", .str "t", .str "creator"]
    let ordered : Value := .arr [.str "1", .str "creator", .str "t"]
    (exchanged.IsIntegral ∧ exchanged.depth ≤ depthLimit ∧ ∀ m, parse exchanged.text ≠ .ok m) ∧
      parse ordered.text = .ok ⟨⟨"1"⟩, .creator, "t", none⟩ := by
  intro exchanged ordered
  have hparse : ∀ v : Value, v.IsIntegral → v.depth ≤ depthLimit → ∀ m,
      parse v.text = .ok m ↔ layout.ofValue accept v = some m := by
    intro v hv hdepth m
    rw [ofValue_iff, ← parse_iff hv hdepth isBlank_nil v.isText_chars isBlank_nil m,
      List.nil_append, List.append_nil, Value.text]
  have hintegral : exchanged.IsIntegral := ⟨trivial, trivial, trivial, trivial⟩
  have hdepth : exchanged.depth ≤ depthLimit := by decide
  refine ⟨⟨hintegral, hdepth, fun m h => ?_⟩, ?_⟩
  · -- the second item names no destination
    have hnone : layout.ofValue accept exchanged = none := rfl
    cases hnone.symm.trans ((hparse exchanged hintegral hdepth m).1 h)
  · exact (hparse ordered ⟨trivial, trivial, trivial, trivial⟩ (by decide) _).2 rfl

end OutgoingMessage

/-! ## From the host to a webview -/

namespace IncomingMessage

/-- What the fields of an envelope make of a value. -/
def accept (name : String) (v : Value) : Option (Draft → Draft) :=
  match name with
  | "messageType" => v.string?.map fun x d => { d with messageType := some x }
  | "data" => (some v.canonical).map fun x d => { d with data := some x }
  | "messageId" => v.optionalString?.map fun x d => { d with id := some x }
  | _ => none

lemma layout_follows (room : Nat) : layout.Follows room accept := by
  refine ⟨?_, rfl⟩
  intro f hf v hv hdepth
  simp only [layout, List.mem_cons, List.not_mem_nil, or_false] at hf
  rcases hf with rfl | rfl | rfl
  · exact (settles_textValue hv room).bind fun x (d : Draft) => { d with messageType := some x }
  · exact (settles_anyValue hv hdepth).bind fun x (d : Draft) => { d with data := some x }
  · exact ((settles_textValue hv room).orNull hv).bind fun x (d : Draft) => { d with id := some x }

/-- Each field is filled with the values under its own keys. -/
lemma ofMembers_iff (ms : List (String × Value)) (d d' : Draft) :
    layout.ofMembers accept d ms = some d' ↔
      Fills Value.string? d.messageType (valuesUnder ["messageType"] ms) d'.messageType ∧
      Fills (fun v => some v.canonical) d.data (valuesUnder ["data", "payload"] ms) d'.data ∧
      Fills Value.optionalString? d.id (valuesUnder ["messageId"] ms) d'.id := by
  induction ms generalizing d with
  | nil =>
    obtain ⟨t, a, i⟩ := d
    obtain ⟨t', a', i'⟩ := d'
    simp [Layout.ofMembers, valuesUnder, fills_nil]
  | cons m ms ih =>
    obtain ⟨k, v⟩ := m
    by_cases htype : k = "messageType"
    · subst htype
      rw [Layout.ofMembers_cons_field (f := layout.fields[0]) (x := d.messageType) rfl rfl rfl]
      simp only [ih, valuesUnder_cons, List.mem_cons, List.not_mem_nil, or_false, fills_cons,
        if_true, String.reduceEq, if_false, or_self]
      tauto
    by_cases hid : k = "messageId"
    · subst hid
      rw [Layout.ofMembers_cons_field (f := layout.fields[2]) (x := d.id) rfl rfl rfl]
      simp only [ih, valuesUnder_cons, List.mem_cons, List.not_mem_nil, or_false, fills_cons,
        if_true, String.reduceEq, if_false, or_self]
      tauto
    by_cases hdata : k = "data" ∨ k = "payload"
    · have hfield : layout.fields.find? (·.hasName k) = some layout.fields[1] := by
        rcases hdata with rfl | rfl <;> rfl
      rw [Layout.ofMembers_cons_field (x := d.data) (r := fun v => some v.canonical)
        (g := fun x d => { d with data := some x }) hfield rfl rfl]
      simp only [ih, valuesUnder_cons, List.mem_cons, List.not_mem_nil, or_false, htype, hid, hdata,
        fills_cons, if_true, if_false, Option.some.injEq, exists_eq_left']
      tauto
    · have hfield : layout.fields.find? (·.hasName k) = none := by
        rw [not_or] at hdata
        simp [layout, Field.hasName, htype, hid, hdata, Ne.symm hdata.2]
      rw [Layout.ofMembers_cons_other hfield]
      simp only [ih, valuesUnder_cons, List.mem_cons, List.not_mem_nil, or_false, htype, hid, hdata,
        if_false]

lemma finish_iff (d : Draft) (m : IncomingMessage) :
    (layout.finish d).toOption = some m ↔
      d.messageType = some m.messageType ∧ d.data.getD .null = m.data ∧
        d.id.join.map MessageId.mk = m.id := by
  obtain ⟨t, a, i⟩ := d
  obtain ⟨messageType, data, id⟩ := m
  cases t <;> simp [layout, required, ok_bind, error_bind, Except.toOption]

lemma ofValue_obj_iff (ms : List (String × Value)) (m : IncomingMessage) :
    layout.ofValue accept (.obj ms) = some m ↔ m.WrittenAs (.obj ms) := by
  have hempty : layout.empty = {} := rfl
  simp only [Layout.ofValue, Option.bind_eq_some_iff, ofMembers_iff, finish_iff, hempty]
  constructor
  · rintro ⟨d, ⟨htype, hdata, hid⟩, htype', hdata', hid'⟩
    rw [htype', fills_written fun _ _ => Value.string?_eq_some] at htype
    rw [fills_written fun _ _ => Value.optionalString?_eq_some] at hid
    obtain ⟨data, hdata, hfound⟩ := fills_optional.1 hdata
    have h := WrittenAs.object data d.id htype hdata hid
    rwa [hfound, hdata', hid'] at h
  · rintro (@⟨_, messageType, data, id, htype, hdata, hid⟩)
    exact ⟨⟨some messageType, data.map Value.canonical, id⟩,
      ⟨fills_some.2 ⟨_, htype, rfl⟩, fills_optional.2 ⟨_, hdata, rfl⟩,
        (fills_written fun _ _ => Value.optionalString?_eq_some).2 hid⟩, rfl, rfl, rfl⟩

lemma ofValue_arr_iff (vs : List Value) (m : IncomingMessage) :
    layout.ofValue accept (.arr vs) = some m ↔ m.WrittenAs (.arr vs) := by
  constructor
  · intro h
    match vs with
    | [] => cases h
    | messageType :: others =>
      obtain ⟨d, hitems, hfinish⟩ := Option.bind_eq_some_iff.1 h
      obtain ⟨_, htype, hitems₁⟩ := (Layout.ofItems_cons (f := layout.fields[0]) rfl).1 hitems
      rw [Value.string?_eq_some] at htype
      subst htype
      match others with
      | [] =>
        cases hitems₁
        cases hfinish
        exact .one _
      | [data] =>
        cases hitems₁
        cases hfinish
        exact .two _ data
      | data :: id :: others =>
        obtain ⟨id', hid, hitems₂⟩ := (Layout.ofItems_cons (f := layout.fields[2]) rfl).1 hitems₁
        rw [Value.optionalString?_eq_some] at hid
        subst hid
        cases others with
        | nil =>
          cases hitems₂
          cases hfinish
          exact .three _ data id'
        | cons _ _ => cases hitems₂
  · rintro (_ | _ | _ | ⟨messageType, data, _ | id⟩) <;> rfl

lemma ofValue_iff (v : Value) (m : IncomingMessage) :
    layout.ofValue accept v = some m ↔ m.WrittenAs v := by
  cases v with
  | obj ms => exact ofValue_obj_iff ms m
  | arr vs => exact ofValue_arr_iff vs m
  | null | bool _ | num _ | str _ => constructor <;> intro h <;> cases h

/-- A text is read as the message that is written as its value. -/
lemma parse_iff {v : Value} (hv : v.IsIntegral) (hdepth : v.depth ≤ depthLimit)
    {w cs w' : List Char} (hw : IsBlank w) (hcs : v.IsText cs) (hw' : IsBlank w')
    (m : IncomingMessage) : parse (String.ofList (w ++ cs ++ w')) = .ok m ↔ m.WrittenAs v :=
  (((layout_follows 126).settles hv hdepth).readText_iff hw hcs hw' m).trans (ofValue_iff v m)

end IncomingMessage

/-- **A text is read as an envelope exactly if its value is one**, whatever white space the text
has: the host reads the message from a webview that is written as the value, a webview that from the
host, and a text of any other value is refused. -/
theorem parse_iff_writtenAs {v : Value} (hv : v.IsIntegral) (hdepth : v.depth ≤ depthLimit)
    {w cs w' : List Char} (hw : IsBlank w) (hcs : v.IsText cs) (hw' : IsBlank w') :
    (∀ m, OutgoingMessage.parse (String.ofList (w ++ cs ++ w')) = .ok m ↔ m.WrittenAs v) ∧
      ∀ m, IncomingMessage.parse (String.ofList (w ++ cs ++ w')) = .ok m ↔ m.WrittenAs v :=
  ⟨OutgoingMessage.parse_iff hv hdepth hw hcs hw', IncomingMessage.parse_iff hv hdepth hw hcs hw'⟩

/-- An object with a key of no field, a destination in the long form and a payload of null is read
on both sides, from a line of its own. -/
theorem parse_iff_writtenAs_long :
    let v : Value := .obj [("x", .int 1), ("messageId", .str "7"),
      ("destination", .obj [("settings", .null)]), ("messageType", .str "t"), ("payload", .null)]
    let text := String.ofList ([' '] ++ v.chars ++ ['\n'])
    v.IsIntegral ∧ v.depth ≤ depthLimit ∧
      OutgoingMessage.parse text = .ok ⟨⟨"7"⟩, .settings, "t", none⟩ ∧
      IncomingMessage.parse text = .ok ⟨"t", .null, some ⟨"7"⟩⟩ := by
  intro v text
  have hone : -(2 : Int).pow 63 ≤ 1 ∧ (1 : Int) < UInt64.size := by decide
  have hv : v.IsIntegral := ⟨hone, trivial, ⟨trivial, trivial⟩, trivial, trivial, trivial⟩
  have hdepth : v.depth ≤ depthLimit := by decide
  have hblank : IsBlank [' '] := by simp [IsBlank, Cursor.isSpace]
  have hline : IsBlank ['\n'] := by simp [IsBlank, Cursor.isSpace]
  have hparse := parse_iff_writtenAs hv hdepth hblank v.isText_chars hline
  refine ⟨hv, hdepth, (hparse.1 _).2 ?_, (hparse.2 _).2 ?_⟩
  · exact .object (some .null) rfl rfl (.inr rfl) rfl rfl
  · exact .object (some .null) (some (some "7")) rfl rfl rfl

end WebviewBridge
