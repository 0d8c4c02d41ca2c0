import WebviewBridge.Handshake.Upgrade
import WebviewBridge.Proofs.Text.Utf8

/-!
# The token in an address

A text in a form stands for itself (`Form.decode_encode`), so the query of a bridge's address has
one pair, whose key is that of the token and whose value is the token.  Main statement:
`UpgradeAnswer.ofTarget_bridgeUrl`, a host lets in who dials the address with its own token, and
nobody who dials it with another one.
-/

namespace WebviewBridge

/-! ## Forms -/

namespace Form

/-- What a byte looks like in a form. -/
inductive Encoded (b : UInt8) : List Char → Prop
  | plain {c : Char} (hplus : c ≠ '+') (hpercent : c ≠ '%')
      (hbytes : String.utf8EncodeChar c = [b]) : Encoded b [c]
  | blank (hb : b = 0x20) : Encoded b ['+']
  | hex {c d : Char} (hbyte : hexByte? c d = some b) : Encoded b ['%', c, d]

/-- A character that stays as it is in a form is a byte of its own. -/
lemma plain_of_isAlphanum {b : UInt8} (hb : b.toNat < 0x80) :
    let c := Char.ofNat b.toNat
    (c.isAlphanum ∨ c = '*' ∨ c = '-' ∨ c = '.' ∨ c = '_') →
      c ≠ '+' ∧ c ≠ '%' ∧ String.utf8EncodeChar c = [b] := by
  have hall : ∀ n : Fin 128,
      let c := Char.ofNat n
      (c.isAlphanum ∨ c = '*' ∨ c = '-' ∨ c = '.' ∨ c = '_') →
        c ≠ '+' ∧ c ≠ '%' ∧ String.utf8EncodeChar c = [UInt8.ofNat n] := by
    decide +kernel
  have h := hall ⟨b.toNat, hb⟩
  rwa [UInt8.ofNat_toNat] at h

lemma hexByte?_upperHexDigit (b : UInt8) :
    hexByte? (upperHexDigit (b.toNat / 16)) (upperHexDigit (b.toNat % 16)) = some b := by
  have hall : ∀ n : Fin 256,
      hexByte? (upperHexDigit (n / 16)) (upperHexDigit (n % 16)) = some (UInt8.ofNat n) := by
    decide +kernel
  have h := hall ⟨b.toNat, b.toNat_lt⟩
  rwa [UInt8.ofNat_toNat] at h

lemma encoded_encodeByte (b : UInt8) : Encoded b (encodeByte b) := by
  rw [encodeByte]
  split
  · next hplain =>
    obtain ⟨hplus, hpercent, hbytes⟩ := plain_of_isAlphanum hplain.1 hplain.2
    exact .plain hplus hpercent hbytes
  split
  · next hblank =>
    have hall : ∀ n : Fin 256, Char.ofNat n = ' ' → UInt8.ofNat n = 0x20 := by decide +kernel
    have hb := hall ⟨b.toNat, b.toNat_lt⟩ hblank
    exact .blank (by rwa [UInt8.ofNat_toNat] at hb)
  · exact .hex (hexByte?_upperHexDigit b)

/-- A byte in a form stands for itself. -/
lemma decodeBytes_encodeByte (b : UInt8) (cs : List Char) :
    decodeBytes (encodeByte b ++ cs) = b :: decodeBytes cs := by
  have hencoded := encoded_encodeByte b
  generalize encodeByte b = x at hencoded
  cases hencoded with
  | plain hplus hpercent hbytes =>
    rw [List.singleton_append, decodeBytes]
    · rw [hbytes, List.singleton_append]
    · exact hplus
    · exact fun _ _ _ h => absurd h hpercent
  | blank hb =>
    rw [List.singleton_append, decodeBytes, hb]
  | hex hbyte =>
    change decodeBytes ('%' :: _ :: _ :: cs) = _
    rw [decodeBytes, hbyte]

lemma decodeBytes_flatMap (bs : List UInt8) : decodeBytes (bs.flatMap encodeByte) = bs := by
  induction bs with
  | nil => rw [List.flatMap_nil, decodeBytes]
  | cons b bs ih => rw [List.flatMap_cons, decodeBytes_encodeByte, ih]

/-- **A text in a form stands for itself.** -/
theorem decode_encode (s : String) : decode (encode s) = s := by
  rw [decode, encode, decodeBytes_flatMap, Text.decodeLossy_encode]

/-- No separator of pairs stands in the form of a text. -/
lemma notMem_encode (s : String) : '&' ∉ encode s := by
  have hall : ∀ n : Fin 256, '&' ∉ encodeByte (UInt8.ofFin n) := by decide +kernel
  intro h
  obtain ⟨b, -, hb⟩ := List.mem_flatMap.1 h
  exact hall b.toFin hb

/-! ### Pairs -/

lemma split_of_notMem {separator : Char} {cs : List Char} (h : separator ∉ cs) :
    split separator cs = [cs] := by
  induction cs with
  | nil => rfl
  | cons c cs ih =>
    rw [List.mem_cons, not_or] at h
    rw [split, ih h.2]
    simp only [if_neg (Ne.symm h.1)]

/-- The first separator is where a text is cut. -/
lemma cut_append {separator : Char} {before : List Char} (h : separator ∉ before)
    (after : List Char) : cut separator (before ++ separator :: after) = (before, after) := by
  have hbefore : ∀ c ∈ before, decide (c ≠ separator) = true := by
    intro c hc
    simp only [ne_eq, decide_not, Bool.not_eq_true', decide_eq_false_iff_not]
    rintro rfl
    exact h hc
  rw [cut, List.takeWhile_append_of_pos hbefore, List.dropWhile_append_of_pos hbefore]
  simp

/-- A query of one pair. -/
lemma pairs_singleton {key value : List Char} (hkey : '&' ∉ key) (hkey' : '=' ∉ key)
    (hvalue : '&' ∉ value) :
    pairs (key ++ '=' :: value) = [(decode key, decode value)] := by
  have hquery : '&' ∉ key ++ '=' :: value := by simp [hkey, hvalue]
  rw [pairs, split_of_notMem hquery]
  simp [cut_append hkey']

end Form

/-! ## Addresses -/

/-- The path and query of an address: what follows its scheme and the machine and port. -/
def pathAndQuery (url : String) : List Char :=
  (url.toList.drop "ws://".length).dropWhile (· ≠ '/')

lemma toList_bridgeTarget (token : String) :
    (bridgeTarget token).toList =
      '/' :: '?' :: (tokenParameter.toList ++ '=' :: Form.encode token) := by
  simp [bridgeTarget]

/-- No slash stands in the machine and port of an address. -/
lemma pathAndQuery_bridgeUrl (port : Nat) (token : String) :
    pathAndQuery (bridgeUrl port token) = (bridgeTarget token).toList := by
  have hport : '/' ∉ (if port = defaultPort then "" else ":" ++ toString port).toList := by
    split
    · exact nofun
    · rw [String.toList_append, List.mem_append]
      rintro (h | h)
      · exact absurd h (by decide)
      · change '/' ∈ (Nat.repr port).toList at h
        rw [Nat.toList_repr] at h
        exact absurd (Nat.isDigit_of_mem_toDigits (by decide) (by decide) h) (by decide)
  have hhost : '/' ∉ bridgeHostname.toList := by decide
  rw [pathAndQuery, bridgeUrl]
  generalize (if port = defaultPort then "" else ":" ++ toString port) = portText at hport
  have hurl : ("ws://" ++ bridgeHostname ++ portText ++ bridgeTarget token).toList =
      "ws://".toList ++ ((bridgeHostname.toList ++ portText.toList) ++
        (bridgeTarget token).toList) := by
    simp only [String.toList_append, List.append_assoc]
  have hauthority : ∀ c ∈ bridgeHostname.toList ++ portText.toList, decide (c ≠ '/') = true := by
    intro c hc
    refine decide_eq_true ?_
    rintro rfl
    exact (List.mem_append.1 hc).elim hhost hport
  rw [hurl, ← String.length_toList, List.drop_left, List.dropWhile_append_of_pos hauthority,
    toList_bridgeTarget]
  rfl

/-- The query under which a bridge is reached has one pair, that of the token. -/
lemma queryToken?_bridgeTarget (token : String) :
    queryToken? (targetQuery (bridgeTarget token).toList) = some token := by
  have hkey : '&' ∉ tokenParameter.toList ∧ '=' ∉ tokenParameter.toList := by decide
  have hname : Form.decode tokenParameter.toList = tokenParameter := by
    have hplain : Form.encode tokenParameter = tokenParameter.toList := by decide +kernel
    rw [← hplain, Form.decode_encode]
  -- nothing is cut off as a fragment
  have hsign : '#' ∉ (bridgeTarget token).toList := by
    have hencode : '#' ∉ Form.encode token := fun h =>
      absurd (RequestTarget.isQueryChar_of_mem_encode h) (by decide)
    rw [toList_bridgeTarget]
    simp [tokenParameter, hencode]
  have hquery : targetQuery (bridgeTarget token).toList =
      tokenParameter.toList ++ '=' :: Form.encode token := by
    have hpath : '?' ∉ ['/'] := by decide
    rw [targetQuery, RequestTarget.cut_of_notMem hsign, toList_bridgeTarget]
    exact congrArg Prod.snd (Form.cut_append hpath _)
  rw [queryToken?, hquery, Form.pairs_singleton hkey.1 hkey.2 (Form.notMem_encode token), hname,
    Form.decode_encode]
  simp

/-- **A host lets in who dials the address with its own token, and nobody else.** -/
theorem UpgradeAnswer.ofTarget_bridgeUrl (port : Nat) (token t : String) :
    ofTarget token (pathAndQuery (bridgeUrl port t)) = .accepted ↔ t = token := by
  rw [ofTarget, accepts, pathAndQuery_bridgeUrl, queryToken?_bridgeTarget]
  by_cases h : t = token <;> simp [h]

end WebviewBridge
