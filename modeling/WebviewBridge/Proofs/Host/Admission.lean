import WebviewBridge.Proofs.Host.Turns

/-!
# Who is let in

A peer is let in if the first pair of its query whose key is the token's presents the token of the
host.  Any other well-formed request gets an answer that says so, a malformed one gets none, and
neither of them changes anything about the host.
-/

namespace WebviewBridge

/-- The first pair of the query whose key, decoded, is the token's has the token as its value,
decoded. -/
def PresentsToken (token : String) (target : List Char) : Prop :=
  ∃ before later, Form.pairs (targetQuery target) = before ++ (tokenParameter, token) :: later ∧
    ∀ p ∈ before, p.1 ≠ tokenParameter

/-- Exactly those are accepted who present the token. -/
theorem accepts_iff {token : String} {target : List Char} :
    accepts token target = true ↔ PresentsToken token target := by
  rw [accepts, beq_iff_eq, queryToken?, Option.map_eq_some_iff]
  constructor
  · rintro ⟨⟨key, value⟩, hfind, rfl⟩
    obtain ⟨hkey, before, later, hpairs, hbefore⟩ := List.find?_eq_some_iff_append.1 hfind
    obtain rfl : key = tokenParameter := beq_iff_eq.1 hkey
    exact ⟨before, later, hpairs, fun p hp => by simpa using hbefore p hp⟩
  · rintro ⟨before, later, hpairs, hbefore⟩
    refine ⟨(tokenParameter, token), List.find?_eq_some_iff_append.2 ?_, rfl⟩
    exact ⟨beq_self_eq_true _, before, later, hpairs, fun p hp => by simpa using hbefore p hp⟩

namespace BridgeHost

/-- The connection of a peer that is let in. -/
def newcomer (b : BridgeHost) : HostConnection :=
  { session := { id := b.freshSessions b.accepted }, nextPing := b.heartbeatMs.map (b.elapsed + ·) }

/-- What comes of the head of a request that has arrived in some packets. -/
inductive Greets (b : BridgeHost) (head : ByteArray) (packets : ℕ) : Exchange → Prop
  | incomplete (hhead : RequestHead.ofArrived packets head.toList = .error .incomplete) :
      Greets b head packets { bridge := b, peer := .greeting head packets }
  /-- A malformed request gets no answer. -/
  | malformed (hhead : RequestHead.ofArrived packets head.toList = .error .malformed) :
      Greets b head packets { bridge := b, peer := .gone }
  /-- A well-formed request that does not present the token is turned down. -/
  | unauthorized (request : RequestHead)
      (hhead : RequestHead.ofArrived packets head.toList = .ok request)
      (htoken : ¬ PresentsToken b.token request.target.toList) :
      Greets b head packets
        { bridge := b, peer := .gone
          bytes := "HTTP/1.1 401 Unauthorized\r\n\r\nInvalid authentication token".toUTF8 }
  /-- A well-formed request that presents the token becomes a session. -/
  | accepted (request : RequestHead)
      (hhead : RequestHead.ofArrived packets head.toList = .ok request)
      (htoken : PresentsToken b.token request.target.toList) :
      Greets b head packets
        { bridge :=
            { b with accepted := b.accepted + 1, connections := b.connections ++ [b.newcomer] }
          peer := .served (b.freshSessions b.accepted) {}
          bytes := (request.response .accepted).toUTF8 }

/-- Every head of a request is answered as it should be. -/
theorem greets (b : BridgeHost) (head : ByteArray) (packets : ℕ) :
    b.Greets head packets (Peer.greet b head packets) := by
  rw [Peer.greet]
  rcases hhead : RequestHead.ofArrived packets head.toList with (_ | _) | request
  · exact .incomplete hhead
  · exact .malformed hhead
  · by_cases htoken : PresentsToken b.token request.target.toList
    · have hanswer : UpgradeAnswer.ofTarget b.token request.target.toList = .accepted := by
        rw [UpgradeAnswer.ofTarget, if_pos (accepts_iff.2 htoken)]
      simp only [upgrade, hanswer]
      exact .accepted request hhead htoken
    · have hanswer : UpgradeAnswer.ofTarget b.token request.target.toList = .unauthorized := by
        rw [UpgradeAnswer.ofTarget, if_neg fun h => htoken (accepts_iff.1 h)]
      have hresponse : request.response .unauthorized =
          "HTTP/1.1 401 Unauthorized\r\n\r\nInvalid authentication token" := by
        rw [RequestHead.response]
        decide +kernel
      simp only [upgrade, hanswer, hresponse]
      exact .unauthorized request hhead htoken

end BridgeHost

end WebviewBridge
