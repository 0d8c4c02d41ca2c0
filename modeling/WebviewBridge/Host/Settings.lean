import WebviewBridge.Host.Procedure

/-!
# The messages of the settings screen

The settings screen asks for the account's tokens and replaces them.  An update replaces both
tokens; one without any token removes them.
-/

namespace WebviewBridge.Settings

/-- The command that an update of the tokens amounts to. -/
def updateCommand (t : AccountTokens) : StateCommand :=
  let c := Credentials.ofWire t
  if c.isEmpty then .clearCredentials else .setCredentials c

/-- Answers with the stored tokens. -/
def answerTokens (m : OutgoingMessage) : Handling Unit := do
  let c : Credentials ← Handling.ofEffect .credentials
  Handling.send (m.answer (.tokens c.toWire))

/-- Replaces the stored tokens, and acknowledges that. -/
def updateTokens (m : OutgoingMessage) (t : AccountTokens) : Handling Unit := do
  Handling.update (updateCommand t)
  Handling.send m.acknowledgement

/-- Handles a message to the settings.  Types that it does not know are passed over. -/
def handle (m : OutgoingMessage) : Handling Unit :=
  if m.messageType = Kind.tokensRequest.messageType then answerTokens m
  else if m.messageType = Kind.updateCredentials.messageType then do
    updateTokens m (← Handling.decoded AccountTokens.decode m)
  else
    Handling.log .warn ("Ignoring unknown settings message type: " ++ m.messageType)

end WebviewBridge.Settings
