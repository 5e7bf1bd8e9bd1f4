/-!
# The life of a connection

A connection is configured, shakes hands, is established, shuts down and is closed; from every
stage after the first it may also end in error. An established connection goes back to shaking
hands when it negotiates anew.
-/

namespace SocketlessTls

/-- Where a connection is in its life. -/
inductive State where
  /-- The configuration may still change and nothing has been sent. -/
  | configured
  /-- Handshake messages are being exchanged. -/
  | handshaking
  /-- Application data may flow both ways. -/
  | established
  /-- A closing alert has been sent and the peer's is awaited. -/
  | shuttingDown
  /-- Both closing alerts have been exchanged. -/
  | closed
  /-- A fatal failure ended the connection. -/
  | errored
  deriving Repr, DecidableEq

namespace State

/-- Every state. -/
def all : List State := [configured, handshaking, established, shuttingDown, closed, errored]

/-- Whether no further progress is possible. -/
def isTerminal : State → Bool
  | closed | errored => true
  | _ => false

/-- Whether the handshake has completed and no failure has followed. -/
def isEstablished : State → Bool
  | established | shuttingDown | closed => true
  | _ => false

/-- The text of a state. -/
def text : State → String
  | configured => "configured"
  | handshaking => "handshaking"
  | established => "established"
  | shuttingDown => "shutting down"
  | closed => "closed"
  | errored => "errored"

/-- The name of a state as a label. -/
def label : State → String
  | configured => "Configured"
  | handshaking => "Handshaking"
  | established => "Established"
  | shuttingDown => "ShuttingDown"
  | closed => "Closed"
  | errored => "Errored"

end State

end SocketlessTls
