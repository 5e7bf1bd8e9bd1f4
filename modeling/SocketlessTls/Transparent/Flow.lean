import SocketlessTls.Transparent.Traffic

/-!
# The flow of a handshake

A handshake goes in turns: an end writes messages until it has none left to write, and then reads
messages until one of them gives it the turn. A `SocketlessTls.Transparent.Script` says which
messages these are and what is done about each; this file carries a script out, and takes it up
again where it halted.
-/

namespace SocketlessTls.Transparent

/-- Whether there is a message to write. -/
inductive Turn where
  | write
  | read
  deriving Repr, DecidableEq

/-- Whether work on a message leads on or ends the handshake. -/
inductive Work where
  | go
  | over
  deriving Repr, DecidableEq

/-- What follows a message that has been read. -/
inductive Reading where
  /-- Another message is read. -/
  | more
  /-- It is this end's turn to write. -/
  | turn
  /-- There is work left, which may halt and be taken up again. -/
  | work
  deriving Repr, DecidableEq

/-- What an end does in a handshake. -/
structure Script (ρ : Type) where
  /-- What comes before the first message. -/
  begin : Act ρ Unit
  /-- Moves on to the next message to write, if there is one. -/
  choose : Act ρ Turn
  before : Act ρ Work
  /-- The message to write, unless this place in the handshake has none. -/
  compose : Act ρ (Option (ContentType × Bytes))
  after : Act ρ Work
  /-- Moves on to a message that has come, if it may come here. -/
  admits : MessageType → Act ρ Bool
  /-- The size of the largest message that may come here. -/
  limit : Machine ρ → Nat
  process : Bytes → Act ρ Reading
  afterRead : Act ρ Reading

namespace Act

variable {ρ : Type}

/-- Moves the flow. -/
def setFlow (f : Flow) : Act ρ Unit := modify fun m => { m with flow := f }

/-- Moves the place in the handshake. -/
def setHand (h : HandState) : Act ρ Unit := modify fun m => { m with hand := h }

/-- Whether a header asks a client to greet, which a client that is already greeting passes over. -/
def isIdleRequest (m : Machine ρ) (header : Bytes) : Bool :=
  m.role = .client && m.hand ≠ .over && header = [0, 0, 0, 0]

/-- Reads the header of a message: its type and the size of its body. -/
def readHeader : (fuel : Nat) → Act ρ (MessageType × Nat)
  | 0 => halt
  | fuel + 1 => do
    let m ← get
    match m.gathered with
    | type :: length =>
      if length.length < 3 then gather fuel (3 - length.length)
      else if isIdleRequest m m.gathered then
        modify fun m => { m with gathered := [] }
        readHeader fuel
      else
        modify fun m => { m with gathered := [] }
        return (.ofNumber type, Bytes.toNat length)
    | [] => gather fuel 4
where
  /-- Reads more of the header. A notice of changed ciphers is complete as it is. -/
  gather (fuel size : Nat) : Act ρ (MessageType × Nat) := do
    let (type, content) ← readHandshake size
    if type = .changeCipherSpec then
      if (← get).gathered.isEmpty && content = [1] then return (.changeCipher, 0)
      else failWith AlertCode.unexpectedMessage .badChangeCipherSpec
    else
      modify fun m => { m with gathered := m.gathered ++ content }
      readHeader fuel

/-- Reads the body of a message. -/
def readBody (size : Nat) : (fuel : Nat) → Act ρ Bytes
  | 0 => halt
  | fuel + 1 => do
    let have' := (← get).gathered.length
    if size ≤ have' then return (← get).gathered
    else
      let (_, content) ← readHandshake (size - have')
      modify fun m => { m with gathered := m.gathered ++ content }
      readBody size fuel

/-- Follows what comes after a message. -/
def follow : Reading → Act ρ Unit
  | .more => setFlow (.reading .header)
  | .turn => setFlow (.writing .choose)
  | .work => do
    modify fun m => { m with secondTry := false }
    setFlow (.reading .after)

/-- Takes one step; tells whether the handshake is over for now. -/
def step (s : Script ρ) : Act ρ Bool := do
  let work (next : Flow) : Work → Act ρ Bool
    | .go => do
      setFlow next
      return false
    | .over => do
      setFlow .finished
      return true
  match (← get).flow with
  | .reading .header =>
    let (type, size) ← readHeader recordBound
    if !(← s.admits type) then failWith AlertCode.unexpectedMessage .unexpectedMessage
    if size > s.limit (← get) then failWith AlertCode.illegalParameter .excessiveMessageSize
    modify fun m => { m with message := type, flow := .reading (.body size) }
    return false
  | .reading (.body size) =>
    let body ← readBody size recordBound
    modify fun m => { m with gathered := [] }
    follow (← s.process body)
    return false
  | .reading .after =>
    follow (← s.afterRead)
    return false
  | .writing .choose =>
    match ← s.choose with
    | .write => setFlow (.writing .before)
    | .read => setFlow (.reading .header)
    return false
  | .writing .before =>
    match ← s.before with
    | .over =>
      setFlow .finished
      return true
    | .go =>
      match ← s.compose with
      | some (type, bytes) => setFlow (.writing (.send type bytes))
      | none => setFlow (.writing .after)
      return false
  | .writing (.send type bytes) =>
    let _ ← writeContent halt type bytes
    setFlow (.writing .after)
    return false
  | .writing .after =>
    modify fun m => { m with gathered := [] }
    work (.writing .choose) (← s.after)
  | .fresh | .finished | .broken => halt

/-- Takes steps until the handshake is over for now. -/
def steps (s : Script ρ) : (fuel : Nat) → Act ρ Unit
  | 0 => halt
  | fuel + 1 => do
    if ← step s then return
    else steps s fuel

/-- Starts a handshake, or goes on with one that halted. What it writes goes through a buffer. -/
def handshake (s : Script ρ) : Act ρ Unit := do
  let m ← get
  if m.flow = .broken then halt
  modify fun m => { m with report := [], inHandshake := true }
  try
    if m.flow = .fresh || m.flow = .finished then
      modify fun m =>
        { m with
          gathered := []
          changeSeen := false
          buffer := some (m.buffer.getD ⟨[], 0, none⟩) }
      if m.isBefore || m.renegotiating then s.begin
      setFlow (.writing .choose)
    steps s recordBound
    modify fun m => { m with inHandshake := false }
  catch e =>
    modify fun m => { m with inHandshake := false }
    throw e

/-- Winds a handshake up: the buffer goes if it is not needed any more, and what `own` does is done
if the last messages have been exchanged. If there is more to send, the handshake is not over. -/
def windUp (dropBuffer : Bool) (next : Work) (own : Act ρ Unit) : Act ρ Work := do
  if dropBuffer then modify fun m => { m with buffer := none, gathered := [] }
  if (← get).windsUp then
    modify fun m =>
      { m with renegotiating := false, windsUp := false, isFirstHandshake := false }
    own
  modify fun m => { m with inInit := next = .go }
  return next

end Act

end SocketlessTls.Transparent
