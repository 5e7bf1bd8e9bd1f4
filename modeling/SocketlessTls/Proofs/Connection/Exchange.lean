import SocketlessTls.Proofs.Connection.Keeping
import SocketlessTls.Proofs.Connection.Lifecycle

/-!
# Operations and engine calls

An operation makes one engine call or none. Which of the two it will be is settled before the call:
the operation must belong where the connection is and have something to do, and an engine that has
not been started must start. `SocketlessTls.Link.Operation.Reaches` spells that out, operation by
operation, and no answer of an engine call enters into it.

* `SocketlessTls.Link.Meaning` – what a call may come to;
* `SocketlessTls.Link.Exchange` – what is known of an operation that has made an engine call: which
  call it was, what it did to the pipe, and how its outcome became the operation's;
* `SocketlessTls.Link.atCall`, `SocketlessTls.Link.perform_concludes` – the link as the call of an
  operation finds it, and what the operation makes of its call;
* `SocketlessTls.Link.perform_exchange` – an operation that *reaches* the engine makes an exchange;
* `SocketlessTls.Link.perform_withCalls` – one that does not comes to the same over an engine whose
  calls are any others.
-/

namespace SocketlessTls

/-! ### The calls of an engine -/

section Calls

variable {σ : Type}

/-- What an engine does over its end of the pipe, a call for each operation. -/
structure Engine.Calls (σ : Type) where
  handshake : σ → Call (RawOutcome Unit × σ)
  write : Bytes → σ → Call (RawOutcome Nat × σ)
  writeEarlyData : Bytes → σ → Call (RawOutcome Nat × σ)
  read : Nat → σ → Call (RawOutcome Bytes × σ)
  shutdown : σ → Call (RawOutcome ShutdownResult × σ)

/-- The engine with other calls, the rest of it unchanged. -/
def Engine.withCalls (E : Engine σ) (k : Engine.Calls σ) : Engine σ :=
  { E with
    handshake := k.handshake
    write := k.write
    writeEarlyData := k.writeEarlyData
    read := k.read
    shutdown := k.shutdown }

/-- The calls that an engine can be asked for. -/
inductive Engine.IsCall (E : Engine σ) : {α : Type} → (σ → Call (RawOutcome α × σ)) → Prop
  | handshake : IsCall E E.handshake
  | write (data : Bytes) : IsCall E (E.write data)
  | writeEarlyData (data : Bytes) : IsCall E (E.writeEarlyData data)
  | read (max : Nat) : IsCall E (E.read max)
  | shutdown : IsCall E E.shutdown

/-- The peer's chain, as the engine gives it out, cannot be read back. -/
def Engine.Illegible (E : Engine σ) (s : σ) : Prop :=
  ∃ encodings, E.peerChain s = some encodings ∧ PeerChain.snapshot? encodings = none

end Calls

/-- Whether an error says no more than that an operation was refused. -/
def TlsError.isRefusal : TlsError → Bool
  | .invalidState _ _ | .alreadyTerminated _ | .notYetAvailable _ | .resourceExhausted => true
  | _ => false

namespace Link

variable {σ : Type}

/-! ### What an outcome says -/

/-- What a result says, whatever its value. -/
def forget {α : Type} (result : PollResult α) : PollResult Unit := result.map (Poll.map fun _ => ())

/-- What an outcome says, whatever its value. An operation that never blocks is ready once it is
done. -/
def Outcome.poll : Outcome → PollResult Unit
  | configured result => result.map .ready
  | advanced result => forget result
  | written result => forget result
  | read result => forget result
  | filled result _ => forget result
  | closing result => forget result
  | renegotiated result => result.map .ready
  | told result => result.map fun _ => .ready ()

/-- An outcome has the error that it says it has. -/
theorem Outcome.error?_poll (out : Outcome) : Link.error? out.poll = out.error? := by
  cases out with
  | configured r => cases r <;> rfl
  | advanced r => cases r <;> rfl
  | written r => cases r <;> rfl
  | read r => cases r <;> rfl
  | filled r _ => cases r <;> rfl
  | closing r => cases r <;> rfl
  | renegotiated r => cases r <;> rfl
  | told r => cases r <;> rfl

theorem Outcome.error?_of_poll {out : Outcome} {e : TlsError} (h : out.poll = .error e) :
    out.error? = some e := by
  rw [← out.error?_poll, h]
  rfl

theorem Outcome.poll_of_error? {out : Outcome} {e : TlsError} (h : out.error? = some e) :
    out.poll = .error e := by
  rw [← out.error?_poll] at h
  rcases hp : out.poll with e' | p <;> rw [hp] at h
  · exact congrArg Except.error (Option.some.inj h)
  · cases h

theorem error_of_forget {α : Type} {result : PollResult α} {e : TlsError}
    (h : forget result = .error e) : result = .error e := by
  rcases result with e' | p
  · exact congrArg Except.error (Except.error.inj h)
  · cases h

/-- The number read does not change what is said. -/
theorem forget_map_length (result : PollResult Bytes) :
    forget (result.map (Poll.map List.length)) = forget result := by
  rcases result with e | b | d | _ <;> rfl

/-- Closing says what the call says. -/
theorem forget_settle (x : PollResult ShutdownResult × Link σ) :
    forget (settle x).1 = forget x.1 := by
  obtain ⟨result, l⟩ := x
  rcases result with e | (_ | _) | d | _ <;> rfl

/-- Where a call has failed, nothing is done to its result, nor to the link that it has left. -/
theorem finish_of_error {E : Engine σ} {x : PollResult Unit × Link σ} {e : TlsError}
    (h : x.1 = .error e) : (finish E x).2 = x.2 := by
  obtain ⟨result, l⟩ := x
  obtain rfl : result = .error e := h
  rfl

theorem count_of_error {x : PollResult Nat × Link σ} {e : TlsError} (h : x.1 = .error e) :
    (count x).2 = x.2 := by
  obtain ⟨result, l⟩ := x
  obtain rfl : result = .error e := h
  rfl

theorem settle_of_error {x : PollResult ShutdownResult × Link σ} {e : TlsError}
    (h : x.1 = .error e) : (settle x).2 = x.2 := by
  obtain ⟨result, l⟩ := x
  obtain rfl : result = .error e := h
  rfl

/-! ### What a call says -/

section Calls

variable {α : Type} (E : Engine σ) (raw : RawOutcome α) (s : σ) (w : Call.World)

/-- **What a raw outcome may come to**, in a state of the engine and over a transport. -/
inductive Meaning (E : Engine σ) (s : σ) (t : TransportStatus) : RawOutcome α → PollResult α → Prop
  | ready (a : α) : Meaning E s t (.done a) (.ok (.ready a))
  | peerClosed {f : EngineFailure} (hf : f.code = ResultCode.closed) :
      Meaning E s t (.failed f) (.ok .peerClosed)
  | released {f : EngineFailure} (hf : f.code ≠ ResultCode.closed) (ht : t = .released) :
      Meaning E s t (.failed f) (.error (f.fatal .transportClosed))
  | wantRead {f : EngineFailure} (hf : f.code = ResultCode.wantRead) (ht : t ≠ .released) :
      Meaning E s t (.failed f) (.ok (.wouldBlock .read))
  | wantWrite {f : EngineFailure} (hf : f.code = ResultCode.wantWrite) (ht : t ≠ .released) :
      Meaning E s t (.failed f) (.ok (.wouldBlock .write))
  | wantCertificate {f : EngineFailure} (hf : f.code = ResultCode.wantCertificate)
      (ht : t ≠ .released) :
      Meaning E s t (.failed f)
        (.error (.clientCertificateRequested ((E.clientCaNames s).map X509.Name.oneLine)))
  | fatal {f : EngineFailure} (reason : FatalReason) (ht : t ≠ .released) :
      Meaning E s t (.failed f) (.error (f.fatal reason))

/-- **Every call comes to one of these.** -/
theorem resultOf_meaning : Meaning E s (transportStatus w.pipe) raw (resultOf E raw s w) := by
  rcases raw with a | f
  · exact .ready a
  -- the rules, in the order in which they apply
  simp only [resultOf, classify]
  by_cases hclosed : f.code = ResultCode.closed
  · rw [if_pos hclosed]
    exact .peerClosed hclosed
  rw [if_neg hclosed]
  by_cases hgone : transportStatus w.pipe = .released
  · rw [if_pos hgone]
    exact .released hclosed hgone
  rw [if_neg hgone]
  by_cases hread : f.code = ResultCode.wantRead
  · rw [if_pos hread]
    exact .wantRead hread hgone
  rw [if_neg hread]
  by_cases hwrite : f.code = ResultCode.wantWrite
  · rw [if_pos hwrite]
    exact .wantWrite hwrite hgone
  rw [if_neg hwrite]
  by_cases hcertificate : f.code = ResultCode.wantCertificate
  · rw [if_pos hcertificate]
    exact .wantCertificate hcertificate hgone
  rw [if_neg hcertificate]
  split_ifs
  · rcases f.ioKind with _ | kind
    · exact .fatal .unexpectedEof hgone
    · exact .fatal (.io kind) hgone
  · exact .fatal .protocol hgone
  · exact .fatal (.internal f.code) hgone

/-- A call is ready only if the engine is done. -/
theorem done_of_resultOf {a : α} (h : resultOf E raw s w = .ok (.ready a)) : raw = .done a := by
  have hmeaning := resultOf_meaning E raw s w
  rw [h] at hmeaning
  cases hmeaning
  rfl

/-- **What a call can end in**, if it does not go well: a failure, or the wish for a certificate. -/
theorem error_of_resultOf {e : TlsError} (h : forget (resultOf E raw s w) = .error e) :
    (∃ cause, e = .fatal cause) ∨ ∃ issuers, e = .clientCertificateRequested issuers := by
  have hmeaning := resultOf_meaning E raw s w
  generalize resultOf E raw s w = result at h hmeaning
  cases hmeaning with
  | released _ _ => exact Or.inl ⟨_, (Except.error.inj h).symm⟩
  | fatal _ _ => exact Or.inl ⟨_, (Except.error.inj h).symm⟩
  | wantCertificate _ _ => exact Or.inr ⟨_, (Except.error.inj h).symm⟩
  | _ => cases h

/-- **No call is refused**: what the guards say is never said by an engine. -/
theorem isRefusal_of_resultOf {e : TlsError} (h : forget (resultOf E raw s w) = .error e) :
    e.isRefusal = false := by
  rcases error_of_resultOf E raw s w h with ⟨cause, rfl⟩ | ⟨issuers, rfl⟩ <;> rfl

end Calls

theorem Refusal.isRefusal {c : Connection σ} {operation : String} {e : TlsError}
    (h : Refusal c operation e) : e.isRefusal = true := by
  cases h <;> rfl

/-- **What an operation leaves alone before and after its engine call**: the pipe, the configuration
and the count of early data. -/
structure Frame (l l' : Link σ) : Prop where
  pipe : l'.pipe = l.pipe
  config : l'.connection.config = l.connection.config
  sent : l'.connection.earlyDataSent = l.connection.earlyDataSent

/-! ### Starting -/

section Starting

variable (E : Engine σ) {l l₁ : Link σ}

/-- The engine cannot be built, or the session to resume cannot be copied for it, or what belongs
to the connection cannot be added. -/
def CannotPrepare (l : Link σ) : Prop :=
  ∀ built copy objects, E.build? l.connection.config = some built →
    copySession? l.connection.config.session l.objects = some (copy, objects) →
    E.prepare? l.connection.config copy built = none

/-- An engine that cannot be got ready is not started, and nothing has changed. -/
theorem start_of_cannotPrepare (hidle : l.connection.engine = .idle) (h : CannotPrepare E l) :
    l.start E = (.error .engine, l) := by
  rcases hb : E.build? l.connection.config with _ | built
  · simp only [start, hidle, hb]
  rcases hc : copySession? l.connection.config.session l.objects with _ | ⟨copy, objects⟩
  · simp only [start, hidle, hb, hc]
  simp only [start, hidle, hb, hc, h built copy objects hb hc]

/-- **A start that fails**, of an engine that has not been lost: the engine cannot be got ready, and
nothing has changed; or it cannot be joined to the pipe, and is lost. -/
theorem start_idle_cases (hidle : l.connection.engine = .idle) :
    (CannotPrepare E l ∧ l.start E = (.error .engine, l)) ∨
    (CannotAttach E l ∧ ∃ objects, l.start E = (.error .engine,
      { connection := { l.connection with engine := .detached }
        pipe := l.pipe.release .engine, objects })) ∨
    (∃ s objects, l.start E = (.ok (), { l with
      connection := { l.connection with engine := .running s, state := .handshaking }
      objects })) := by
  by_cases h : CannotPrepare E l
  · exact Or.inl ⟨h, start_of_cannotPrepare E hidle h⟩
  · simp only [CannotPrepare, not_forall] at h
    obtain ⟨built, copy, objects, hb, hc, hp⟩ := h
    obtain ⟨prepared, hp⟩ := Option.ne_none_iff_exists'.mp hp
    rcases ha : E.attach? prepared with _ | s
    · exact Or.inr (Or.inl ⟨⟨built, copy, objects, prepared, hb, hc, hp, ha⟩, objects,
        by simp only [start, hidle, hb, hc, hp, ha]⟩)
    · exact Or.inr (Or.inr ⟨s, objects, by simp only [start, hidle, hb, hc, hp, ha]⟩)

/-- A start on demand that does not fail moves nothing over the pipe. -/
theorem startIfConfigured_frame
    (hs : l.connection.state = .configured ∨ l.connection.state = .handshaking)
    (hst : l.startIfConfigured E = (.ok (), l₁)) : Frame l l₁ := by
  rcases startIfConfigured_cases E l hs with ⟨-, hc⟩ | ⟨-, hc⟩
  · rw [hst] at hc
    obtain rfl := (Prod.mk.inj hc).2
    exact ⟨rfl, rfl, rfl⟩
  · rw [hst] at hc
    obtain ⟨hidle, -, -⟩ := start_ok E hc.symm
    rcases start_idle_cases E hidle with ⟨-, hd⟩ | ⟨-, o, hd⟩ | ⟨s, o, hd⟩
    · exact absurd (Prod.mk.inj (hc.trans hd)).1 (by simp)
    · exact absurd (Prod.mk.inj (hc.trans hd)).1 (by simp)
    · obtain rfl := (Prod.mk.inj (hc.trans hd)).2
      exact ⟨rfl, rfl, rfl⟩

end Starting

/-! ### Operations that reach the engine -/

/-- **Where an operation makes an engine call.** -/
def Operation.Reaches (E : Engine σ) (l : Link σ) : Operation → Prop
  | .advanceHandshake =>
    (l.connection.state = .configured ∨ l.connection.state = .handshaking) ∧
      ∃ l₁, l.startIfConfigured E = (.ok (), l₁)
  | .write data => l.connection.state = .established ∧ data ≠ []
  | .writeEarlyData data =>
    admitsEarlyData l.connection = true ∧ earlyDataBudget l.connection ≠ 0 ∧ data ≠ [] ∧
      ∃ l₁, l.startIfConfigured E = (.ok (), l₁)
  | .read max granted => l.connection.state ∈ readStates ∧ max ≠ 0 ∧ affords max granted = true
  | .readInto buffer => l.connection.state ∈ readStates ∧ buffer ≠ []
  | .shutdown => l.connection.state = .established ∨ l.connection.state = .shuttingDown
  | .configure _ | .renegotiate | .ask _ => False

/-- **The engine call of an operation.** Early data is cut to the budget before the engine sees
it. -/
inductive Operation.Makes (E : Engine σ) (l : Link σ) :
    Operation → {α : Type} → (σ → Call (RawOutcome α × σ)) → Prop
  | advanceHandshake : Makes E l .advanceHandshake E.handshake
  | write (data : Bytes) : Makes E l (.write data) (E.write data)
  | writeEarlyData (data : Bytes) :
      Makes E l (.writeEarlyData data) (E.writeEarlyData (data.take (earlyDataBudget l.connection)))
  | read (max : Nat) (granted : Bool) : Makes E l (.read max granted) (E.read max)
  | readInto (buffer : Bytes) : Makes E l (.readInto buffer) (E.read buffer.length)
  | shutdown : Makes E l .shutdown E.shutdown

theorem Operation.Makes.isCall {E : Engine σ} {l : Link σ} {op : Operation} {α : Type}
    {call : σ → Call (RawOutcome α × σ)} (h : op.Makes E l call) : E.IsCall call := by
  cases h with
  | advanceHandshake => exact .handshake
  | write data => exact .write data
  | writeEarlyData data => exact .writeEarlyData _
  | read max _ => exact .read max
  | readInto buffer => exact .read buffer.length
  | shutdown => exact .shutdown

/-- The state in which the engine is called: the one that it is in, or is started in. -/
def CalledIn (E : Engine σ) (l : Link σ) (s : σ) : Prop :=
  l.connection.engine = .running s ∨
    ∃ l₁, l.startIfConfigured E = (.ok (), l₁) ∧ l₁.connection.engine = .running s

/-- **An operation that has made an engine call**: which call that was, in which state of the
engine, and how it ended. -/
structure Exchange {α : Type} (E : Engine σ) (l : Link σ) (op : Operation) (out : Outcome)
    (l' : Link σ) (call : σ → Call (RawOutcome α × σ)) (s : σ) (objects : SessionObjects)
    (raw : RawOutcome α) (s' : σ) (w : Call.World) : Prop where
  makes : op.Makes E l call
  state : l.CalledIn E s
  /-- The call is made over the pipe as it was before the operation. -/
  run : (call s).run .engine ⟨l.pipe, objects⟩ = ((raw, s'), w)
  /-- Nothing happens to the pipe after the call. -/
  pipe : l'.pipe = w.pipe
  engine : l'.connection.engine = .running s'
  config : l'.connection.config = l.connection.config
  sent : (∀ data, op ≠ .writeEarlyData data) →
    l'.connection.earlyDataSent = l.connection.earlyDataSent
  /-- The operation says what the call says. Only a handshake that is over may still fail, for want
  of a chain that can be recorded. -/
  poll : out.poll = forget (resultOf E raw s' w) ∨
    (op = .advanceHandshake ∧ (∃ a, raw = .done a) ∧ E.Illegible s' ∧ out.poll = .error .engine)

/-- An operation that makes some exchange with the engine. -/
def Exchanges (E : Engine σ) (l : Link σ) (op : Operation) (out : Outcome) (l' : Link σ) : Prop :=
  ∃ (α : Type) (call : σ → Call (RawOutcome α × σ)) (s : σ) (objects : SessionObjects)
    (raw : RawOutcome α) (s' : σ) (w : Call.World),
    Exchange E l op out l' call s objects raw s' w

/-! ### What an engine call finds -/

/-- **The link as the engine call of an operation finds it**: the engine has been started on
demand, and advancing the handshake has closed the window for early data. -/
def atCall (E : Engine σ) (l : Link σ) : Operation → Link σ
  | .advanceHandshake => (l.startIfConfigured E).2.closeWindow
  | .writeEarlyData _ => (l.startIfConfigured E).2
  | _ => l

section AtCall

variable {E : Engine σ} {l : Link σ} {op : Operation}

/-- The call of an operation finds a coherent link past its start. -/
theorem atCall_coherent (h : Coherent l) (hr : op.Reaches E l) :
    Coherent (l.atCall E op) ∧ (l.atCall E op).connection.state ≠ .configured := by
  cases op with
  | advanceHandshake =>
    obtain ⟨hs, l₁, hst⟩ := hr
    have hstart := startIfConfigured_started h hs hst
    have hne : l₁.connection.state ≠ .configured := by
      rw [hstart.state]
      nofun
    rw [atCall, hst]
    exact ⟨hstart.coherent.closeWindow hne, hne⟩
  | writeEarlyData data =>
    obtain ⟨hadm, -, -, l₁, hst⟩ := hr
    have hstart := startIfConfigured_started h (state_of_admitsEarlyData hadm) hst
    rw [atCall, hst]
    refine ⟨hstart.coherent, ?_⟩
    show l₁.connection.state ≠ .configured
    rw [hstart.state]
    nofun
  | write data => exact ⟨h, fun hc => State.noConfusion (hc.symm.trans hr.1)⟩
  | read max granted => exact ⟨h, ne_configured_of_isEstablished (isEstablished_of_readStates hr.1)⟩
  | readInto buffer => exact ⟨h, ne_configured_of_isEstablished (isEstablished_of_readStates hr.1)⟩
  | shutdown =>
    refine ⟨h, fun hc => ?_⟩
    rcases hr with hr | hr <;> cases hc.symm.trans hr
  | _ => exact hr.elim

/-- It is made over the pipe, with the configuration and the count as they were before. -/
theorem atCall_frame (hr : op.Reaches E l) : Frame l (l.atCall E op) := by
  cases op with
  | advanceHandshake =>
    obtain ⟨hs, l₁, hst⟩ := hr
    have hstart := startIfConfigured_frame E hs hst
    rw [atCall, hst]
    exact ⟨hstart.pipe, hstart.config, hstart.sent⟩
  | writeEarlyData data =>
    obtain ⟨hadm, -, -, l₁, hst⟩ := hr
    rw [atCall, hst]
    exact startIfConfigured_frame E (state_of_admitsEarlyData hadm) hst
  | _ => exact ⟨rfl, rfl, rfl⟩

/-- It is made in the state that the engine is in, or is started in. -/
theorem calledIn_of_atCall (hr : op.Reaches E l) {s : σ}
    (hs : (l.atCall E op).connection.engine = .running s) : l.CalledIn E s := by
  cases op with
  | advanceHandshake =>
    obtain ⟨-, l₁, hst⟩ := hr
    rw [atCall, hst] at hs
    exact Or.inr ⟨l₁, hst, hs⟩
  | writeEarlyData data =>
    obtain ⟨-, -, -, l₁, hst⟩ := hr
    rw [atCall, hst] at hs
    exact Or.inr ⟨l₁, hst, hs⟩
  | _ => exact Or.inl hs

end AtCall

/-! ### What is made of an engine call -/

section Made

variable {E : Engine σ} {l : Link σ}

/-- A handshake that is over and is not completed has a chain that cannot be read. -/
theorem illegible_of_finish {s : σ} (hs : l.connection.engine = .running s)
    (h : (finish E (.ok (.ready ()), l)).1 = .error .engine) : E.Illegible s := by
  rcases hc : E.peerChain s with _ | encodings
  · simp [finish, completeHandshake, hs, hc] at h
  · rcases hr : PeerChain.snapshot? encodings with _ | chain
    · exact ⟨encodings, hc, hr⟩
    · simp [finish, completeHandshake, hs, hc, hr] at h

/-- **Completing a handshake that is over** changes what the call has said only if the chain cannot
be read. -/
theorem finish_frame {x : PollResult Unit × Link σ} {s : σ}
    (hs : x.2.connection.engine = .running s) :
    Frame x.2 (finish E x).2 ∧ ((finish E x).1 = x.1 ∨
      (x.1 = .ok (.ready ()) ∧ E.Illegible s ∧ (finish E x).1 = .error .engine)) := by
  obtain ⟨result, l⟩ := x
  rcases result with e | ⟨⟨⟩⟩ | d | _
  · exact ⟨⟨rfl, rfl, rfl⟩, Or.inl rfl⟩
  · rcases finish_ready_cases E hs with hd | ⟨info, hd⟩
    · have hill := illegible_of_finish hs (congrArg Prod.fst hd)
      rw [hd, Connection.observe_eq]
      exact ⟨⟨rfl, rfl, rfl⟩, Or.inr ⟨rfl, hill, rfl⟩⟩
    · rw [hd, Connection.observe_eq]
      exact ⟨⟨rfl, rfl, rfl⟩, Or.inl rfl⟩
  · exact ⟨⟨rfl, rfl, rfl⟩, Or.inl rfl⟩
  · exact ⟨⟨rfl, rfl, rfl⟩, Or.inl rfl⟩

/-- Adding up early data touches the count alone. -/
theorem count_frame (x : PollResult Nat × Link σ) :
    (count x).1 = x.1 ∧ (count x).2.pipe = x.2.pipe ∧
      (count x).2.connection.config = x.2.connection.config := by
  obtain ⟨result, l⟩ := x
  rcases result with e | n | d | _ <;> exact ⟨rfl, rfl, rfl⟩

/-- Saying how far closing has come touches the state alone. -/
theorem settle_frame (x : PollResult ShutdownResult × Link σ) :
    Frame x.2 (settle x).2 ∧ (settle x).2.connection.engine = x.2.connection.engine := by
  obtain ⟨result, l⟩ := x
  rcases result with e | (_ | _) | d | _ <;> exact ⟨⟨rfl, rfl, rfl⟩, rfl⟩

/-- **What an operation makes of its engine call**: of the result of the call, with the link that
the call has left, and the outcome of the operation, with the link that it leaves. -/
structure Concludes {α : Type} (E : Engine σ) (op : Operation) (x : PollResult α × Link σ)
    (y : Outcome × Link σ) : Prop where
  pipe : y.2.pipe = x.2.pipe
  engine : y.2.connection.engine = x.2.connection.engine
  config : y.2.connection.config = x.2.connection.config
  sent : (∀ data, op ≠ .writeEarlyData data) →
    y.2.connection.earlyDataSent = x.2.connection.earlyDataSent
  poll : y.1.poll = forget x.1 ∨
    (op = .advanceHandshake ∧ (∃ a, x.1 = .ok (.ready a)) ∧
      (∃ s, y.2.connection.engine = .running s ∧ E.Illegible s) ∧ y.1.poll = .error .engine)
  /-- After an error there is nothing left to do. -/
  error : ∀ e, x.1 = .error e → y.2 = x.2

/-- An operation that is an engine call and nothing more. -/
theorem Concludes.of_eq {α : Type} {op : Operation} {x : PollResult α × Link σ}
    {y : Outcome × Link σ} (hlink : y.2 = x.2) (hpoll : y.1.poll = forget x.1) :
    Concludes E op x y where
  pipe := by rw [hlink]
  engine := by rw [hlink]
  config := by rw [hlink]
  sent _ := by rw [hlink]
  poll := Or.inl hpoll
  error _ _ := hlink

theorem advanceHandshake_concludes (h : Coherent l) (hr : Operation.advanceHandshake.Reaches E l) :
    Concludes E .advanceHandshake
      ((l.atCall E .advanceHandshake).drive E "advance_handshake" E.handshake)
      (l.perform E .advanceHandshake) := by
  obtain ⟨hc, hne⟩ := atCall_coherent h hr
  obtain ⟨hs, l₁, hst⟩ := hr
  rcases advanceHandshake_cases E l with ⟨-, -, hc', hh, -⟩ | ⟨-, ⟨e, l₂, hst', -⟩ | ⟨l₂, hst', ha⟩⟩
  · exact absurd hs (not_or.mpr ⟨hc', hh⟩)
  · cases (Prod.mk.inj (hst.symm.trans hst')).1
  · obtain rfl := (Prod.mk.inj (hst.symm.trans hst')).2
    obtain ⟨s, hs⟩ := drive_running E (hc.running hne) "advance_handshake" E.handshake
    rw [atCall, hst] at hs ⊢
    rw [perform, ha]
    obtain ⟨hframe, hend⟩ := finish_frame (E := E) hs
    have hengine := finish_engine E (l₁.closeWindow.drive E "advance_handshake" E.handshake)
    refine ⟨hframe.pipe, hengine, hframe.config, fun _ => hframe.sent, ?_, fun e he => ?_⟩
    · rcases hend with hend | ⟨hready, hill, hend⟩
      · exact Or.inl (congrArg forget hend)
      · exact Or.inr ⟨rfl, ⟨(), hready⟩, ⟨s, hengine.trans hs, hill⟩, congrArg forget hend⟩
    · exact finish_of_error he

theorem write_concludes {data : Bytes} (hr : (Operation.write data).Reaches E l) :
    Concludes E (.write data) (l.drive E "write" (E.write data)) (l.perform E (.write data)) := by
  obtain ⟨hs, hd⟩ := hr
  rcases write_cases E l data with ⟨-, -, hne, -⟩ | ⟨-, hnil, -⟩ | ⟨-, -, hw⟩
  · exact absurd hs hne
  · exact absurd hnil hd
  · rw [perform, hw]
    exact .of_eq rfl rfl

theorem writeEarlyData_concludes {data : Bytes} (hr : (Operation.writeEarlyData data).Reaches E l) :
    Concludes E (.writeEarlyData data)
      ((l.atCall E (.writeEarlyData data)).drive E "write_early_data"
        (E.writeEarlyData (data.take (earlyDataBudget l.connection))))
      (l.perform E (.writeEarlyData data)) := by
  obtain ⟨hadm, hb, hd, l₁, hst⟩ := hr
  rcases writeEarlyData_cases E l data with
    ⟨-, -, hno, -⟩ | ⟨-, hnone, -⟩ | ⟨-, -, -, ⟨e, l₂, hst', -⟩ | ⟨l₂, hst', hw⟩⟩
  · cases hno.symm.trans hadm
  · exact absurd hnone (not_or.mpr ⟨hb, hd⟩)
  · cases (Prod.mk.inj (hst.symm.trans hst')).1
  · obtain rfl := (Prod.mk.inj (hst.symm.trans hst')).2
    rw [atCall, hst, perform, hw]
    obtain ⟨hresult, hpipe, hconfig⟩ := count_frame (l₁.drive E "write_early_data"
      (E.writeEarlyData (data.take (earlyDataBudget l.connection))))
    exact ⟨hpipe, (count_eq _).2.2, hconfig, fun ho => absurd rfl (ho data),
      Or.inl (congrArg forget hresult), fun e he => count_of_error he⟩

theorem read_concludes {max : Nat} {granted : Bool}
    (hr : (Operation.read max granted).Reaches E l) :
    Concludes E (.read max granted) (l.drive E "read" (E.read max))
      (l.perform E (.read max granted)) := by
  obtain ⟨hs, h0, ha⟩ := hr
  rcases read_cases E l max granted with ⟨-, -, hne, -⟩ | ⟨-, hno, -⟩ | ⟨-, hz, -⟩ | ⟨-, -, -, hw⟩
  · exact absurd hs hne
  · cases ha.symm.trans hno
  · exact absurd hz h0
  · rw [perform, hw]
    exact .of_eq rfl rfl

theorem readInto_concludes {buffer : Bytes} (hr : (Operation.readInto buffer).Reaches E l) :
    Concludes E (.readInto buffer) (l.drive E "read" (E.read buffer.length))
      (l.perform E (.readInto buffer)) := by
  obtain ⟨hs, hb⟩ := hr
  rcases readInto_cases E l buffer with ⟨-, -, hne, -⟩ | ⟨-, hnil, -⟩ | ⟨-, -, hw⟩
  · exact absurd hs hne
  · exact absurd hnil hb
  · rw [perform, hw]
    exact .of_eq rfl (forget_map_length _)

theorem shutdown_concludes (hr : Operation.shutdown.Reaches E l) :
    Concludes E .shutdown (l.drive E "shutdown" E.shutdown) (l.perform E .shutdown) := by
  rcases shutdown_cases E l with ⟨hs, -⟩ | ⟨-, -, hno, -⟩ | ⟨-, hw⟩
  · rcases hr with hr | hr <;> cases hs.symm.trans hr
  · rcases hr with hr | hr <;> rw [hr] at hno <;> cases hno
  · rw [perform, hw]
    obtain ⟨hframe, hengine⟩ := settle_frame (l.drive E "shutdown" E.shutdown)
    exact ⟨hframe.pipe, hengine, hframe.config, fun _ => hframe.sent, Or.inl (forget_settle _),
      fun e he => settle_of_error he⟩

/-- **An operation that reaches the engine concludes from its call**, which finds the link as
`SocketlessTls.Link.atCall` says. -/
theorem perform_concludes (h : Coherent l) {op : Operation} (hr : op.Reaches E l) :
    ∃ (α : Type) (operation : String) (call : σ → Call (RawOutcome α × σ)), op.Makes E l call ∧
      Concludes E op ((l.atCall E op).drive E operation call) (l.perform E op) := by
  cases op with
  | advanceHandshake => exact ⟨Unit, _, _, .advanceHandshake, advanceHandshake_concludes h hr⟩
  | write data => exact ⟨Nat, _, _, .write data, write_concludes hr⟩
  | writeEarlyData data => exact ⟨Nat, _, _, .writeEarlyData data, writeEarlyData_concludes hr⟩
  | read max granted => exact ⟨Bytes, _, _, .read max granted, read_concludes hr⟩
  | readInto buffer => exact ⟨Bytes, _, _, .readInto buffer, readInto_concludes hr⟩
  | shutdown => exact ⟨ShutdownResult, _, _, .shutdown, shutdown_concludes hr⟩
  | _ => exact hr.elim

/-- **What is concluded from a call is an exchange**, with the engine as the call has found it. -/
theorem Concludes.exchange {op : Operation} (hr : op.Reaches E l) {α : Type} {operation : String}
    {call : σ → Call (RawOutcome α × σ)} (hmakes : op.Makes E l call) {y : Outcome × Link σ}
    (hc : Concludes E op ((l.atCall E op).drive E operation call) y) {s : σ}
    (hs : (l.atCall E op).connection.engine = .running s) {raw : RawOutcome α} {s' : σ}
    {w : Call.World}
    (hrun : (call s).run .engine ⟨(l.atCall E op).pipe, (l.atCall E op).objects⟩ = ((raw, s'), w))
    (hd : (l.atCall E op).drive E operation call = (resultOf E raw s' w,
      { connection := (l.atCall E op).connection.afterCall E s' (resultOf E raw s' w)
        pipe := w.pipe, objects := w.objects })) :
    Exchange E l op y.1 y.2 call s (l.atCall E op).objects raw s' w := by
  have hbefore := atCall_frame hr
  rw [hd] at hc
  refine ⟨hmakes, calledIn_of_atCall hr hs, ?_, hc.pipe, hc.engine,
    hc.config.trans hbefore.config, fun ho => (hc.sent ho).trans hbefore.sent, ?_⟩
  · rw [← hbefore.pipe]
    exact hrun
  -- the state of the engine after the operation is the one after the call
  · refine hc.poll.imp_right ?_
    rintro ⟨hop, ⟨a, ha⟩, ⟨s'', hs'', hill⟩, he⟩
    obtain rfl : s' = s'' := EngineSlot.running.inj (hc.engine.symm.trans hs'')
    exact ⟨hop, ⟨a, done_of_resultOf E raw s' w ha⟩, hill, he⟩

/-- **An operation that reaches the engine makes an exchange**, at any coherent link. -/
theorem perform_exchange (E : Engine σ) (h : Coherent l) (op : Operation) (hr : op.Reaches E l) :
    Exchanges E l op (l.perform E op).1 (l.perform E op).2 := by
  obtain ⟨α, operation, call, hmakes, hc⟩ := perform_concludes h hr
  obtain ⟨hfound, hne⟩ := atCall_coherent h hr
  obtain ⟨s, hs⟩ := hfound.running hne
  obtain ⟨raw, s', w, hrun, hd⟩ := drive_of_running E hs operation call
  exact ⟨α, call, s, (l.atCall E op).objects, raw, s', w, hc.exchange hr hmakes hs hrun hd⟩

end Made

/-! ### Calls that are not made -/

section WithCalls

variable (E : Engine σ) (k : Engine.Calls σ) {l : Link σ}

theorem advanceHandshake_withCalls (h : ¬Operation.advanceHandshake.Reaches E l) :
    l.advanceHandshake (E.withCalls k) = l.advanceHandshake E := by
  rcases hl : l.connection.ensureLive with e | ⟨⟨⟩⟩
  · simp only [advanceHandshake, hl]
  by_cases hs : l.connection.state = .configured ∨ l.connection.state = .handshaking
  · rcases hst : l.startIfConfigured E with ⟨e | ⟨⟨⟩⟩, l₁⟩
    · have hst' : l.startIfConfigured (E.withCalls k) = (.error e, l₁) := hst
      simp only [advanceHandshake, hl, hs, hst, hst']
    · exact absurd ⟨hs, l₁, hst⟩ h
  · simp only [advanceHandshake, hl, hs, if_false]

theorem write_withCalls {data : Bytes} (h : ¬(Operation.write data).Reaches E l) :
    l.write (E.withCalls k) data = l.write E data := by
  rcases require_or_refusal l.connection "write" [.established] with ⟨hr, hs⟩ | ⟨e, -, hr, -⟩
  · have hd : data = [] := by
      by_contra hd
      exact h ⟨List.mem_singleton.mp hs, hd⟩
    simp only [write, hr, hd, List.isEmpty_nil, if_true]
  · simp only [write, hr]

theorem writeEarlyData_withCalls {data : Bytes} (h : ¬(Operation.writeEarlyData data).Reaches E l) :
    l.writeEarlyData (E.withCalls k) data = l.writeEarlyData E data := by
  rcases hl : l.connection.ensureLive with e | ⟨⟨⟩⟩
  · simp only [writeEarlyData, hl]
  rcases hadm : admitsEarlyData l.connection with _ | _
  · simp only [writeEarlyData, hl, hadm, Bool.not_false, if_true]
  by_cases hb : earlyDataBudget l.connection = 0 ∨ data.isEmpty = true
  · simp only [writeEarlyData, hl, hadm, hb, Bool.not_true, Bool.false_eq_true, if_false, if_true]
  rcases hst : l.startIfConfigured E with ⟨e | ⟨⟨⟩⟩, l₁⟩
  · have hst' : l.startIfConfigured (E.withCalls k) = (.error e, l₁) := hst
    simp only [writeEarlyData, hl, hadm, hb, hst, hst']
  · obtain ⟨hb, hd⟩ := not_or.mp hb
    exact absurd ⟨hadm, hb, fun hnil => hd (List.isEmpty_iff.mpr hnil), l₁, hst⟩ h

theorem read_withCalls {max : Nat} {granted : Bool}
    (h : ¬(Operation.read max granted).Reaches E l) :
    l.read (E.withCalls k) max granted = l.read E max granted := by
  rcases require_or_refusal l.connection "read" readStates with ⟨hr, hs⟩ | ⟨e, -, hr, -⟩
  · rcases ha : affords max granted with _ | _
    · simp only [read, hr, ha, Bool.not_false, if_true]
    · have h0 : max = 0 := by
        by_contra h0
        exact h ⟨hs, h0, ha⟩
      simp only [read, hr, h0, if_true]
  · simp only [read, hr]

theorem readInto_withCalls {buffer : Bytes} (h : ¬(Operation.readInto buffer).Reaches E l) :
    l.readInto (E.withCalls k) buffer = l.readInto E buffer := by
  rcases require_or_refusal l.connection "read" readStates with ⟨hr, hs⟩ | ⟨e, -, hr, -⟩
  · have hb : buffer = [] := by
      by_contra hb
      exact h ⟨hs, hb⟩
    simp only [readInto, hr, hb, List.isEmpty_nil, if_true]
  · simp only [readInto, hr]

theorem shutdown_withCalls (h : ¬Operation.shutdown.Reaches E l) :
    l.shutdown (E.withCalls k) = l.shutdown E := by
  rcases hs : l.connection.state <;> simp only [shutdown, hs]
  · exact absurd (Or.inl hs) h
  · exact absurd (Or.inr hs) h

/-- **An operation that does not reach the engine makes no engine call**: it comes to the same over
an engine whose calls are any others. -/
theorem perform_withCalls {op : Operation} (h : ¬op.Reaches E l) :
    l.perform (E.withCalls k) op = l.perform E op := by
  cases op with
  | advanceHandshake => simp only [perform, advanceHandshake_withCalls E k h]
  | write data => simp only [perform, write_withCalls E k h]
  | writeEarlyData data => simp only [perform, writeEarlyData_withCalls E k h]
  | read max granted => simp only [perform, read_withCalls E k h]
  | readInto buffer => simp only [perform, readInto_withCalls E k h]
  | shutdown => simp only [perform, shutdown_withCalls E k h]
  | configure config => rfl
  | renegotiate => rfl
  | ask q => cases q <;> rfl

end WithCalls

end Link

end SocketlessTls
