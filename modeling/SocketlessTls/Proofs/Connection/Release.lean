import SocketlessTls.Proofs.Connection.Pumping

/-!
# A released transport is noticed by the next engine call

When the owner of the caller endpoint gives it up there is nobody left to pump, and a connection
that went on asking for bytes would be asked again for ever. So the classification of an engine call
looks at the pipe before it looks at what the engine is waiting for: over a pipe whose other end is
gone a call is done, or the peer has closed in order, or the connection fails because its transport
is closed (`SocketlessTls.Link.Noticed`). What the engine says it wants does not matter.

An end that is gone stays gone (`SocketlessTls.Link.isReleased_caller_after`), so this holds of all
operations from the release on, whatever had happened before it.

One operation does more with a call that is done than to pass it on: a handshake that is over must
have a chain that can be recorded. An engine that gives out certificates which cannot be read back
makes the handshake end in an error here as anywhere else (`SocketlessTls.Link.Unrecorded`). It is
not fatal, and there is nothing to wait for either, but it is none of the three.

* `SocketlessTls.Link.release_noticed` – every operation after a release;
* `SocketlessTls.Link.careless_unanswered` – an engine whose handshake ends otherwise.
-/

namespace SocketlessTls

namespace Link

variable {σ : Type}

/-! ### Calls over a released pipe -/

/-- **What is said of a call over a pipe whose other end is gone.** -/
inductive Noticed {α : Type} : RawOutcome α → PollResult Unit → Prop
  | ready (a : α) : Noticed (.done a) (.ok (.ready ()))
  | peerClosed {f : EngineFailure} (hf : f.code = ResultCode.closed) :
      Noticed (.failed f) (.ok .peerClosed)
  /-- Any other failure is that of the transport, with the report of the engine. -/
  | closed {f : EngineFailure} (hf : f.code ≠ ResultCode.closed) :
      Noticed (.failed f) (.error (.fatal ⟨.transportClosed, f.diagnostics⟩))

namespace Noticed

variable {α : Type} {raw : RawOutcome α}

/-- There is nothing to wait for. -/
theorem ne_wouldBlock (d : Direction) : ¬Noticed raw (.ok (.wouldBlock d)) := nofun

/-- Nothing is asked of the caller. -/
theorem ne_clientCertificateRequested (issuers : List String) :
    ¬Noticed raw (.error (.clientCertificateRequested issuers)) := nofun

theorem reason_eq {cause : FatalError} (h : Noticed raw (.error (.fatal cause))) :
    cause.reason = .transportClosed := by
  cases h
  rfl

end Noticed

section Calls

variable (E : Engine σ) {α : Type}

/-- **A call over a pipe whose other end is gone**, for every code that the engine may report. -/
theorem resultOf_noticed (raw : RawOutcome α) (s : σ) {w : Call.World}
    (hw : w.pipe.isSiblingReleased .engine = true) :
    Noticed raw (forget (resultOf E raw s w)) := by
  have hgone : transportStatus w.pipe = .released := if_pos hw
  have hmeaning := resultOf_meaning E raw s w
  generalize resultOf E raw s w = result at hmeaning ⊢
  cases hmeaning with
  | ready a => exact .ready a
  | peerClosed hf => exact .peerClosed hf
  | released hf _ => exact .closed hf
  -- what the engine is waiting for is asked only of a transport that is there
  | wantRead _ ht => exact absurd hgone ht
  | wantWrite _ ht => exact absurd hgone ht
  | wantCertificate _ ht => exact absurd hgone ht
  | fatal _ ht => exact absurd hgone ht

/-- A call finds the other end of its pipe gone if it was gone before. -/
theorem Exchange.isSiblingReleased {E : Engine σ} {l l' : Link σ} {op : Operation} {out : Outcome}
    {call : σ → Call (RawOutcome α × σ)} {s : σ} {o : SessionObjects} {raw : RawOutcome α} {s' : σ}
    {w : Call.World} (hx : Exchange E l op out l' call s o raw s' w) :
    w.pipe.isSiblingReleased .engine = l.pipe.isSiblingReleased .engine := by
  have hrun := Call.isReleased_run .engine .caller (call s) ⟨l.pipe, o⟩
  rwa [hx.run] at hrun

end Calls

/-! ### Operations over a released pipe -/

/-- An operation says what is said of its call. -/
def Answered (E : Engine σ) (l : Link σ) (op : Operation) : Prop :=
  ∃ (α : Type) (call : σ → Call (RawOutcome α × σ)) (s : σ) (o : SessionObjects)
    (raw : RawOutcome α) (s' : σ) (w : Call.World),
    op.Makes E l call ∧ l.CalledIn E s ∧ (call s).run .engine ⟨l.pipe, o⟩ = ((raw, s'), w) ∧
      Noticed raw (l.perform E op).1.poll

/-- **A handshake that is over and cannot be recorded.** The operation ends in an error which is not
fatal, and the connection goes on shaking hands. -/
structure Unrecorded (E : Engine σ) (l : Link σ) (op : Operation) : Prop where
  operation : op = .advanceHandshake
  /-- The handshake of the engine is over, and leaves it with a chain that cannot be read. -/
  ended : ∃ (s : σ) (o : SessionObjects) (s' : σ) (w : Call.World), l.CalledIn E s ∧
    (E.handshake s).run .engine ⟨l.pipe, o⟩ = ((.done (), s'), w) ∧
    (l.perform E op).2.connection.engine = .running s' ∧ E.Illegible s'
  poll : (l.perform E op).1.poll = .error .engine
  state : (l.perform E op).2.connection.state = .handshaking
  info : (l.perform E op).2.connection.info = none

/-- **What an operation comes to over a pipe whose other end is gone.** -/
structure Notices (E : Engine σ) (l : Link σ) (op : Operation) : Prop where
  /-- It never waits. -/
  waits : ∀ d, (l.perform E op).1.poll ≠ .ok (.wouldBlock d)
  /-- It asks for no certificate. -/
  asks : ∀ issuers, (l.perform E op).1.poll ≠ .error (.clientCertificateRequested issuers)
  /-- It fails for no other reason than that the transport is closed, and then the connection is in
  error. -/
  fails : ∀ cause, (l.perform E op).1.poll = .error (.fatal cause) →
    cause.reason = .transportClosed ∧ (l.perform E op).2.connection.state = .errored
  /-- If it reaches the engine, it is ready, or the peer has closed, or it has failed; only a
  handshake that is over may want for a chain that can be recorded. -/
  reached : op.Reaches E l → Answered E l op ∨ Unrecorded E l op

/-- An error that is not fatal leads nowhere but into the handshake. -/
theorem Edge.eq_handshaking {out : Outcome} {t t' : State}
    (he : Edge .advanceHandshake out t t') (hpoll : out.poll = .error .engine) :
    t' = .handshaking := by
  cases he with
  | start _ => rfl
  | complete => cases hpoll
  | fail _ hf =>
    rw [Outcome.isFatal, Outcome.error?_of_poll hpoll] at hf
    cases hf

/-- **A handshake that ends in such an error goes on, without a record**, if its engine runs. -/
theorem handshaking_of_error {E : Engine σ} {l : Link σ} (h : Coherent l)
    (hreach : Operation.advanceHandshake.Reaches E l)
    (hpoll : (l.perform E .advanceHandshake).1.poll = .error .engine) {s : σ}
    (hs : (l.perform E .advanceHandshake).2.connection.engine = .running s) :
    (l.perform E .advanceHandshake).2.connection.state = .handshaking ∧
      (l.perform E .advanceHandshake).2.connection.info = none := by
  have hcoh : Coherent (l.perform E .advanceHandshake).2 :=
    step_coherent E h (.operation .advanceHandshake)
  have hstate : (l.perform E .advanceHandshake).2.connection.state = .handshaking := by
    rcases (perform_lawful E l .advanceHandshake).edge with hstay | he | ⟨-, -, he⟩
    · rcases hreach.1 with hc | hh
      -- before the start no engine runs
      · rcases (hcoh.fresh (hstay.trans hc)).1 with hidle | hlost
        · cases hs.symm.trans hidle
        · cases hs.symm.trans hlost
      · exact hstay.trans hh
    · exact he.eq_handshaking hpoll
    · exact he.eq_handshaking hpoll
  refine ⟨hstate, Option.not_isSome_iff_eq_none.mp ?_⟩
  rw [hcoh.info (by rw [hstate]; nofun), hstate]
  exact Bool.false_ne_true

section Operations

variable {E : Engine σ} {l : Link σ} (h : Coherent l) (hr : l.pipe.isReleased .caller = true)
include h hr

/-- What only a call can say is what is said of a call over a released pipe. -/
theorem noticed_of_saysEngine {op : Operation}
    (hword : saysEngine (l.perform E op).1.poll = true) :
    ∃ (α : Type) (raw : RawOutcome α), Noticed raw (l.perform E op).1.poll := by
  obtain ⟨α, call, s, o, raw, s', w, hx, hpoll⟩ := perform_saysEngine E h hword
  rw [hpoll]
  exact ⟨α, raw, resultOf_noticed E raw s' (hx.isSiblingReleased.trans hr)⟩

/-- **An operation that reaches the engine** says what is said of its call, unless the handshake is
over and its chain cannot be recorded. -/
theorem answered_of_reaches {op : Operation} (hop : op.Reaches E l) :
    Answered E l op ∨ Unrecorded E l op := by
  obtain ⟨α, call, s, o, raw, s', w, hx⟩ := perform_exchange E h op hop
  rcases hx.poll with hpoll | ⟨rfl, ⟨a, rfl⟩, hill, hpoll⟩
  · refine Or.inl ⟨α, call, s, o, raw, s', w, hx.makes, hx.state, hx.run, ?_⟩
    rw [hpoll]
    exact resultOf_noticed E raw s' (hx.isSiblingReleased.trans hr)
  · obtain ⟨hstate, hinfo⟩ := handshaking_of_error h hop hpoll hx.engine
    cases hx.makes
    exact Or.inr ⟨rfl, ⟨s, o, s', w, hx.state, hx.run, hx.engine, hill⟩, hpoll, hstate, hinfo⟩

/-- **Every operation notices that the other end is gone.** -/
theorem perform_notices (op : Operation) : Notices E l op where
  waits d hpoll := by
    obtain ⟨α, raw, hn⟩ := noticed_of_saysEngine h hr (by rw [hpoll]; rfl)
    rw [hpoll] at hn
    exact Noticed.ne_wouldBlock d hn
  asks issuers hpoll := by
    obtain ⟨α, raw, hn⟩ := noticed_of_saysEngine h hr (by rw [hpoll]; rfl)
    rw [hpoll] at hn
    exact Noticed.ne_clientCertificateRequested issuers hn
  fails cause hpoll := by
    obtain ⟨α, raw, hn⟩ := noticed_of_saysEngine h hr (by rw [hpoll]; rfl)
    rw [hpoll] at hn
    refine ⟨hn.reason_eq, ((perform_lawful E l op).fatal ?_).2⟩
    rw [Outcome.isFatal, Outcome.error?_of_poll hpoll]
    rfl
  reached hop := answered_of_reaches h hr hop

end Operations

/-! ### Runs with a release in them -/

/-- **A caller endpoint that is gone is gone for the rest of a run.** -/
theorem isReleased_caller_after (E : Engine σ) {l : Link σ} (h : Coherent l)
    (hr : l.pipe.isReleased .caller = true) (es : List Event) :
    (l.after E es).pipe.isReleased .caller = true := by
  obtain ⟨moves, hmoves⟩ := after_pipe E h es
  rw [hmoves]
  exact Pipe.isReleased_after hr moves

/-- **A release is noticed.** Take any engine, any connection, any run, and in it a release of the
caller endpoint at any point: before the first operation, in the middle of a handshake, or at any
time after. Every operation from then on comes to what `SocketlessTls.Link.Notices` says. -/
theorem release_noticed (E : Engine σ) (config : Config) (pipe : Pipe) (objects : SessionObjects)
    (h : pipe.isReleased .engine = false) (before later : List Event) (op : Operation) :
    Notices E ((fresh config pipe objects).after E (before ++ .caller .release :: later)) op := by
  have hstart : Coherent (fresh config pipe objects : Link σ) := .of_fresh config pipe objects h
  have hrelease : ((fresh config pipe objects : Link σ).after E
      (before ++ [.caller .release])).pipe.isReleased .caller = true := by
    rw [after_concat]
    exact Pipe.isReleased_release _ .caller
  have hgone : ((fresh config pipe objects : Link σ).after E
      (before ++ .caller .release :: later)).pipe.isReleased .caller = true := by
    rw [List.append_cons, after_append]
    exact isReleased_caller_after E (after_coherent E hstart _) hrelease later
  exact perform_notices (after_coherent E hstart _) hgone op

/-- An engine that waits for an answer to its greeting is not left waiting when the other end of
the pipe goes. -/
theorem greeter_notices :
    Pipe.default.isReleased .engine = false ∧
      Operation.advanceHandshake.Reaches greeter ((fresh .initial .default .empty).after greeter
        ([.operation .advanceHandshake] ++ .caller .release :: [])) ∧
      Answered greeter ((fresh .initial .default .empty).after greeter
        ([.operation .advanceHandshake] ++ .caller .release :: [])) .advanceHandshake := by
  have hreach : Operation.advanceHandshake.Reaches greeter ((fresh .initial .default .empty).after
      greeter ([.operation .advanceHandshake] ++ .caller .release :: [])) :=
    ⟨Or.inr rfl, _, rfl⟩
  refine ⟨rfl, hreach, ?_⟩
  rcases (release_noticed greeter .initial .default .empty rfl
    [.operation .advanceHandshake] [] .advanceHandshake).reached hreach with ha | hu
  · exact ha
  -- its handshake is not over
  · cases hu.poll

/-- An engine whose handshake is over at once, and which gives out a certificate without any
bytes. -/
def careless : Engine Unit :=
  { Engine.waiting () with
    handshake := fun _ => .done (.done (), ())
    peerChain := fun _ => some [[]] }

/-- **Not every engine call over a released pipe is ready, or closed by the peer, or fails**: the
handshake of a careless engine ends in an error that is not fatal. -/
theorem careless_unanswered :
    Pipe.default.isReleased .engine = false ∧
      Operation.advanceHandshake.Reaches careless
        ((fresh .initial .default .empty).after careless [.caller .release]) ∧
      (((fresh .initial .default .empty).after careless [.caller .release]).perform careless
        .advanceHandshake).1.poll = .error .engine ∧
      ¬Answered careless ((fresh .initial .default .empty).after careless [.caller .release])
        .advanceHandshake := by
  have hpoll : (((fresh .initial .default .empty).after careless [.caller .release]).perform
      careless .advanceHandshake).1.poll = .error .engine := by
    decide
  refine ⟨rfl, ⟨Or.inl rfl, _, rfl⟩, hpoll, ?_⟩
  rintro ⟨α, call, s, o, raw, s', w, -, -, -, hn⟩
  rw [hpoll] at hn
  cases hn

end Link

end SocketlessTls
