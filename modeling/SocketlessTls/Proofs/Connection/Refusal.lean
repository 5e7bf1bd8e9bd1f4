import SocketlessTls.Proofs.Connection.Course
import SocketlessTls.Proofs.Connection.Reachable

/-!
# A refused operation changes nothing

There are many ways to be refused. A guard looks at the state; reading asks for a buffer first;
starting the engine takes three steps, each of which may fail, before the engine gets its end of the
pipe. This file shows that a refusal of any kind leaves the connection, the pipe and the session
objects as they were and has made no engine call, so that the operation may be tried again as if
nothing had happened.

That no call was made is said by putting any other calls in place of the engine's
(`SocketlessTls.Engine.withCalls`): the operation still comes to the same.

* `SocketlessTls.Link.perform_of_isRefusal`, `SocketlessTls.Link.perform_of_cannotPrepare` – an
  operation that says it was refused, and one that cannot get the engine ready;
* `SocketlessTls.Link.perform_of_unsupported` – a new handshake that the engine declines;
* `SocketlessTls.Link.perform_of_errored` – after a failure everything is refused but three
  questions;
* `SocketlessTls.Link.refusals_change_nothing` – all of it, for every connection that can be
  reached.
-/

namespace SocketlessTls

/-! ### Connections that have ended -/

namespace Connection

variable {σ : Type} {c : Connection σ}

theorem require_of_terminal (h : c.state.isTerminal = true) (operation : String)
    (allowed : List State) :
    c.require operation allowed = .error (.alreadyTerminated c.state) := by
  simp [require, c.ensureLive_of_terminal h, bind, Except.bind]

theorem ensureNotErrored_of_errored (h : c.state = .errored) :
    c.ensureNotErrored = .error (.alreadyTerminated .errored) := by
  simp [ensureNotErrored, h]

theorem establishedEngine_of_errored (h : c.state = .errored) (what : String) :
    c.establishedEngine what = .error (.alreadyTerminated .errored) := by
  simp [establishedEngine, ensureNotErrored_of_errored h, bind, Except.bind]

theorem negotiated_of_errored (h : c.state = .errored) (what : String) :
    c.negotiated what = .error (.alreadyTerminated .errored) := by
  simp [negotiated, establishedEngine_of_errored h, bind, Except.bind]

end Connection

/-- The questions that are answered even after a failure: which cipher it was, and what an engine
for the configuration can tell. -/
def Question.survivesFailure : Question → Bool
  | .cipher | .stateText | .cipherNames => true
  | _ => false

/-- **After a failure all other questions are refused.** -/
theorem Question.answer_of_errored {σ : Type} (E : Engine σ) {c : Connection σ}
    (h : c.state = .errored) (o : SessionObjects) {q : Question}
    (hq : q.survivesFailure = false) :
    q.answer E c o = .error (.alreadyTerminated .errored) := by
  have hengine := c.establishedEngine_of_errored h
  have hrecord := c.negotiated_of_errored h
  have hlive := c.ensureNotErrored_of_errored h
  cases q with
  | cipher => cases hq
  | stateText => cases hq
  | cipherNames => cases hq
  | protocolVersion => simp only [answer, Connection.protocolVersion, hrecord]; rfl
  | peerCertChain => simp only [answer, Connection.peerCertChain, hrecord]; rfl
  | earlyDataStatus => simp only [answer, Connection.earlyDataStatus, hlive]; rfl
  | pendingBytes => simp only [answer, Connection.pendingBytes, hlive]; rfl
  -- what is asked of the engine of an established connection
  | session => simp only [answer, Connection.session, hengine]; rfl
  | ocspResponse => simp only [answer, Connection.ocspResponse, hengine]; rfl
  | peerCertificate => simp only [answer, Connection.peerCertificate, hengine]; rfl
  | clientCaList => simp only [answer, Connection.clientCaList, hengine]; rfl
  | verifyResult => simp only [answer, Connection.verifyResult, hengine]; rfl
  | peerSignatureDigest => simp only [answer, Connection.peerSignatureDigest, hengine]; rfl
  | peerSignatureType => simp only [answer, Connection.peerSignatureType, hengine]; rfl
  | sessionReused => simp only [answer, Connection.sessionReused, hengine]; rfl
  | compressionMethod => simp only [answer, Connection.compressionMethod, hengine]; rfl
  | alpnProtocol => simp only [answer, Connection.alpnProtocol, hengine]; rfl
  | ephemeralKey => simp only [answer, Connection.ephemeralKey, hengine]; rfl
  | secureRenegotiationSupport =>
    simp only [answer, Connection.secureRenegotiationSupport, hengine]; rfl

namespace Link

variable {σ : Type}

/-- **An operation that has not happened**: link and objects are as they were, and the engine's
calls have had no part in what it came to. -/
def Untouched (E : Engine σ) (l : Link σ) (op : Operation) : Prop :=
  (l.perform E op).2 = l ∧ ∀ k : Engine.Calls σ, l.perform (E.withCalls k) op = l.perform E op

/-! ### Refusals by their own account -/

section Refusals

variable (E : Engine σ) {l l₁ : Link σ} {op : Operation} {e : TlsError}

/-- A question that has no answer makes no session object. -/
theorem objectsAfter_of_error {q : Question}
    (h : q.answer E l.connection l.objects = .error e) : l.objectsAfter E q = l.objects := by
  cases q with
  | session =>
    have hs : l.connection.session E l.objects = .error e := error_of_map h
    simp only [objectsAfter, hs]
  | _ => rfl

/-- An operation that says it was refused has not reached the engine. -/
theorem not_reaches_of_isRefusal (h : Coherent l) (he : (l.perform E op).1.error? = some e)
    (hr : e.isRefusal = true) : ¬op.Reaches E l := by
  intro hreach
  obtain ⟨α, call, s, o, raw, s', w, hx⟩ := perform_exchange E h op hreach
  have hpoll := Outcome.poll_of_error? he
  -- neither the engine nor the end of a handshake says that anything was refused
  rcases hx.poll with hcall | ⟨-, -, -, hcall⟩ <;> rw [hpoll] at hcall
  · rw [isRefusal_of_resultOf E raw s' w hcall.symm] at hr
    cases hr
  · obtain rfl := Except.error.inj hcall
    cases hr

/-- **An operation that says it was refused has changed nothing**, and makes no engine call. -/
theorem perform_of_isRefusal (h : Coherent l) (he : (l.perform E op).1.error? = some e)
    (hr : e.isRefusal = true) : Untouched E l op := by
  have hreach := not_reaches_of_isRefusal E h he hr
  refine ⟨?_, fun k => perform_withCalls E k hreach⟩
  have hcourse := perform_course E h op
  generalize (l.perform E op).1 = out, (l.perform E op).2 = l' at he hcourse ⊢
  have hpoll := Outcome.poll_of_error? he
  cases hcourse with
  | refused _ _ => rfl
  | idle _ => rfl
  | unprepared _ _ => rfl
  | configured _ => cases hpoll
  | lost _ ho =>
    obtain rfl := Except.error.inj (ho.symm.trans hpoll)
    cases hr
  | told q =>
    -- only an answer can have made a session object, and there was none
    have hq : q.answer E l.connection l.objects = .error e := by
      rcases ha : q.answer E l.connection l.objects with e' | a <;> rw [ha] at he
      · exact congrArg Except.error (Option.some.inj he)
      · cases he
    show ({ l with objects := l.objectsAfter E q } : Link σ) = l
    rw [objectsAfter_of_error E hq]
  | declined _ _ =>
    obtain rfl := Except.error.inj hpoll
    cases hr
  | accepted _ _ => cases hpoll
  | called hreach' _ => exact absurd hreach' hreach

end Refusals

/-! ### Engines that cannot be got ready -/

section Starting

variable (E : Engine σ) {l l₁ : Link σ} {op : Operation} {e : TlsError}

/-- An operation that would start the engine comes to what the start comes to, if that fails. -/
theorem perform_of_start_error (ho : op.WouldStart l.connection)
    (hs : l.connection.state = .configured) (hst : l.start E = (.error e, l₁)) :
    (l.perform E op).1.error? = some e ∧ (l.perform E op).2 = l₁ := by
  rw [← startIfConfigured_of_configured E hs] at hst
  cases op with
  | advanceHandshake =>
    rcases advanceHandshake_cases E l with ⟨e', -, hne, -⟩ | ⟨-, ⟨e', l₂, hst', ha⟩ | ⟨l₂, hst', -⟩⟩
    · exact absurd hs hne
    · obtain ⟨he, rfl⟩ := Prod.mk.inj (hst.symm.trans hst')
      obtain rfl := Except.error.inj he
      simp only [perform, ha]
      exact ⟨rfl, trivial⟩
    · exact absurd (Prod.mk.inj (hst.symm.trans hst')).1 (by simp)
  | writeEarlyData data =>
    obtain ⟨hb, hd⟩ := ho
    rcases writeEarlyData_cases E l data with
      ⟨e', -, hno, -⟩ | ⟨-, hnone, -⟩ | ⟨-, -, -, ⟨e', l₂, hst', hw⟩ | ⟨l₂, hst', -⟩⟩
    · simp [admitsEarlyData, hs] at hno
    · exact absurd hnone (not_or.mpr ⟨hb, hd⟩)
    · obtain ⟨he, rfl⟩ := Prod.mk.inj (hst.symm.trans hst')
      obtain rfl := Except.error.inj he
      simp only [perform, hw]
      exact ⟨rfl, trivial⟩
    · exact absurd (Prod.mk.inj (hst.symm.trans hst')).1 (by simp)
  | _ => exact ho.elim

/-- Nor does it reach the engine then. -/
theorem not_reaches_of_start_error (hs : l.connection.state = .configured)
    (hst : l.start E = (.error e, l₁)) : ¬op.Reaches E l := by
  have hno : ¬∃ l₂, l.startIfConfigured E = (.ok (), l₂) := by
    rintro ⟨l₂, hst'⟩
    rw [startIfConfigured_of_configured E hs, hst] at hst'
    exact absurd (Prod.mk.inj hst').1 (by simp)
  have hread : l.connection.state ∉ readStates := by
    rw [hs]
    decide
  intro hr
  cases op with
  | advanceHandshake => exact hno hr.2
  | writeEarlyData data => exact hno hr.2.2.2
  | write data => cases hs.symm.trans hr.1
  | read max granted => exact hread hr.1
  | readInto buffer => exact hread hr.1
  | shutdown => rcases hr with hr | hr <;> cases hs.symm.trans hr
  | _ => exact hr

/-- **An operation that cannot get the engine ready ends in the engine's error and has changed
nothing**, and makes no engine call. -/
theorem perform_of_cannotPrepare (ho : op.WouldStart l.connection)
    (hs : l.connection.state = .configured) (hidle : l.connection.engine = .idle)
    (hno : CannotPrepare E l) :
    (l.perform E op).1.error? = some .engine ∧ Untouched E l op := by
  have hst := start_of_cannotPrepare E hidle hno
  obtain ⟨herr, hsame⟩ := perform_of_start_error E ho hs hst
  exact ⟨herr, hsame, fun k => perform_withCalls E k (not_reaches_of_start_error E hs hst)⟩

end Starting

/-! ### Declined handshakes -/

/-- **A new handshake that the engine declines** leaves everything but the engine's own state as it
was. Nothing else is answered by that it is unsupported. -/
theorem perform_of_unsupported (E : Engine σ) {l : Link σ} (h : Coherent l) {op : Operation}
    {what : String} (he : (l.perform E op).1.error? = some (.unsupported what)) :
    op = .renegotiate ∧ ∃ s s', l.connection.engine = .running s ∧ E.renegotiate s = (false, s') ∧
      (l.perform E op).2 =
        { l with connection := { l.connection with engine := .running s' } } := by
  have hpoll := Outcome.poll_of_error? he
  have hcourse := perform_course E h op
  generalize (l.perform E op).1 = out, (l.perform E op).2 = l' at hpoll hcourse ⊢
  cases hcourse with
  | declined hr hno => exact ⟨rfl, _, _, hr, hno, rfl⟩
  -- the guards do not say so
  | refused hr ho =>
    obtain rfl := Except.error.inj (ho.symm.trans hpoll)
    cases hr
  -- nor does a start that fails
  | unprepared _ ho => cases ho.symm.trans hpoll
  | lost _ ho => cases ho.symm.trans hpoll
  -- nor an answer
  | told q =>
    rcases ha : q.answer E l.connection l.objects with e | a <;> rw [ha] at hpoll
    · obtain rfl := Except.error.inj hpoll
      cases Question.answer_error ha
    · cases hpoll
  -- nor the engine in a call
  | called _ hx =>
    obtain ⟨α, call, s, o, raw, s', w, hx⟩ := hx
    rcases hx.poll with hcall | ⟨-, -, -, hcall⟩
    · rcases error_of_resultOf E raw s' w (hcall.symm.trans hpoll) with ⟨_, hc⟩ | ⟨_, hc⟩ <;>
        cases hc
    · cases hcall.symm.trans hpoll
  | idle ho => cases ho.symm.trans hpoll
  | configured _ => cases hpoll
  | accepted _ _ => cases hpoll

/-! ### After a failure -/

/-- **After a failure every operation is refused** but the three questions. -/
theorem perform_of_errored (E : Engine σ) {l : Link σ} (hs : l.connection.state = .errored)
    {op : Operation} (hop : ∀ q, op = .ask q → q.survivesFailure = false) :
    (l.perform E op).1.error? = some (.alreadyTerminated .errored) := by
  have ht : l.connection.state.isTerminal = true := by rw [hs]; rfl
  have hlive := l.connection.ensureLive_of_terminal ht
  have hreq := Connection.require_of_terminal ht
  rw [hs] at hlive
  simp only [hs] at hreq
  -- every operation looks first at whether the connection has ended
  cases op with
  | configure config =>
    simp only [perform, configure, Connection.configMut, hlive]
    rfl
  | advanceHandshake =>
    simp only [perform, advanceHandshake, hlive]
    rfl
  | write data =>
    simp only [perform, write, hreq]
    rfl
  | writeEarlyData data =>
    simp only [perform, writeEarlyData, hlive]
    rfl
  | read max granted =>
    simp only [perform, read, hreq]
    rfl
  | readInto buffer =>
    simp only [perform, readInto, hreq]
    rfl
  | shutdown =>
    simp only [perform, shutdown, hs]
    rfl
  | renegotiate =>
    simp only [perform, renegotiate, hreq]
    rfl
  | ask q =>
    simp only [perform, q.answer_of_errored E hs l.objects (hop q rfl)]
    rfl

/-! ### Reachable connections -/

/-- **What an operation that did not happen leaves behind**, at a link `l`. -/
structure Refuses (E : Engine σ) (l : Link σ) : Prop where
  /-- Operations that say they were refused. -/
  refused : ∀ (op : Operation) (e : TlsError), (l.perform E op).1.error? = some e →
    e.isRefusal = true → Untouched E l op
  /-- Operations for which the engine should be started, and cannot be got ready. The engine is idle
  after them as it was before. -/
  unprepared : ∀ op : Operation, op.WouldStart l.connection → l.connection.state = .configured →
    l.connection.engine = .idle → CannotPrepare E l →
    (l.perform E op).1.error? = some .engine ∧ Untouched E l op
  /-- A new handshake that is not supported. Nothing but the engine knows that it was asked for. -/
  unsupported : ∀ (op : Operation) (what : String),
    (l.perform E op).1.error? = some (.unsupported what) →
    op = .renegotiate ∧ ∃ s s', l.connection.engine = .running s ∧ E.renegotiate s = (false, s') ∧
      (l.perform E op).2 = { l with connection := { l.connection with engine := .running s' } }
  /-- After a failure every operation is refused, and so is every question but three. -/
  errored : l.connection.state = .errored → ∀ op : Operation,
    (∀ q, op = .ask q → q.survivesFailure = false) →
    (l.perform E op).1.error? = some (.alreadyTerminated .errored)

/-- **Operations that did not happen**, at every connection that a run has reached, over any engine:
the operation may be tried again as if it had not been tried before. -/
theorem refusals_change_nothing (E : Engine σ) (config : Config) (pipe : Pipe)
    (objects : SessionObjects) (h : pipe.isReleased .engine = false) (es : List Event) :
    Refuses E ((fresh config pipe objects).after E es) := by
  have hc : Coherent ((fresh config pipe objects).after E es) :=
    after_coherent E (.of_fresh config pipe objects h) es
  exact {
    refused := fun op e he hr => perform_of_isRefusal E hc he hr
    unprepared := fun op ho hs hidle hno => perform_of_cannotPrepare E ho hs hidle hno
    unsupported := fun op what he => perform_of_unsupported E hc he
    errored := fun hs op hop => perform_of_errored E hs hop }

/-- The engine of this library finds the other end of its pipe gone; writing is then refused and
leaves the link as the failure has left it. -/
theorem untouched_after_release :
    Pipe.default.isReleased .engine = false ∧
      Untouched Transparent.engine ((fresh .initial .default .empty).after Transparent.engine
        [.caller .release, .operation .advanceHandshake]) (.write [1]) :=
  ⟨rfl, (refusals_change_nothing Transparent.engine .initial .default .empty rfl
    [.caller .release, .operation .advanceHandshake]).refused (.write [1])
      (.alreadyTerminated .errored) (by decide +kernel) rfl⟩

end Link

end SocketlessTls
