import SocketlessTls.Proofs.Connection.Exchange

/-!
# The course of an operation

What an operation may come to, listed once for all operations. One that reaches the engine makes an
exchange with it; of the others there are few kinds, and `SocketlessTls.Link.Course` names them
together with the link that each leaves behind. The list is complete for every coherent link and
over every engine (`SocketlessTls.Link.perform_course`), so what holds of an operation whatever it
is can be read off the list. The first thing read off it is that some words are the engine's alone
(`SocketlessTls.Link.perform_saysEngine`): that the pipe must move, that the peer has closed, that
the connection has failed, that a certificate is wanted.
-/

namespace SocketlessTls

namespace Link

variable {σ : Type}

/-! ### The list -/

/-- **What an operation may come to**, with the link that it leaves behind. -/
inductive Course (E : Engine σ) (l : Link σ) : Operation → Outcome → Link σ → Prop
  /-- It is refused. -/
  | refused {op : Operation} {out : Outcome} {e : TlsError} (he : e.isRefusal = true)
      (ho : out.poll = .error e) : Course E l op out l
  /-- There is nothing to do. -/
  | idle {op : Operation} {out : Outcome} (ho : out.poll = .ok (.ready ())) : Course E l op out l
  | configured {config : Config} (hs : l.connection.state = .configured) :
      Course E l (.configure config) (.configured (.ok ()))
        { l with connection := { l.connection with config } }
  /-- The engine should be started and cannot be got ready. -/
  | unprepared {op : Operation} {out : Outcome} (hno : CannotPrepare E l)
      (ho : out.poll = .error .engine) : Course E l op out l
  /-- The engine should be started and is lost. -/
  | lost {op : Operation} {out : Outcome} {objects : SessionObjects} (hno : CannotAttach E l)
      (ho : out.poll = .error .engine) : Course E l op out
        { connection := { l.connection with engine := .detached }
          pipe := l.pipe.release .engine, objects }
  /-- A question is put. -/
  | told (q : Question) : Course E l (.ask q) (.told (q.answer E l.connection l.objects))
      { l with objects := l.objectsAfter E q }
  /-- A new handshake is declined. -/
  | declined {s s' : σ} (hr : l.connection.engine = .running s)
      (hno : E.renegotiate s = (false, s')) :
      Course E l .renegotiate (.renegotiated (.error (.unsupported "renegotiate")))
        { l with connection := { l.connection with engine := .running s' } }
  /-- A new handshake is accepted. -/
  | accepted {s s' : σ} (hr : l.connection.engine = .running s)
      (hyes : E.renegotiate s = (true, s')) :
      Course E l .renegotiate (.renegotiated (.ok ())) { l with
        connection := { l.connection with
          engine := .running s', captured := none, info := none, state := .handshaking } }
  /-- The engine is called. -/
  | called {op : Operation} {out : Outcome} {l' : Link σ} (hr : op.Reaches E l)
      (hx : Exchanges E l op out l') : Course E l op out l'

/-! ### The operations -/

section Courses

variable (E : Engine σ) {l l₁ : Link σ} (h : Coherent l)

omit h in
/-- A configuration that may no longer be changed is refused. -/
theorem configure_course (config : Config) :
    Course E l (.configure config) (.configured (l.configure config).1) (l.configure config).2 := by
  by_cases hs : l.connection.state = .configured
  · rcases configure_cases l config with ⟨-, hc⟩ | ⟨-, -, hne, -⟩
    · rw [hc]
      exact .configured hs
    · exact absurd hs hne
  · rcases ht : l.connection.state.isTerminal with _ | _
    · have hc : l.configure config =
          (.error (.invalidState "config_mut" l.connection.state), l) := by
        simp [configure, Connection.configMut, l.connection.ensureLive_of_live ht, bind,
          Except.bind, hs, Connection.invalidState]
      rw [hc]
      exact .refused rfl rfl
    · have hc : l.configure config = (.error (.alreadyTerminated l.connection.state), l) := by
        simp [configure, Connection.configMut, l.connection.ensureLive_of_terminal ht, bind,
          Except.bind]
      rw [hc]
      exact .refused rfl rfl

include h

/-- A start that fails: the engine has been lost before, cannot be got ready, or is lost now. -/
theorem course_of_start_error {op : Operation} {out : Outcome}
    (hs : l.connection.state = .configured ∨ l.connection.state = .handshaking) {e : TlsError}
    (hst : l.startIfConfigured E = (.error e, l₁)) (ho : out.poll = .error e) :
    Course E l op out l₁ := by
  rcases startIfConfigured_cases E l hs with ⟨-, hc⟩ | ⟨hs, hc⟩
  · exact absurd (Prod.mk.inj (hst.symm.trans hc)).1 (by simp)
  rcases (h.fresh hs).1 with hidle | hlost
  · rcases start_idle_cases E hidle with ⟨hno, hd⟩ | ⟨hno, o, hd⟩ | ⟨s, o, hd⟩
    · obtain ⟨he, rfl⟩ := Prod.mk.inj (hst.symm.trans (hc.trans hd))
      exact .unprepared hno (ho.trans (congrArg Except.error (Except.error.inj he)))
    · obtain ⟨he, rfl⟩ := Prod.mk.inj (hst.symm.trans (hc.trans hd))
      exact .lost hno (ho.trans (congrArg Except.error (Except.error.inj he)))
    · exact absurd (Prod.mk.inj (hst.symm.trans (hc.trans hd))).1 (by simp)
  · have hd : l.start E = (.error (.invalidState "start" l.connection.state), l) := by
      simp only [start, hlost, Connection.invalidState]
    obtain ⟨he, rfl⟩ := Prod.mk.inj (hst.symm.trans (hc.trans hd))
    obtain rfl := Except.error.inj he
    exact .refused rfl ho

theorem advanceHandshake_course :
    Course E l .advanceHandshake (.advanced (l.advanceHandshake E).1)
      (l.advanceHandshake E).2 := by
  rcases advanceHandshake_cases E l with ⟨e, he, -, -, ha⟩ | ⟨hs, ⟨e, l₁, hst, ha⟩ | ⟨l₁, hst, -⟩⟩
  · rw [ha]
    exact .refused he.isRefusal rfl
  · rw [ha]
    exact course_of_start_error E h hs hst rfl
  · exact .called ⟨hs, l₁, hst⟩ (perform_exchange E h .advanceHandshake ⟨hs, l₁, hst⟩)

theorem write_course (data : Bytes) :
    Course E l (.write data) (.written (l.write E data).1) (l.write E data).2 := by
  rcases write_cases E l data with ⟨e, he, -, hw⟩ | ⟨-, -, hw⟩ | ⟨hs, hd, -⟩
  · rw [hw]
    exact .refused he.isRefusal rfl
  · rw [hw]
    exact .idle rfl
  · exact .called ⟨hs, hd⟩ (perform_exchange E h (.write data) ⟨hs, hd⟩)

theorem writeEarlyData_course (data : Bytes) :
    Course E l (.writeEarlyData data) (.written (l.writeEarlyData E data).1)
      (l.writeEarlyData E data).2 := by
  rcases writeEarlyData_cases E l data with
    ⟨e, he, -, hw⟩ | ⟨-, -, hw⟩ | ⟨hadm, hb, hd, ⟨e, l₁, hst, hw⟩ | ⟨l₁, hst, -⟩⟩
  · rw [hw]
    exact .refused he.isRefusal rfl
  · rw [hw]
    exact .idle rfl
  · rw [hw]
    exact course_of_start_error E h (state_of_admitsEarlyData hadm) hst rfl
  · exact .called ⟨hadm, hb, hd, l₁, hst⟩
      (perform_exchange E h (.writeEarlyData data) ⟨hadm, hb, hd, l₁, hst⟩)

theorem read_course (max : Nat) (granted : Bool) :
    Course E l (.read max granted) (.read (l.read E max granted).1) (l.read E max granted).2 := by
  rcases read_cases E l max granted with
    ⟨e, he, -, hr⟩ | ⟨-, -, hr⟩ | ⟨-, -, hr⟩ | ⟨hs, h0, ha, -⟩
  · rw [hr]
    exact .refused he.isRefusal rfl
  · rw [hr]
    exact .refused rfl rfl
  · rw [hr]
    exact .idle rfl
  · exact .called ⟨hs, h0, ha⟩ (perform_exchange E h (.read max granted) ⟨hs, h0, ha⟩)

theorem readInto_course (buffer : Bytes) :
    Course E l (.readInto buffer) (.filled (l.readInto E buffer).1 (l.readInto E buffer).2.1)
      (l.readInto E buffer).2.2 := by
  rcases readInto_cases E l buffer with ⟨e, he, -, hr⟩ | ⟨-, -, hr⟩ | ⟨hs, hb, -⟩
  · rw [hr]
    exact .refused he.isRefusal rfl
  · rw [hr]
    exact .idle rfl
  · exact .called ⟨hs, hb⟩ (perform_exchange E h (.readInto buffer) ⟨hs, hb⟩)

theorem shutdown_course :
    Course E l .shutdown (.closing (l.shutdown E).1) (l.shutdown E).2 := by
  rcases shutdown_cases E l with ⟨-, hd⟩ | ⟨e, he, -, hd⟩ | ⟨hs, -⟩
  · rw [hd]
    exact .idle rfl
  · rw [hd]
    exact .refused he.isRefusal rfl
  · exact .called hs (perform_exchange E h .shutdown hs)

omit h in
theorem renegotiate_course :
    Course E l .renegotiate (.renegotiated (l.renegotiate E).1) (l.renegotiate E).2 := by
  rcases renegotiate_cases E l with
    ⟨e, he, -, hd⟩ | ⟨-, s, s', hr, hno, hd⟩ | ⟨-, s, s', hr, hy, hd⟩
  · rw [hd]
    exact .refused he.isRefusal rfl
  · rw [hd]
    exact .declined hr hno
  · rw [hd]
    exact .accepted hr hy

/-- **Every operation takes one of the courses**, at any coherent link and over any engine. -/
theorem perform_course (op : Operation) :
    Course E l op (l.perform E op).1 (l.perform E op).2 := by
  cases op with
  | configure config => exact configure_course E config
  | advanceHandshake => exact advanceHandshake_course E h
  | write data => exact write_course E h data
  | writeEarlyData data => exact writeEarlyData_course E h data
  | read max granted => exact read_course E h max granted
  | readInto buffer => exact readInto_course E h buffer
  | shutdown => exact shutdown_course E h
  | renegotiate => exact renegotiate_course E
  | ask q => exact .told q

/-! ### What only a call can say -/

/-- Whether a result is one that no operation comes to by itself: that the pipe must move, that the
peer has closed, that the connection has failed, or that a certificate is wanted. -/
def saysEngine : PollResult Unit → Bool
  | .ok (.wouldBlock _) | .ok .peerClosed => true
  | .error (.fatal _) | .error (.clientCertificateRequested _) => true
  | _ => false

omit h in
/-- The guards say none of this. -/
theorem saysEngine_of_isRefusal {e : TlsError} (he : e.isRefusal = true) :
    saysEngine (.error e) = false := by
  cases e <;> first | rfl | cases he

omit h in
/-- Nor do questions. -/
theorem saysEngine_of_unanswered {c : Connection σ} {e : TlsError} (he : c.Unanswered e) :
    saysEngine (.error e) = false := by
  cases he <;> rfl

omit h in
/-- What only a call can say is said where the engine is called. -/
theorem Course.exchanges_of_saysEngine {op : Operation} {out : Outcome} {l' : Link σ}
    (hcourse : Course E l op out l') (hword : saysEngine out.poll = true) :
    op.Reaches E l ∧ Exchanges E l op out l' := by
  cases hcourse with
  | called hr hx => exact ⟨hr, hx⟩
  | refused he ho =>
    rw [ho, saysEngine_of_isRefusal he] at hword
    cases hword
  | told q =>
    rcases ha : q.answer E l.connection l.objects with e | a <;> rw [ha] at hword
    · have hno := saysEngine_of_unanswered (Question.answer_error ha)
      cases hno.symm.trans hword
    · cases hword
  | idle ho =>
    rw [ho] at hword
    cases hword
  | unprepared _ ho =>
    rw [ho] at hword
    cases hword
  | lost _ ho =>
    rw [ho] at hword
    cases hword
  | configured _ => cases hword
  | declined _ _ => cases hword
  | accepted _ _ => cases hword

/-- **What only a call can say comes from a call**, and is said as the call says it. -/
theorem perform_saysEngine {op : Operation}
    (hword : saysEngine (l.perform E op).1.poll = true) :
    ∃ (α : Type) (call : σ → Call (RawOutcome α × σ)) (s : σ) (o : SessionObjects)
      (raw : RawOutcome α) (s' : σ) (w : Call.World),
      Exchange E l op (l.perform E op).1 (l.perform E op).2 call s o raw s' w ∧
        (l.perform E op).1.poll = forget (resultOf E raw s' w) := by
  obtain ⟨-, α, call, s, o, raw, s', w, hx⟩ :=
    (perform_course E h op).exchanges_of_saysEngine E hword
  refine ⟨α, call, s, o, raw, s', w, hx, ?_⟩
  -- a chain that cannot be read is no failure of the connection
  rcases hx.poll with hcall | ⟨-, -, -, hcall⟩
  · exact hcall
  · rw [hcall] at hword
    cases hword

end Courses

end Link

end SocketlessTls
