import SocketlessTls.Proofs.Connection.Coherence

/-!
# Operations keep a connection coherent

Each operation is taken through its list of cases and found to keep what
`SocketlessTls.Link.Keeps` names. Two operations may start the engine first; for them a successful
start (`SocketlessTls.Link.Started`) leads to a coherent link that is shaking hands, and the rest of
the operation goes on from there.

The result is `SocketlessTls.Link.perform_keeps`, for all operations at once, with its converse
about the engine: where the engine would be started and cannot be joined to the pipe, it is lost
(`SocketlessTls.Link.perform_detached`).
-/

namespace SocketlessTls

namespace Link

variable {σ : Type} {E : Engine σ} {l l₁ l' : Link σ} {op : Operation} {out : Outcome}

/-! ### Starting -/

/-- **A link after a start on demand** that has not failed. -/
structure Started (l l₁ : Link σ) : Prop where
  coherent : Coherent l₁
  state : l₁.connection.state = .handshaking
  config : l₁.connection.config = l.connection.config
  info : l₁.connection.info = l.connection.info
  notLost : l.connection.engine ≠ .detached

theorem Started.running (h : Started l l₁) : ∃ s, l₁.connection.engine = .running s :=
  h.coherent.running (by rw [h.state]; nofun)

/-- A start from a coherent link ends in a coherent link. -/
theorem start_started (h : Coherent l) (hs : l.connection.state = .configured)
    (hst : l.start E = (.ok (), l₁)) : Started l l₁ := by
  rcases start_cases E l with ⟨e, -, -, hc⟩ | ⟨-, -, o, hc⟩ | ⟨hidle, s, o, hc⟩
  · rw [hst] at hc
    exact absurd (Prod.mk.inj hc).1 (by simp)
  · rw [hst] at hc
    exact absurd (Prod.mk.inj hc).1 (by simp)
  · rw [hst] at hc
    obtain rfl := (Prod.mk.inj hc).2
    have hlost : l.connection.engine ≠ .detached := by
      rw [hidle]
      nofun
    obtain ⟨-, hinfo, -, -⟩ := h.fresh hs
    refine ⟨.of_running ⟨s, rfl⟩ State.noConfusion (fun _ => ?_) (fun he => Bool.noConfusion he)
      (h.isReleased_of_ne_detached hlost), rfl, rfl, rfl, hlost⟩
    show l.connection.info.isSome = true ↔ _
    rw [hinfo]
    exact Iff.rfl

theorem startIfConfigured_started (h : Coherent l)
    (hs : l.connection.state = .configured ∨ l.connection.state = .handshaking)
    (hst : l.startIfConfigured E = (.ok (), l₁)) : Started l l₁ := by
  rcases startIfConfigured_cases E l hs with ⟨hs, hc⟩ | ⟨hs, hc⟩
  · rw [hst] at hc
    obtain rfl := (Prod.mk.inj hc).2
    exact ⟨h, hs, rfl, rfl, ne_detached_of_running (h.running (by rw [hs]; nofun))⟩
  · exact start_started h hs (hc ▸ hst)

/-- **A start that fails** leaves everything as it was, or loses the engine with its end of the
pipe. -/
theorem start_keeps_of_error (h : Coherent l) (hs : l.connection.state = .configured)
    (ho : op.WouldStart l.connection) {e : TlsError} (hst : l.start E = (.error e, l₁))
    (hout : out.error? = some e) : Keeps E op out l l₁ := by
  rcases start_cases E l with ⟨e', -, he', hc⟩ | ⟨hidle, hno, o, hc⟩ | ⟨-, s, o, hc⟩
  · rw [hst] at hc
    obtain ⟨he, rfl⟩ := Prod.mk.inj hc
    obtain rfl := Except.error.inj he
    -- nothing has changed; the engine was lost before if it was not idle
    rcases he' with rfl | ⟨rfl, hidle⟩
    · exact .of_same h (Or.inr (by rw [Outcome.isMisplaced, hout]; rfl))
    · have hlost : l₁.connection.engine = .detached := (h.fresh hs).1.resolve_left hidle
      exact ⟨h, fun _ => rfl, fun _ => rfl, Or.inl, id, fun _ _ => ⟨hlost, hs ▸ hout⟩⟩
  · rw [hst] at hc
    obtain ⟨he, rfl⟩ := Prod.mk.inj hc
    obtain rfl := Except.error.inj he
    -- the engine is lost and its end of the pipe given up, in one and the same step
    obtain ⟨-, hfresh⟩ := h.fresh hs
    exact {
      coherent := ⟨fun _ => ⟨Or.inr rfl, hfresh⟩, fun hne => absurd hs hne, h.info, h.window,
        ⟨fun _ => rfl, fun _ => l.pipe.isReleased_release .engine⟩⟩
      config := fun _ => rfl
      info := fun _ => rfl
      lost := fun _ => Or.inr ⟨ho, hidle, hno⟩
      detached := fun _ => rfl
      placed := fun _ hm => by
        rw [Outcome.isMisplaced, hout] at hm
        cases hm }
  · rw [hst] at hc
    exact absurd (Prod.mk.inj hc).1 (by simp)

theorem startIfConfigured_keeps_of_error (h : Coherent l)
    (hs : l.connection.state = .configured ∨ l.connection.state = .handshaking)
    (ho : op.WouldStart l.connection) {e : TlsError}
    (hst : l.startIfConfigured E = (.error e, l₁)) (hout : out.error? = some e) :
    Keeps E op out l l₁ := by
  rcases startIfConfigured_cases E l hs with ⟨-, hc⟩ | ⟨hs, hc⟩
  · rw [hst] at hc
    exact absurd (Prod.mk.inj hc).1 (by simp)
  · exact start_keeps_of_error h hs ho (hc ▸ hst) hout

/-- An engine that cannot be joined to the pipe is lost at its start. -/
theorem start_of_cannotAttach (hidle : l.connection.engine = .idle) (hno : CannotAttach E l) :
    ∃ l₁, l.start E = (.error .engine, l₁) ∧ l₁.connection.engine = .detached := by
  obtain ⟨built, copy, objects, prepared, hb, hc, hp, ha⟩ := hno
  have hst : l.start E = (.error .engine,
      { connection := { l.connection with engine := .detached }
        pipe := l.pipe.release .engine, objects }) := by
    simp only [start, hidle, hb, hc, hp, ha]
  exact ⟨_, hst, rfl⟩

/-- After a start, an operation keeps what the rest of it keeps. -/
theorem Started.keeps (h : Started l l₁) (hr : ∃ s, l'.connection.engine = .running s)
    (hc : Coherent l') (hconfig : l'.connection.config = l₁.connection.config)
    (hinfo : l'.connection.state = .errored → l'.connection.info = l₁.connection.info)
    (hout : out.isMisplaced = false) : Keeps E op out l l' where
  coherent := hc
  config _ := hconfig.trans h.config
  info he := (hinfo he).trans h.info
  lost hd := absurd hd (ne_detached_of_running hr)
  detached hd := absurd hd h.notLost
  placed _ hm := by
    rw [hout] at hm
    cases hm

/-! ### The rest of an operation -/

/-- Completing a handshake that is over keeps a link coherent that is shaking hands, its window for
early data closed. -/
theorem finish_coherent (E : Engine σ) {x : PollResult Unit × Link σ} (hl : Coherent l)
    (hs : l.connection.state = .handshaking) (hw : l.connection.earlyDataWindow = false)
    (hx : Called l (isFatal x.1) x.2) (hm : isMisplaced x.1 = false) :
    Coherent (finish E x).2 ∧ (finish E x).2.connection.config = l.connection.config ∧
      ((finish E x).2.connection.state = .errored →
        (finish E x).2.connection.info = l.connection.info) ∧
      (∃ s, (finish E x).2.connection.engine = .running s) ∧
      isMisplaced (finish E x).1 = false := by
  have hc : Coherent x.2 := hx.coherent hl (by rw [hs]; nofun)
  obtain ⟨result, l₂⟩ := x
  rcases result with e | ⟨⟨⟩⟩ | d | _
  · exact ⟨hc, hx.config, fun _ => hx.info, hx.running, hm⟩
  · obtain ⟨s, hr⟩ := hx.running
    have hstate : l₂.connection.state = .handshaking := hx.state_of_not_fatal.trans hs
    rcases finish_ready_cases E hr with hd | ⟨info, hd⟩ <;> rw [Connection.observe_eq] at hd <;>
      rw [hd]
    -- the chain cannot be read: the handshake goes on, without a record
    · have ho := hc.observe E s
      rw [Connection.observe_eq] at ho
      exact ⟨ho, hx.config, fun he => State.noConfusion (hstate.symm.trans he), ⟨s, hr⟩, rfl⟩
    -- state and record change together, and the window has been closed before
    · refine ⟨.of_running ⟨s, hr⟩ (by nofun) (fun _ => ?_) (fun _ => ?_) ?_, hx.config, by nofun,
        ⟨s, hr⟩, rfl⟩
      · exact Iff.intro (fun _ => rfl) (fun _ => rfl)
      · exact hx.window.trans hw
      · exact hc.isReleased_of_running hr
  · exact ⟨hc, hx.config, fun _ => hx.info, hx.running, hm⟩
  · exact ⟨hc, hx.config, fun _ => hx.info, hx.running, hm⟩

/-- Adding up early data keeps what a call keeps. -/
theorem count_called {x : PollResult Nat × Link σ} (hx : Called l (isFatal x.1) x.2) :
    (count x).1 = x.1 ∧ Called l (isFatal x.1) (count x).2 := by
  obtain ⟨result, l₂⟩ := x
  rcases result with e | n | d | _
  · exact ⟨rfl, hx⟩
  · exact ⟨rfl, hx.running, hx.state, hx.config, hx.info, hx.window, hx.released⟩
  · exact ⟨rfl, hx⟩
  · exact ⟨rfl, hx⟩

/-- Closing goes on from a link that is established, and leaves the record alone. -/
theorem settle_keeps {x : PollResult ShutdownResult × Link σ} (hl : Coherent l)
    (hs : l.connection.state.isEstablished = true) (hx : Called l (isFatal x.1) x.2)
    (hm : isMisplaced x.1 = false) :
    Keeps E .shutdown (.closing (settle x).1) l (settle x).2 := by
  have hc : Coherent x.2 := hx.coherent hl (ne_configured_of_isEstablished hs)
  have hr := hl.running_of_isEstablished hs
  obtain ⟨result, l₂⟩ := x
  rcases result with e | (_ | _) | d | _
  · exact .of_running hr hx.running hc hx.config (fun _ => hx.info) hm
  · have hs₂ : l₂.connection.state.isEstablished = true := hx.state_of_not_fatal ▸ hs
    exact .of_running hr hx.running (hc.withState hs₂ rfl) hx.config (fun _ => hx.info) rfl
  · have hs₂ : l₂.connection.state.isEstablished = true := hx.state_of_not_fatal ▸ hs
    exact .of_running hr hx.running (hc.withState hs₂ rfl) hx.config (fun _ => hx.info) rfl
  · exact .of_running hr hx.running hc hx.config (fun _ => hx.info) hm
  · exact .of_running hr hx.running hc hx.config (fun _ => hx.info) hm

/-! ### The operations -/

section Operations

variable (E) (h : Coherent l)
include h

theorem configure_keeps (config : Config) :
    Keeps E (.configure config) (.configured (l.configure config).1) l (l.configure config).2 := by
  rcases configure_cases l config with ⟨hs, hc⟩ | ⟨e, -, hne, hc⟩
  · rw [hc]
    exact {
      coherent := ⟨h.fresh, h.running, h.info, h.window, h.endpoint⟩
      config := fun hne => absurd hs hne
      info := fun _ => rfl
      lost := Or.inl
      detached := id
      placed := fun _ hm => by cases hm }
  · rw [hc]
    exact .of_same h (Or.inl hne)

theorem advanceHandshake_keeps :
    Keeps E .advanceHandshake (.advanced (l.advanceHandshake E).1) l (l.advanceHandshake E).2 := by
  rcases advanceHandshake_cases E l with ⟨e, -, hc, hh, ha⟩ | ⟨hs, ⟨e, l₁, hst, ha⟩ | ⟨l₁, hst, ha⟩⟩
  · rw [ha]
    exact .of_same h (Or.inl (not_or.mpr ⟨hc, hh⟩))
  · rw [ha]
    exact startIfConfigured_keeps_of_error h hs trivial hst rfl
  · rw [ha]
    have hstart := startIfConfigured_started h hs hst
    have hne : l₁.connection.state ≠ .configured := by
      rw [hstart.state]
      nofun
    obtain ⟨hcall, hm⟩ := drive_called E (l := l₁.closeWindow) hstart.running "advance_handshake"
      E.handshake
    obtain ⟨hc, hconfig, hinfo, hr, hout⟩ :=
      finish_coherent E (hstart.coherent.closeWindow hne) hstart.state rfl hcall hm
    exact hstart.keeps hr hc hconfig hinfo hout

theorem write_keeps (data : Bytes) :
    Keeps E (.write data) (.written (l.write E data).1) l (l.write E data).2 := by
  rcases write_cases E l data with ⟨e, -, hne, hw⟩ | ⟨-, -, hw⟩ | ⟨hs, -, hw⟩
  · rw [hw]
    exact .of_same h (Or.inl hne)
  · rw [hw]
    exact .of_same h (Or.inr rfl)
  · rw [hw]
    have hne : l.connection.state ≠ .configured := by
      rw [hs]
      nofun
    obtain ⟨hcall, hm⟩ := drive_called E (h.running hne) "write" (E.write data)
    exact .of_called h hne hcall hm

theorem writeEarlyData_keeps (data : Bytes) :
    Keeps E (.writeEarlyData data) (.written (l.writeEarlyData E data).1) l
      (l.writeEarlyData E data).2 := by
  rcases writeEarlyData_cases E l data with ⟨e, -, hno, hw⟩ | ⟨-, -, hw⟩ | ⟨hadm, hb, hd, hrest⟩
  · rw [hw]
    exact .of_same h (Or.inl (fun hb => Bool.noConfusion (hno.symm.trans hb)))
  · rw [hw]
    exact .of_same h (Or.inr rfl)
  · have hs := state_of_admitsEarlyData hadm
    rcases hrest with ⟨e, l₁, hst, hw⟩ | ⟨l₁, hst, hw⟩
    · rw [hw]
      exact startIfConfigured_keeps_of_error h hs ⟨hb, hd⟩ hst rfl
    · rw [hw]
      have hstart := startIfConfigured_started h hs hst
      have hne : l₁.connection.state ≠ .configured := by
        rw [hstart.state]
        nofun
      obtain ⟨hcall, hm⟩ := drive_called E hstart.running "write_early_data"
        (E.writeEarlyData (data.take (earlyDataBudget l.connection)))
      obtain ⟨hres, hcount⟩ := count_called hcall
      refine hstart.keeps hcount.running (hcount.coherent hstart.coherent hne) hcount.config
        (fun _ => hcount.info) ?_
      exact (congrArg isMisplaced hres).trans hm

theorem read_keeps (max : Nat) (granted : Bool) :
    Keeps E (.read max granted) (.read (l.read E max granted).1) l (l.read E max granted).2 := by
  rcases read_cases E l max granted with ⟨e, -, hne, hr⟩ | ⟨-, -, hr⟩ | ⟨-, -, hr⟩ | ⟨hs, -, -, hr⟩
  · rw [hr]
    exact .of_same h (Or.inl hne)
  · rw [hr]
    exact .of_same h (Or.inr rfl)
  · rw [hr]
    exact .of_same h (Or.inr rfl)
  · rw [hr]
    have hne := ne_configured_of_isEstablished (isEstablished_of_readStates hs)
    obtain ⟨hcall, hm⟩ := drive_called E (h.running hne) "read" (E.read max)
    exact .of_called h hne hcall hm

theorem readInto_keeps (buffer : Bytes) :
    Keeps E (.readInto buffer) (.filled (l.readInto E buffer).1 (l.readInto E buffer).2.1) l
      (l.readInto E buffer).2.2 := by
  rcases readInto_cases E l buffer with ⟨e, -, hne, hr⟩ | ⟨-, -, hr⟩ | ⟨hs, -, hr⟩
  · rw [hr]
    exact .of_same h (Or.inl hne)
  · rw [hr]
    exact .of_same h (Or.inr rfl)
  · rw [hr]
    have hne := ne_configured_of_isEstablished (isEstablished_of_readStates hs)
    obtain ⟨hcall, hm⟩ := drive_called E (h.running hne) "read" (E.read buffer.length)
    refine .of_called h hne hcall ?_
    rcases hres : (l.drive E "read" (E.read buffer.length)).1 with e | p
    · rw [hres] at hm
      exact hm
    · rfl

theorem shutdown_keeps : Keeps E .shutdown (.closing (l.shutdown E).1) l (l.shutdown E).2 := by
  rcases shutdown_cases E l with ⟨-, hd⟩ | ⟨e, -, hne, hd⟩ | ⟨hs, hd⟩
  · rw [hd]
    exact .of_same h (Or.inr rfl)
  · rw [hd]
    exact .of_same h (Or.inl (fun hb => Bool.noConfusion (hne.symm.trans hb)))
  · rw [hd]
    have he : l.connection.state.isEstablished = true := by
      rcases hs with hs | hs <;> rw [hs] <;> rfl
    obtain ⟨hcall, hm⟩ := drive_called E (h.running_of_isEstablished he) "shutdown" E.shutdown
    exact settle_keeps h he hcall hm

theorem renegotiate_keeps :
    Keeps E .renegotiate (.renegotiated (l.renegotiate E).1) l (l.renegotiate E).2 := by
  rcases renegotiate_cases E l with
    ⟨e, -, hne, hd⟩ | ⟨hs, s, s', hr, -, hd⟩ | ⟨hs, s, s', hr, -, hd⟩
  · rw [hd]
    refine .of_same h (Or.inl (fun hs => ?_))
    obtain ⟨s, hr⟩ := h.running_of_isEstablished (show l.connection.state.isEstablished = true by
      rw [show l.connection.state = .established from hs]
      rfl)
    rcases hne with hne | hne
    · exact hne hs
    · exact hne s hr
  · rw [hd]
    have hne : l.connection.state ≠ .configured := by
      rw [hs]
      nofun
    exact .of_running ⟨s, hr⟩ ⟨s', rfl⟩ (.of_running ⟨s', rfl⟩ hne h.info h.window
      (h.isReleased_of_running hr)) rfl (fun _ => rfl) rfl
  · rw [hd]
    exact .of_running ⟨s, hr⟩ ⟨s', rfl⟩ (.of_running ⟨s', rfl⟩ (by nofun)
      (fun _ => Iff.intro nofun nofun) (by nofun) (h.isReleased_of_running hr)) rfl (by nofun) rfl

theorem ask_keeps (q : Question) :
    Keeps E (.ask q) (.told (q.answer E l.connection l.objects)) l
      { l with objects := l.objectsAfter E q } where
  coherent := ⟨h.fresh, h.running, h.info, h.window, h.endpoint⟩
  config _ := rfl
  info _ := rfl
  lost := Or.inl
  detached := id
  placed _ hm := by
    rcases ha : q.answer E l.connection l.objects with e | found <;> rw [ha] at hm
    · rcases Question.answer_error ha with _ | _ | _ <;> cases hm
    · cases hm

/-- **The engine is lost where it would be started and cannot be joined to the pipe.** -/
theorem perform_detached (ho : op.WouldStart l.connection) (hidle : l.connection.engine = .idle)
    (hno : CannotAttach E l) : (l.perform E op).2.connection.engine = .detached := by
  have hs : l.connection.state = .configured :=
    h.configured_of_not_running (fun s hr => by rw [hidle] at hr; cases hr)
  obtain ⟨l₁, hst, hd⟩ := start_of_cannotAttach hidle hno
  rw [← startIfConfigured_of_configured E hs] at hst
  cases op with
  | advanceHandshake =>
    show (l.advanceHandshake E).2.connection.engine = .detached
    rcases advanceHandshake_cases E l with ⟨e, -, hne, -⟩ | ⟨-, ⟨e, l₂, hst', ha⟩ | ⟨l₂, hst', -⟩⟩
    · exact absurd hs hne
    · rw [ha]
      obtain rfl := (Prod.mk.inj (hst.symm.trans hst')).2
      exact hd
    · exact absurd (Prod.mk.inj (hst.symm.trans hst')).1 (by simp)
  | writeEarlyData data =>
    obtain ⟨hb, hne⟩ := ho
    show (l.writeEarlyData E data).2.connection.engine = .detached
    rcases writeEarlyData_cases E l data with
      ⟨e, -, hno, -⟩ | ⟨-, hnone, -⟩ | ⟨-, -, -, ⟨e, l₂, hst', hw⟩ | ⟨l₂, hst', -⟩⟩
    · simp [admitsEarlyData, hs] at hno
    · exact absurd hnone (not_or.mpr ⟨hb, hne⟩)
    · rw [hw]
      obtain rfl := (Prod.mk.inj (hst.symm.trans hst')).2
      exact hd
    · exact absurd (Prod.mk.inj (hst.symm.trans hst')).1 (by simp)
  | _ => exact ho.elim

/-- **Every operation keeps a link coherent**, and the rest that it should keep. -/
theorem perform_keeps (op : Operation) : Keeps E op (l.perform E op).1 l (l.perform E op).2 := by
  cases op with
  | configure config => exact configure_keeps E h config
  | advanceHandshake => exact advanceHandshake_keeps E h
  | write data => exact write_keeps E h data
  | writeEarlyData data => exact writeEarlyData_keeps E h data
  | read max granted => exact read_keeps E h max granted
  | readInto buffer => exact readInto_keeps E h buffer
  | shutdown => exact shutdown_keeps E h
  | renegotiate => exact renegotiate_keeps E h
  | ask q => exact ask_keeps E h q

end Operations

end Link

end SocketlessTls
