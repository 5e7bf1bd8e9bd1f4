import SocketlessTls.Proofs.Connection.Operations
import SocketlessTls.Proofs.Connection.Questions

/-!
# What the fields of a connection say about each other

A connection has a state, an engine, a record of what was negotiated and an account of early data,
and an operation changes them one after another and may stop in between. Still they never
contradict each other: `SocketlessTls.Link.Coherent` says how they hang together. This file shows
that a coherent link is coherent again after every operation, for every engine, along with what else
an operation keeps (`SocketlessTls.Link.Keeps`):

* the configuration, once the handshake has started;
* the record, when the connection fails;
* the engine, unless it is lost at its start;
* its word, that an operation is refused as misplaced only where it does not belong.

The last means that the engine and the record are there whenever an operation looks for them.
-/

namespace SocketlessTls

/-! ### Calls and the ends of the pipe -/

namespace Call

variable {α : Type}

/-- **No call gives up an end**, by induction on what the call does. -/
theorem isReleased_run (side t : Side) (c : Call α) (w : World) :
    (c.run side w).2.pipe.isReleased t = w.pipe.isReleased t := by
  induction c generalizing w with
  | done a => rfl
  | read max next ih =>
    rw [run, ih]
    exact Pipe.isReleased_ioRead _ _ _ _
  | write data next ih =>
    rw [run, ih]
    exact Pipe.isReleased_ioWrite _ _ _ _
  | makeObject next ih =>
    rw [run, ih]
  | retireObject id next ih =>
    rw [run, ih]

end Call

/-! ### Misplaced operations -/

/-- Whether an error says that an operation does not belong where the connection is. -/
def TlsError.isMisplaced : TlsError → Bool
  | .invalidState _ _ => true
  | _ => false

namespace Link

variable {σ : Type}

/-- Whether a result is a refusal as misplaced. -/
def isMisplaced {α : Type} (result : Except TlsError α) : Bool :=
  (error? result).any TlsError.isMisplaced

/-- Whether an operation has been refused as misplaced. -/
def Outcome.isMisplaced (o : Outcome) : Bool := o.error?.any TlsError.isMisplaced

/-- Where an operation belongs. -/
def Operation.Belongs (c : Connection σ) : Operation → Prop
  | .configure _ => c.state = .configured
  | .advanceHandshake => c.state = .configured ∨ c.state = .handshaking
  | .write _ => c.state = .established
  | .writeEarlyData _ => admitsEarlyData c = true
  | .read _ _ => c.state ∈ readStates
  | .readInto _ => c.state ∈ readStates
  | .shutdown => c.state.isEstablished = true
  | .renegotiate => c.state = .established
  | .ask _ => True

/-- Where an operation would start the engine if it has not been started: early data does so only if
there is some, and a budget for it. -/
def Operation.WouldStart (c : Connection σ) : Operation → Prop
  | .advanceHandshake => True
  | .writeEarlyData data => earlyDataBudget c ≠ 0 ∧ data ≠ []
  | _ => False

theorem isMisplaced_nameIssuers {α : Type} (E : Engine σ) (s : σ) (result : PollResult α) :
    isMisplaced (nameIssuers E s result) = isMisplaced result := by
  rcases result with e | p
  · cases e <;> rfl
  · rfl

theorem isMisplaced_classify {α : Type} (raw : RawOutcome α) (t : TransportStatus) :
    isMisplaced (classify raw t) = false := by
  rcases raw with a | f
  · rfl
  · rcases hk : f.ioKind with _ | kind <;> simp only [classify, hk] <;> split_ifs <;> rfl

/-- The result of a call is never a refusal as misplaced. -/
theorem isMisplaced_resultOf {α : Type} (E : Engine σ) (raw : RawOutcome α) (s : σ)
    (w : Call.World) : isMisplaced (resultOf E raw s w) = false := by
  rw [resultOf, isMisplaced_nameIssuers, isMisplaced_classify]

/-! ### Where a connection is not -/

theorem ne_configured_of_isEstablished {s : State} (h : s.isEstablished = true) :
    s ≠ .configured := by
  rintro rfl
  cases h

theorem ne_errored_of_isEstablished {s : State} (h : s.isEstablished = true) : s ≠ .errored := by
  rintro rfl
  cases h

/-- An engine that runs is not lost. -/
theorem ne_detached_of_running {c : Connection σ} (h : ∃ s, c.engine = .running s) :
    c.engine ≠ .detached := by
  obtain ⟨s, h⟩ := h
  rw [h]
  nofun

/-! ### Coherence -/

/-- **How the fields of a link hang together.** -/
structure Coherent (l : Link σ) : Prop where
  /-- Before the start the engine is idle, or lost, and nothing else has happened. -/
  fresh : l.connection.state = .configured →
    (l.connection.engine = .idle ∨ l.connection.engine = .detached) ∧
      l.connection.info = none ∧ l.connection.earlyDataSent = 0 ∧
      l.connection.earlyDataWindow = true
  /-- After it the engine runs. -/
  running : l.connection.state ≠ .configured → ∃ s, l.connection.engine = .running s
  /-- What was negotiated is recorded as long as the connection is established. A connection that
  has failed may have been so or not. -/
  info : l.connection.state ≠ .errored →
    (l.connection.info.isSome = true ↔ l.connection.state.isEstablished = true)
  /-- The time for early data is then over. -/
  window : l.connection.state.isEstablished = true → l.connection.earlyDataWindow = false
  /-- The end of the pipe is there unless the engine has been lost with it. -/
  endpoint : l.pipe.isReleased .engine = true ↔ l.connection.engine = .detached

namespace Coherent

variable {l l' : Link σ}

theorem of_fresh (config : Config) (pipe : Pipe) (objects : SessionObjects)
    (h : pipe.isReleased .engine = false) :
    Coherent (Link.fresh config pipe objects : Link σ) where
  fresh _ := ⟨Or.inl rfl, rfl, rfl, rfl⟩
  running hs := absurd rfl hs
  info _ := Iff.intro (fun h => Bool.noConfusion h) (fun h => Bool.noConfusion h)
  window hs := Bool.noConfusion hs
  endpoint := by
    constructor
    · intro hr
      exact Bool.noConfusion (h.symm.trans hr)
    · intro he
      cases he

/-- A link whose engine runs is coherent if its record and its window for early data agree with its
state. -/
theorem of_running (hr : ∃ s, l.connection.engine = .running s)
    (hs : l.connection.state ≠ .configured)
    (hi : l.connection.state ≠ .errored →
      (l.connection.info.isSome = true ↔ l.connection.state.isEstablished = true))
    (hw : l.connection.state.isEstablished = true → l.connection.earlyDataWindow = false)
    (hp : l.pipe.isReleased .engine = false) : Coherent l where
  fresh hc := absurd hc hs
  running _ := hr
  info := hi
  window := hw
  endpoint := by
    rw [hp]
    exact iff_of_false Bool.false_ne_true (ne_detached_of_running hr)

/-- An engine that is not lost has its end of the pipe. -/
theorem isReleased_of_ne_detached (h : Coherent l) (he : l.connection.engine ≠ .detached) :
    l.pipe.isReleased .engine = false := by
  rcases hp : l.pipe.isReleased .engine with _ | _
  · rfl
  · exact absurd (h.endpoint.mp hp) he

theorem isReleased_of_running (h : Coherent l) {s : σ} (hr : l.connection.engine = .running s) :
    l.pipe.isReleased .engine = false :=
  h.isReleased_of_ne_detached (ne_detached_of_running ⟨s, hr⟩)

/-- An engine that has not been started, or is lost, is that of a connection before the start. -/
theorem configured_of_not_running (h : Coherent l)
    (hr : ∀ s, l.connection.engine ≠ .running s) : l.connection.state = .configured := by
  by_contra hs
  obtain ⟨s, he⟩ := h.running hs
  exact hr s he

/-- A live connection has an engine that runs. -/
theorem running_of_isEstablished (h : Coherent l)
    (hs : l.connection.state.isEstablished = true) : ∃ s, l.connection.engine = .running s :=
  h.running (ne_configured_of_isEstablished hs)

/-- An established connection has a record. -/
theorem info_of_isEstablished (h : Coherent l)
    (hs : l.connection.state.isEstablished = true) : ∃ n, l.connection.info = some n :=
  Option.isSome_iff_exists.mp ((h.info (ne_errored_of_isEstablished hs)).mpr hs)

/-- Nothing in a link but its pipe and connection matters, and of the pipe only the engine's end. -/
theorem of_connection_eq (h : Coherent l) (hc : l'.connection = l.connection)
    (hp : l'.pipe.isReleased .engine = l.pipe.isReleased .engine) : Coherent l' where
  fresh := by rw [hc]; exact h.fresh
  running := by rw [hc]; exact h.running
  info := by rw [hc]; exact h.info
  window := by rw [hc]; exact h.window
  endpoint := by rw [hc, hp]; exact h.endpoint

/-- Closing goes on among the states in which a connection is established. -/
theorem withState (h : Coherent l) (hs : l.connection.state.isEstablished = true) {s : State}
    (hs' : s.isEstablished = true) : Coherent (l.withState s) := by
  refine of_running (h.running_of_isEstablished hs) (ne_configured_of_isEstablished hs')
    (fun _ => ?_) (fun _ => h.window hs) ?_
  · obtain ⟨n, hn⟩ := h.info_of_isEstablished hs
    show l.connection.info.isSome = true ↔ s.isEstablished = true
    rw [hn, hs']
    exact Iff.rfl
  · obtain ⟨e, he⟩ := h.running_of_isEstablished hs
    exact h.isReleased_of_running he

/-- Another cipher may be remembered. -/
theorem observe (h : Coherent l) (E : Engine σ) (s : σ) :
    Coherent { l with connection := l.connection.observe E s } := by
  rw [Connection.observe_eq]
  exact ⟨h.fresh, h.running, h.info, h.window, h.endpoint⟩

/-- The window for early data may be closed once the handshake is under way. -/
theorem closeWindow (h : Coherent l) (hs : l.connection.state ≠ .configured) :
    Coherent l.closeWindow :=
  ⟨fun hc => absurd hc hs, h.running, h.info, fun _ => rfl, h.endpoint⟩

end Coherent

/-! ### What an engine call keeps -/

/-- **What is the same after an engine call**, fatal or not. -/
structure Called (l : Link σ) (fatal : Bool) (l' : Link σ) : Prop where
  running : ∃ s, l'.connection.engine = .running s
  state : l'.connection.state = if fatal then .errored else l.connection.state
  config : l'.connection.config = l.connection.config
  info : l'.connection.info = l.connection.info
  window : l'.connection.earlyDataWindow = l.connection.earlyDataWindow
  released : l'.pipe.isReleased .engine = l.pipe.isReleased .engine

/-- An engine that runs is called, and is never found missing. -/
theorem drive_called {α : Type} (E : Engine σ) {l : Link σ}
    (h : ∃ s, l.connection.engine = .running s) (operation : String)
    (call : σ → Call (RawOutcome α × σ)) :
    Called l (isFatal (l.drive E operation call).1) (l.drive E operation call).2 ∧
      isMisplaced (l.drive E operation call).1 = false := by
  obtain ⟨s, hs⟩ := h
  obtain ⟨raw, s', w, hrun, hd⟩ := drive_of_running E hs operation call
  have hw : w.pipe.isReleased .engine = l.pipe.isReleased .engine := by
    rw [← Call.isReleased_run .engine .engine (call s) ⟨l.pipe, l.objects⟩, hrun]
  rw [hd]
  exact ⟨⟨⟨s', rfl⟩, rfl, rfl, rfl, rfl, hw⟩, isMisplaced_resultOf E raw s' w⟩

/-- **A call keeps a link coherent.** -/
theorem Called.coherent {l l' : Link σ} {fatal : Bool} (h : Called l fatal l') (hl : Coherent l)
    (hs : l.connection.state ≠ .configured) : Coherent l' := by
  obtain ⟨s, hr⟩ := hl.running hs
  have hstate := h.state
  cases fatal with
  | true =>
    refine .of_running h.running ?_ (fun hne => absurd hstate hne) (fun he => ?_) ?_
    · rw [hstate]
      intro hc
      cases hc
    · rw [hstate] at he
      cases he
    · rw [h.released, hl.isReleased_of_running hr]
  | false =>
    replace hstate : l'.connection.state = l.connection.state := hstate
    refine .of_running h.running ?_ ?_ ?_ ?_
    · rwa [hstate]
    · rw [hstate, h.info]
      exact hl.info
    · rw [hstate, h.window]
      exact hl.window
    · rw [h.released, hl.isReleased_of_running hr]

/-- A call that does not fail leaves the state as it was. -/
theorem Called.state_of_not_fatal {l l' : Link σ} (h : Called l false l') :
    l'.connection.state = l.connection.state := h.state

/-! ### What an operation keeps -/

/-- **What an operation keeps**, beside coherence. -/
structure Keeps (E : Engine σ) (op : Operation) (out : Outcome) (l l' : Link σ) : Prop where
  coherent : Coherent l'
  /-- The configuration is fixed once the handshake has started. -/
  config : l.connection.state ≠ .configured → l'.connection.config = l.connection.config
  /-- A failure leaves the record as it was. -/
  info : l'.connection.state = .errored → l'.connection.info = l.connection.info
  /-- The engine is lost only where it would be started and cannot be joined to the pipe. -/
  lost : l'.connection.engine = .detached → l.connection.engine = .detached ∨
    (op.WouldStart l.connection ∧ l.connection.engine = .idle ∧ CannotAttach E l)
  /-- An engine that is lost stays lost. -/
  detached : l.connection.engine = .detached → l'.connection.engine = .detached
  /-- Where it belongs, an operation is refused only because the engine has been lost. -/
  placed : op.Belongs l.connection → out.isMisplaced = true →
    l.connection.engine = .detached ∧ out.error? = some (.invalidState "start" .configured)

namespace Keeps

variable {E : Engine σ} {op : Operation} {out : Outcome} {l l₁ l' : Link σ}

/-- An operation that changes nothing. -/
theorem of_same (h : Coherent l) (hout : ¬op.Belongs l.connection ∨ out.isMisplaced = false) :
    Keeps E op out l l where
  coherent := h
  config _ := rfl
  info _ := rfl
  lost := Or.inl
  detached := id
  placed hb hm := by
    rcases hout with hout | hout
    · exact absurd hb hout
    · rw [hout] at hm
      cases hm

/-- An operation over an engine that runs. -/
theorem of_running (hr : ∃ s, l.connection.engine = .running s)
    (hr' : ∃ s, l'.connection.engine = .running s) (hc : Coherent l')
    (hconfig : l'.connection.config = l.connection.config)
    (hinfo : l'.connection.state = .errored → l'.connection.info = l.connection.info)
    (hout : out.isMisplaced = false) : Keeps E op out l l' where
  coherent := hc
  config _ := hconfig
  info := hinfo
  lost hd := absurd hd (ne_detached_of_running hr')
  detached hd := absurd hd (ne_detached_of_running hr)
  placed _ hm := by
    rw [hout] at hm
    cases hm

/-- An operation that is an engine call. -/
theorem of_called {fatal : Bool} (h : Coherent l) (hs : l.connection.state ≠ .configured)
    (hcall : Called l fatal l') (hout : out.isMisplaced = false) : Keeps E op out l l' :=
  of_running (h.running hs) hcall.running (hcall.coherent h hs) hcall.config
    (fun _ => hcall.info) hout

end Keeps

end Link

end SocketlessTls
