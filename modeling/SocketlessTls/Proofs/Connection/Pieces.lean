import SocketlessTls.Proofs.Connection.Run

/-!
# What an operation is made of

Every operation of a connection is put together from a few pieces: a guard that looks at the state,
perhaps the start of the engine, an engine call that is classified, and perhaps the snapshot that
completes a handshake. Each piece has few ways to go, and this file lists them, so that what is
proved of an operation is proved from the lists.

| piece | ways to go | theorem |
|---|---|---|
| guard | let pass, ended, or not in this state | `SocketlessTls.Connection.require_cases` |
| start | refused, engine lost, or started | `SocketlessTls.Link.start_cases` |
| call | one, for any outcome of the engine | `SocketlessTls.Link.drive_of_running` |
| snapshot | unreadable, or completed | `SocketlessTls.Link.completeHandshake_cases` |

The one about calls is an equation. It says which fields of a connection a call can reach:
`SocketlessTls.Connection.afterCall` gives the engine its next state, remembers a cipher while the
handshake is under way, and enters the state of error exactly if the result is fatal.
-/

namespace SocketlessTls

/-! ### Fatal results -/

namespace Link

/-- Whether a result ends the connection. -/
def isFatal {α : Type} (result : Except TlsError α) : Bool := (error? result).any TlsError.isFatal

/-- Whether an operation has ended the connection. -/
def Outcome.isFatal (o : Outcome) : Bool := o.error?.any TlsError.isFatal

@[simp] theorem isFatal_ok {α : Type} (a : α) : isFatal (.ok a : Except TlsError α) = false := rfl

@[simp] theorem isFatal_error {α : Type} (e : TlsError) :
    isFatal (.error e : Except TlsError α) = e.isFatal := rfl

end Link

/-! ### Guards -/

namespace Connection

variable {σ : Type} (c : Connection σ)

theorem ensureLive_of_live (h : c.state.isTerminal = false) : c.ensureLive = .ok () := by
  simp [ensureLive, h]

theorem ensureLive_of_terminal (h : c.state.isTerminal = true) :
    c.ensureLive = .error (.alreadyTerminated c.state) := by
  simp [ensureLive, h]

/-- **A guard lets an operation pass in the states it names and refuses it in all others**, with
one error where the connection has ended and another where the operation does not belong. -/
theorem require_cases (operation : String) (allowed : List State) :
    (c.require operation allowed = .ok () ∧ c.state.isTerminal = false ∧ c.state ∈ allowed) ∨
    (c.require operation allowed = .error (.alreadyTerminated c.state) ∧
      c.state.isTerminal = true) ∨
    (c.require operation allowed = .error (.invalidState operation c.state) ∧
      c.state ∉ allowed) := by
  rcases hl : c.state.isTerminal with _ | _
  · by_cases ha : c.state ∈ allowed
    · exact Or.inl ⟨by simp [require, c.ensureLive_of_live hl, bind, Except.bind, ha], rfl, ha⟩
    · refine Or.inr (Or.inr ⟨?_, ha⟩)
      simp [require, c.ensureLive_of_live hl, bind, Except.bind, ha, invalidState]
  · exact Or.inr (Or.inl ⟨by simp [require, c.ensureLive_of_terminal hl, bind, Except.bind], rfl⟩)

/-- The configuration may be changed before the handshake starts, and only then. -/
theorem configMut_cases :
    (c.configMut = .ok c.config ∧ c.state = .configured) ∨
    (∃ e, c.configMut = .error e ∧ e.isFatal = false ∧ c.state ≠ .configured) := by
  rcases hl : c.state.isTerminal with _ | _
  · by_cases hs : c.state = .configured
    · exact Or.inl ⟨by simp [configMut, c.ensureLive_of_live hl, bind, Except.bind, hs], hs⟩
    · refine Or.inr ⟨.invalidState "config_mut" c.state, ?_, rfl, hs⟩
      simp [configMut, c.ensureLive_of_live hl, bind, Except.bind, hs, invalidState]
  · refine Or.inr ⟨.alreadyTerminated c.state, ?_, rfl, fun hs => ?_⟩
    · simp [configMut, c.ensureLive_of_terminal hl, bind, Except.bind]
    · rw [hs] at hl
      exact Bool.noConfusion hl

/-! ### Remembering a cipher -/

/-- A look at the engine's cipher changes what is remembered and nothing else. -/
theorem observe_eq (E : Engine σ) (s : σ) :
    c.observe E s = { c with captured := (c.observe E s).captured } := by
  unfold observe
  split <;> rfl

/-! ### Engine calls -/

/-- A connection after an engine call that left the engine in the state `s` and had this result. -/
def afterCall {α : Type} (E : Engine σ) (s : σ) (result : PollResult α) : Connection σ :=
  { c with
    state := if Link.isFatal result then .errored else c.state
    engine := .running s
    captured := if c.state = .handshaking then (c.observe E s).captured else c.captured }

end Connection

namespace Link

variable {σ α : Type} (E : Engine σ)

/-- The result of an engine call that had this raw outcome and left this behind. -/
def resultOf (raw : RawOutcome α) (s : σ) (w : Call.World) : PollResult α :=
  nameIssuers E s (classify raw (transportStatus w.pipe))

/-- **An engine call.** Its result is what its raw outcome means, and what becomes of the
connection depends on the result and on the engine alone. -/
theorem drive_of_running {l : Link σ} {s : σ} (h : l.connection.engine = .running s)
    (operation : String) (call : σ → Call (RawOutcome α × σ)) :
    ∃ raw s' w, (call s).run .engine ⟨l.pipe, l.objects⟩ = ((raw, s'), w) ∧
      l.drive E operation call = (resultOf E raw s' w,
        { connection := l.connection.afterCall E s' (resultOf E raw s' w)
          pipe := w.pipe, objects := w.objects }) := by
  rcases hcall : (call s).run .engine ⟨l.pipe, l.objects⟩ with ⟨⟨raw, s'⟩, w⟩
  refine ⟨raw, s', w, rfl, ?_⟩
  -- the look at the cipher comes before the result, and the capture mode decides on it
  have hobs : (if (l.withEngine s' w).connection.state = .handshaking then
      { l.withEngine s' w with connection := (l.withEngine s' w).connection.observe E s' }
      else l.withEngine s' w) =
      { connection := { l.connection with
          engine := .running s'
          captured := if l.connection.state = .handshaking
            then (l.connection.observe E s').captured else l.connection.captured }
        pipe := w.pipe, objects := w.objects } := by
    by_cases hs : l.connection.state = .handshaking
    · rcases hm : l.connection.captureMode with _ | _ <;>
        simp [withEngine, Connection.observe, hs, hm]
    · simp [withEngine, hs]
  simp only [drive, h, hcall, hobs]
  -- of the results only a fatal error reaches the state
  rcases hres : resultOf E raw s' w with e | p
  · cases e <;> simp only [resultOf] at hres <;>
      simp [hres, withState, Connection.afterCall, TlsError.isFatal]
  · simp only [resultOf] at hres
    simp [hres, Connection.afterCall]

/-- Without an engine a call is refused. -/
theorem drive_of_not_running {l : Link σ} (h : ∀ s, l.connection.engine ≠ .running s)
    (operation : String) (call : σ → Call (RawOutcome α × σ)) :
    l.drive E operation call = (.error (.invalidState operation l.connection.state), l) := by
  unfold drive
  split
  · rename_i s hs
    exact absurd hs (h s)
  · rfl

/-- **A call enters the state of error exactly if its result is fatal**, and else stays where it
was. -/
theorem drive_state (l : Link σ) (operation : String) (call : σ → Call (RawOutcome α × σ)) :
    (l.drive E operation call).2.connection.state =
      if isFatal (l.drive E operation call).1 then .errored else l.connection.state := by
  by_cases h : ∃ s, l.connection.engine = .running s
  · obtain ⟨s, hs⟩ := h
    obtain ⟨raw, s', w, -, hd⟩ := drive_of_running E hs operation call
    rw [hd]
    rfl
  · rw [drive_of_not_running E (fun s hs => h ⟨s, hs⟩)]
    rfl

/-! ### Starting -/

/-- The engine can be built and prepared for the connection, but not joined to the pipe. -/
def CannotAttach (l : Link σ) : Prop :=
  ∃ built copy objects prepared, E.build? l.connection.config = some built ∧
    copySession? l.connection.config.session l.objects = some (copy, objects) ∧
    E.prepare? l.connection.config copy built = some prepared ∧ E.attach? prepared = none

/-- **Starting is refused, loses the engine, or succeeds.** A refusal changes nothing. -/
theorem start_cases (l : Link σ) :
    (∃ e, e.isFatal = false ∧
      (e = .engine ∨ (e = .invalidState "start" l.connection.state ∧ l.connection.engine ≠ .idle)) ∧
      l.start E = (.error e, l)) ∨
    (l.connection.engine = .idle ∧ CannotAttach E l ∧ ∃ objects, l.start E = (.error .engine,
      { connection := { l.connection with engine := .detached }
        pipe := l.pipe.release .engine, objects })) ∨
    (l.connection.engine = .idle ∧ ∃ s objects, l.start E = (.ok (), { l with
      connection := { l.connection with engine := .running s, state := .handshaking }
      objects })) := by
  rcases he : l.connection.engine with _ | s | _
  · rcases hb : E.build? l.connection.config with _ | built
    · exact Or.inl ⟨.engine, rfl, Or.inl rfl, by simp [start, he, hb]⟩
    rcases hc : copySession? l.connection.config.session l.objects with _ | ⟨copy, objects⟩
    · exact Or.inl ⟨.engine, rfl, Or.inl rfl, by simp [start, he, hb, hc]⟩
    rcases hp : E.prepare? l.connection.config copy built with _ | prepared
    · exact Or.inl ⟨.engine, rfl, Or.inl rfl, by simp [start, he, hb, hc, hp]⟩
    rcases ha : E.attach? prepared with _ | s
    · exact Or.inr (Or.inl ⟨rfl, ⟨built, copy, objects, prepared, hb, hc, hp, ha⟩, objects,
        by simp [start, he, hb, hc, hp, ha]⟩)
    · exact Or.inr (Or.inr ⟨rfl, s, objects, by simp [start, he, hb, hc, hp, ha]⟩)
  · exact Or.inl ⟨_, rfl, Or.inr ⟨rfl, by simp⟩, by simp [start, he, Connection.invalidState]⟩
  · exact Or.inl ⟨_, rfl, Or.inr ⟨rfl, by simp⟩, by simp [start, he, Connection.invalidState]⟩

theorem startIfConfigured_of_configured {l : Link σ} (h : l.connection.state = .configured) :
    l.startIfConfigured E = l.start E := by
  simp [startIfConfigured, h]

theorem startIfConfigured_of_handshaking {l : Link σ} (h : l.connection.state = .handshaking) :
    l.startIfConfigured E = (.ok (), l) := by
  simp [startIfConfigured, h]

/-! ### Completing a handshake -/

/-- **A handshake completes unless the peer's chain cannot be read**; then nothing is recorded but
the cipher. -/
theorem completeHandshake_cases {l : Link σ} {s : σ} (h : l.connection.engine = .running s) :
    (l.completeHandshake E = (.error .engine, { l with
      connection := l.connection.observe E s })) ∨
    (∃ chain, l.completeHandshake E = (.ok (), { l with
      connection := { l.connection.observe E s with
        info := some ⟨E.version s,
          (l.connection.observe E s).captured.or (E.currentCipher s), chain⟩
        state := .established } })) := by
  rcases hc : E.peerChain s with _ | encodings
  · exact Or.inr ⟨none, by simp [completeHandshake, h, hc]⟩
  rcases hr : PeerChain.snapshot? encodings with _ | chain
  · exact Or.inl (by simp [completeHandshake, h, hc, hr])
  · exact Or.inr ⟨some chain, by simp [completeHandshake, h, hc, hr]⟩

end Link

end SocketlessTls
