import SocketlessTls.Proofs.Connection.Operations
import SocketlessTls.Proofs.Connection.Questions

/-!
# The states a connection goes through

The life of a connection is drawn as a graph of states, and each of its edges has a cause: an
operation and what it came to. `SocketlessTls.Link.Edge` is that graph. The file shows that a
connection moves along the edges and in no other way, for every engine, every operation and every
run, and that a cause never fails to move it.

| from | to | cause |
|---|---|---|
| configured | handshaking | the handshake is advanced or early data written, if the engine starts |
| handshaking | established | the handshake is advanced, and is over |
| established | handshaking | a new handshake is accepted by the engine |
| established, shutting down | shutting down | shutting down has sent our closing alert |
| established, shutting down | closed | shutting down has received the peer's |
| handshaking, established, shutting down | errored | any operation ends in a fatal error |

One operation may start the engine and then go along one more edge. That is the only composition,
so an operation *enters* the graph at one state (`SocketlessTls.Link.Enters`) and goes along at most
one edge from there (`SocketlessTls.Link.Lawful`).

A handshake that the engine has completed but whose chain cannot be read is no exception: the
operation ends in an error that is not fatal, and the connection goes on shaking hands.
-/

namespace SocketlessTls

namespace Link

variable {σ : Type}

/-! ### The graph -/

/-- The operations that may start the engine. -/
def Operation.Starts (op : Operation) : Prop :=
  op = .advanceHandshake ∨ ∃ data, op = .writeEarlyData data

/-- The states in which the engine can be called. -/
def isLive (s : State) : Prop := s = .handshaking ∨ s = .established ∨ s = .shuttingDown

/-- **The edges of the graph of states**, each with the operation and the outcome that cause it. -/
inductive Edge : Operation → Outcome → State → State → Prop
  | start {op : Operation} {out : Outcome} (h : op.Starts) : Edge op out .configured .handshaking
  | complete : Edge .advanceHandshake (.advanced (.ok (.ready ()))) .handshaking .established
  | renegotiate : Edge .renegotiate (.renegotiated (.ok ())) .established .handshaking
  | shutDown {s : State} (h : s = .established ∨ s = .shuttingDown) :
      Edge .shutdown (.closing (.ok (.ready .sent))) s .shuttingDown
  | close {s : State} (h : s = .established ∨ s = .shuttingDown) :
      Edge .shutdown (.closing (.ok (.ready .complete))) s .closed
  | fail {op : Operation} {out : Outcome} {s : State} (h : isLive s) (hf : out.isFatal = true) :
      Edge op out s .errored

/-- No edge leads back to the first state. -/
theorem Edge.ne_configured {op : Operation} {out : Outcome} {s s' : State} (h : Edge op out s s') :
    s' ≠ .configured := by
  cases h <;> nofun

/-- **What an operation may do to the state of a connection**, given what it comes to. The first two
fields say that it goes along edges, so that every change has its cause; the others that every cause
brings its change. -/
structure Lawful (l : Link σ) (op : Operation) (out : Outcome) (l' : Link σ) : Prop where
  /-- The state stays, goes along an edge, or goes along the start and one more edge. -/
  edge : l'.connection.state = l.connection.state ∨
    Edge op out l.connection.state l'.connection.state ∨
    (l.connection.state = .configured ∧ op.Starts ∧ Edge op out .handshaking l'.connection.state)
  /-- Nothing but the start of the engine leads away from the first state. -/
  started : l.connection.state = .configured → l'.connection.state ≠ .configured →
    op.Starts ∧ l.connection.engine = .idle ∧ ∃ s, l'.connection.engine = .running s
  ready : out = .advanced (.ok (.ready ())) →
    (l.connection.state = .configured ∨ l.connection.state = .handshaking) ∧
      l'.connection.state = .established
  renegotiated : out = .renegotiated (.ok ()) →
    l.connection.state = .established ∧ l'.connection.state = .handshaking
  sent : out = .closing (.ok (.ready .sent)) →
    (l.connection.state = .established ∨ l.connection.state = .shuttingDown) ∧
      l'.connection.state = .shuttingDown
  complete : out = .closing (.ok (.ready .complete)) →
    (l.connection.state = .established ∨ l.connection.state = .shuttingDown ∨
      l.connection.state = .closed) ∧ l'.connection.state = .closed
  fatal : out.isFatal = true →
    l.connection.state.isTerminal = false ∧ l'.connection.state = .errored
  /-- Nothing leads away from the last states. -/
  final : l.connection.state.isTerminal = true → l'.connection.state = l.connection.state

/-! ### Outcomes that mark no edge -/

/-- Whether an outcome is the cause of an edge of its own, failure apart. -/
def Outcome.marksEdge : Outcome → Bool
  | advanced (.ok (.ready ())) => true
  | renegotiated (.ok ()) => true
  | closing (.ok (.ready _)) => true
  | _ => false

/-- An operation that stays in its state and comes to nothing in particular. -/
theorem Lawful.of_stay {l l' : Link σ} {op : Operation} {out : Outcome}
    (hs : l'.connection.state = l.connection.state) (hm : out.marksEdge = false)
    (hf : out.isFatal = false) : Lawful l op out l' where
  edge := Or.inl hs
  started hc hne := absurd (hs.trans hc) hne
  ready h := by rw [h] at hm; exact Bool.noConfusion hm
  renegotiated h := by rw [h] at hm; exact Bool.noConfusion hm
  sent h := by rw [h] at hm; exact Bool.noConfusion hm
  complete h := by rw [h] at hm; exact Bool.noConfusion hm
  fatal h := by rw [h] at hf; exact Bool.noConfusion hf
  final _ := hs

/-- **An operation enters the graph** at the state in which it calls the engine: the present one, or
the handshake that it has just started. -/
inductive Enters (l : Link σ) (op : Operation) (l' : Link σ) : State → Prop
  | here (h : isLive l.connection.state) : Enters l op l' l.connection.state
  | start (h : l.connection.state = .configured) (ho : op.Starts)
      (he : l.connection.engine = .idle) (hr : ∃ s, l'.connection.engine = .running s) :
      Enters l op l' .handshaking

namespace Enters

variable {l l' : Link σ} {op : Operation} {out : Outcome} {s : State}

theorem isLive (h : Enters l op l' s) : isLive s := by
  cases h with
  | here h => exact h
  | start _ _ _ _ => exact Or.inl rfl

theorem not_terminal (h : Enters l op l' s) : l.connection.state.isTerminal = false := by
  cases h with
  | here h => rcases h with h | h | h <;> rw [h] <;> rfl
  | start h _ _ _ => rw [h]; rfl

theorem started (h : Enters l op l' s) (hc : l.connection.state = .configured) :
    op.Starts ∧ l.connection.engine = .idle ∧ ∃ s, l'.connection.engine = .running s := by
  cases h with
  | here h => rcases h with h | h | h <;> rw [hc] at h <;> exact State.noConfusion h
  | start _ ho he hr => exact ⟨ho, he, hr⟩

/-- From where an operation enters, it goes along the edges that lead away from there. -/
theorem edge (h : Enters l op l' s)
    (he : l'.connection.state = s ∨ Edge op out s l'.connection.state) :
    l'.connection.state = l.connection.state ∨
      Edge op out l.connection.state l'.connection.state ∨
      (l.connection.state = .configured ∧ op.Starts ∧
        Edge op out .handshaking l'.connection.state) := by
  cases h with
  | here _ => exact he.imp_right Or.inl
  | start hc ho _ _ =>
    rcases he with he | he
    · rw [he, hc]
      exact Or.inr (Or.inl (.start ho))
    · exact Or.inr (Or.inr ⟨hc, ho, he⟩)

/-- An engine call whose outcome marks no edge: only failure leads away. -/
theorem lawful_of_call (h : Enters l op l' s) (hm : out.marksEdge = false)
    (hs : l'.connection.state = if out.isFatal then .errored else s) : Lawful l op out l' where
  edge := h.edge (by
    rcases hf : out.isFatal with _ | _
    · exact Or.inl (by rw [hs, hf]; rfl)
    · exact Or.inr (by rw [hs, hf]; exact .fail h.isLive hf))
  started hc _ := h.started hc
  ready he := by rw [he] at hm; exact Bool.noConfusion hm
  renegotiated he := by rw [he] at hm; exact Bool.noConfusion hm
  sent he := by rw [he] at hm; exact Bool.noConfusion hm
  complete he := by rw [he] at hm; exact Bool.noConfusion hm
  fatal hf := ⟨h.not_terminal, by rw [hs, hf]; rfl⟩
  final ht := by rw [h.not_terminal] at ht; exact Bool.noConfusion ht

/-- A handshake that is over. -/
theorem lawful_of_complete (h : Enters l .advanceHandshake l' .handshaking)
    (hs : l.connection.state = .configured ∨ l.connection.state = .handshaking)
    (hs' : l'.connection.state = .established) :
    Lawful l .advanceHandshake (.advanced (.ok (.ready ()))) l' where
  edge := h.edge (Or.inr (hs' ▸ .complete))
  started hc _ := h.started hc
  ready _ := ⟨hs, hs'⟩
  renegotiated he := Outcome.noConfusion he
  sent he := Outcome.noConfusion he
  complete he := Outcome.noConfusion he
  fatal hf := Bool.noConfusion hf
  final ht := by rw [h.not_terminal] at ht; exact Bool.noConfusion ht

end Enters

/-- Closing that is under way has sent our alert. -/
theorem lawful_of_sent {l l' : Link σ}
    (hs : l.connection.state = .established ∨ l.connection.state = .shuttingDown)
    (hs' : l'.connection.state = .shuttingDown) :
    Lawful l .shutdown (.closing (.ok (.ready .sent))) l' where
  edge := Or.inr (Or.inl (hs' ▸ .shutDown hs))
  started hc _ := by rw [hc] at hs; exact absurd hs (by decide)
  ready he := Outcome.noConfusion he
  renegotiated he := Outcome.noConfusion he
  sent _ := ⟨hs, hs'⟩
  complete he := absurd he (by simp)
  fatal hf := Bool.noConfusion hf
  final ht := by rcases hs with h | h <;> rw [h] at ht <;> exact Bool.noConfusion ht

/-- Closing that is under way has received the peer's alert. -/
theorem lawful_of_received {l l' : Link σ}
    (hs : l.connection.state = .established ∨ l.connection.state = .shuttingDown)
    (hs' : l'.connection.state = .closed) :
    Lawful l .shutdown (.closing (.ok (.ready .complete))) l' where
  edge := Or.inr (Or.inl (hs' ▸ .close hs))
  started hc _ := by rw [hc] at hs; exact absurd hs (by decide)
  ready he := Outcome.noConfusion he
  renegotiated he := Outcome.noConfusion he
  sent he := absurd he (by simp)
  complete _ := ⟨hs.imp_right Or.inl, hs'⟩
  fatal hf := Bool.noConfusion hf
  final ht := by rcases hs with h | h <;> rw [h] at ht <;> exact Bool.noConfusion ht

/-- Closing what is closed. -/
theorem lawful_of_closed {l : Link σ} (hs : l.connection.state = .closed) :
    Lawful l .shutdown (.closing (.ok (.ready .complete))) l where
  edge := Or.inl rfl
  started hc := by rw [hs] at hc; exact State.noConfusion hc
  ready he := Outcome.noConfusion he
  renegotiated he := Outcome.noConfusion he
  sent he := absurd he (by simp)
  complete _ := ⟨Or.inr (Or.inr hs), hs⟩
  fatal hf := Bool.noConfusion hf
  final _ := rfl

/-- A new handshake that the engine accepts. -/
theorem lawful_of_renegotiated {l l' : Link σ} (hs : l.connection.state = .established)
    (hs' : l'.connection.state = .handshaking) :
    Lawful l .renegotiate (.renegotiated (.ok ())) l' where
  edge := Or.inr (Or.inl (by rw [hs, hs']; exact .renegotiate))
  started hc := by rw [hs] at hc; exact State.noConfusion hc
  ready he := Outcome.noConfusion he
  renegotiated _ := ⟨hs, hs'⟩
  sent he := Outcome.noConfusion he
  complete he := Outcome.noConfusion he
  fatal hf := Bool.noConfusion hf
  final ht := by rw [hs] at ht; exact Bool.noConfusion ht

/-! ### The pieces, on the graph -/

section Pieces

variable (E : Engine σ)

/-- An engine that runs goes on running. -/
theorem drive_running {α : Type} {l : Link σ} (h : ∃ s, l.connection.engine = .running s)
    (operation : String) (call : σ → Call (RawOutcome α × σ)) :
    ∃ s, (l.drive E operation call).2.connection.engine = .running s := by
  obtain ⟨s, hs⟩ := h
  obtain ⟨raw, s', w, -, hd⟩ := drive_of_running E hs operation call
  exact ⟨s', by rw [hd]; rfl⟩

/-- A start that fails leaves the state as it was, and its error is not fatal. -/
theorem start_error {l l₁ : Link σ} {e : TlsError} (h : l.start E = (.error e, l₁)) :
    l₁.connection.state = l.connection.state ∧ e.isFatal = false := by
  rcases start_cases E l with ⟨e', he, -, hst⟩ | ⟨-, -, o, hst⟩ | ⟨-, s, o, hst⟩
  · rw [h, Prod.mk.injEq, Except.error.injEq] at hst
    obtain ⟨rfl, rfl⟩ := hst
    exact ⟨rfl, he⟩
  · rw [h, Prod.mk.injEq, Except.error.injEq] at hst
    obtain ⟨rfl, rfl⟩ := hst
    exact ⟨rfl, rfl⟩
  · rw [h, Prod.mk.injEq] at hst
    exact absurd hst.1 (by simp)

/-- A start that succeeds turns an engine that was idle into one that runs. -/
theorem start_ok {l l₁ : Link σ} (h : l.start E = (.ok (), l₁)) :
    l.connection.engine = .idle ∧ l₁.connection.state = .handshaking ∧
      ∃ s, l₁.connection.engine = .running s := by
  rcases start_cases E l with ⟨e', he, -, hst⟩ | ⟨-, -, o, hst⟩ | ⟨hidle, s, o, hst⟩
  · rw [h, Prod.mk.injEq] at hst
    exact absurd hst.1 (by simp)
  · rw [h, Prod.mk.injEq] at hst
    exact absurd hst.1 (by simp)
  · rw [h, Prod.mk.injEq] at hst
    rw [hst.2]
    exact ⟨hidle, rfl, s, rfl⟩

/-- Completing a handshake that is over establishes the connection or ends in an error that is not
fatal; any other result passes. -/
theorem finish_cases (x : PollResult Unit × Link σ) :
    ((finish E x).1 = .ok (.ready ()) ∧ x.1 = .ok (.ready ()) ∧
      (finish E x).2.connection.state = .established) ∨
    ((finish E x).1 ≠ .ok (.ready ()) ∧ isFatal (finish E x).1 = isFatal x.1 ∧
      (finish E x).2.connection.state = x.2.connection.state) := by
  obtain ⟨result, l⟩ := x
  rcases result with e | ⟨⟨⟩⟩ | d | _
  · exact Or.inr ⟨by simp [finish], rfl, rfl⟩
  · rcases he : l.connection.engine with _ | s | _
    · exact Or.inr (by simp [finish, completeHandshake, he, Connection.invalidState,
        TlsError.isFatal])
    · rcases finish_ready_cases E he with hc | ⟨info, hc⟩
      · rw [hc, Connection.observe_eq]
        exact Or.inr ⟨by simp, rfl, rfl⟩
      · rw [hc]
        exact Or.inl ⟨rfl, rfl, rfl⟩
    · exact Or.inr (by simp [finish, completeHandshake, he, Connection.invalidState,
        TlsError.isFatal])
  · exact Or.inr ⟨by simp [finish], rfl, rfl⟩
  · exact Or.inr ⟨by simp [finish], rfl, rfl⟩

theorem finish_engine (x : PollResult Unit × Link σ) :
    (finish E x).2.connection.engine = x.2.connection.engine := by
  obtain ⟨result, l⟩ := x
  rcases result with e | ⟨⟨⟩⟩ | d | _
  · rfl
  · rcases he : l.connection.engine with _ | s | _
    · simp [finish, completeHandshake, he]
    · rcases finish_ready_cases E he with hc | ⟨info, hc⟩ <;> rw [hc, Connection.observe_eq] <;>
        exact he
    · simp [finish, completeHandshake, he]
  · rfl
  · rfl

/-- Adding up early data changes neither the result nor the state nor the engine. -/
theorem count_eq (x : PollResult Nat × Link σ) :
    (count x).1 = x.1 ∧ (count x).2.connection.state = x.2.connection.state ∧
      (count x).2.connection.engine = x.2.connection.engine := by
  obtain ⟨result, l⟩ := x
  rcases result with e | n | d | _ <;> exact ⟨rfl, rfl, rfl⟩

/-- Closing has sent our alert, has received the peer's, or passes any other result on. -/
theorem settle_cases (x : PollResult ShutdownResult × Link σ) :
    ((settle x).1 = .ok (.ready .sent) ∧ (settle x).2.connection.state = .shuttingDown) ∨
    ((settle x).1 = .ok (.ready .complete) ∧ (settle x).2.connection.state = .closed) ∨
    ((Outcome.closing (settle x).1).marksEdge = false ∧ isFatal (settle x).1 = isFatal x.1 ∧
      (settle x).2.connection.state = x.2.connection.state) := by
  obtain ⟨result, l⟩ := x
  rcases result with e | (_ | _) | d | _
  · exact Or.inr (Or.inr ⟨rfl, rfl, rfl⟩)
  · exact Or.inl ⟨rfl, rfl⟩
  · exact Or.inr (Or.inl ⟨rfl, rfl⟩)
  · exact Or.inr (Or.inr ⟨rfl, rfl, rfl⟩)
  · exact Or.inr (Or.inr ⟨rfl, rfl, rfl⟩)

end Pieces

/-! ### The operations, on the graph -/

section Operations

variable (E : Engine σ) (l : Link σ)

/-- **Operations that may start the engine enter the graph** once it runs: at the handshake that
was under way, or at the one that has just begun. -/
theorem enters_of_startIfConfigured {op : Operation} (ho : op.Starts)
    (h : l.connection.state = .configured ∨ l.connection.state = .handshaking) {l₁ : Link σ}
    (hst : l.startIfConfigured E = (.ok (), l₁)) (l' : Link σ)
    (hrun : (∃ s, l₁.connection.engine = .running s) → ∃ s, l'.connection.engine = .running s) :
    l₁.connection.state = .handshaking ∧ Enters l op l' .handshaking := by
  rcases startIfConfigured_cases E l h with ⟨hs, hc⟩ | ⟨hs, hc⟩
  · obtain rfl : l = l₁ := by rw [hc] at hst; exact (Prod.mk.inj hst).2
    have henter : Enters l op l' l.connection.state := .here (Or.inl hs)
    exact ⟨hs, hs ▸ henter⟩
  · rw [hc] at hst
    obtain ⟨hidle, hs₁, hr⟩ := start_ok E hst
    exact ⟨hs₁, .start hs ho hidle (hrun hr)⟩

/-- A failure to start leaves the state as it was. -/
theorem startIfConfigured_error
    (h : l.connection.state = .configured ∨ l.connection.state = .handshaking) {l₁ : Link σ}
    {e : TlsError} (hst : l.startIfConfigured E = (.error e, l₁)) :
    l₁.connection.state = l.connection.state ∧ e.isFatal = false := by
  rcases startIfConfigured_cases E l h with ⟨-, hc⟩ | ⟨-, hc⟩
  · rw [hc] at hst
    exact absurd (Prod.mk.inj hst).1 (by simp)
  · rw [hc] at hst
    exact start_error E hst

theorem isLive_of_readStates {s : State} (h : s ∈ readStates) : isLive s :=
  Or.inr (List.mem_pair.mp h)

theorem configure_lawful (config : Config) :
    Lawful l (.configure config) (.configured (l.configure config).1) (l.configure config).2 := by
  rcases configure_cases l config with ⟨-, h⟩ | ⟨e, he, -, h⟩
  · rw [h]
    exact .of_stay rfl rfl rfl
  · rw [h]
    exact .of_stay rfl rfl he

theorem advanceHandshake_lawful :
    Lawful l .advanceHandshake (.advanced (l.advanceHandshake E).1) (l.advanceHandshake E).2 := by
  rcases advanceHandshake_cases E l with ⟨e, he, -, -, h⟩ | ⟨hs, ⟨e, l₁, hst, h⟩ | ⟨l₁, hst, h⟩⟩
  · rw [h]
    exact .of_stay rfl rfl he.not_fatal
  · obtain ⟨hs₁, he⟩ := startIfConfigured_error E l hs hst
    rw [h]
    exact .of_stay hs₁ rfl he
  · rw [h]
    -- the engine runs from here on, and what is left is one call and what is done to its result
    generalize hx : l₁.closeWindow.drive E "advance_handshake" E.handshake = x
    have hstate := drive_state E l₁.closeWindow "advance_handshake" E.handshake
    rw [hx] at hstate
    obtain ⟨hs₁, henter⟩ := enters_of_startIfConfigured E l (Or.inl rfl) hs hst (finish E x).2
      (fun hr => by
        rw [finish_engine, ← hx]
        exact drive_running E (l := l₁.closeWindow) hr _ _)
    rcases finish_cases E x with ⟨hready, -, hest⟩ | ⟨hready, hfatal, hsame⟩
    · rw [hready]
      exact henter.lawful_of_complete hs hest
    · refine henter.lawful_of_call ?_ ?_
      · rcases hr : (finish E x).1 with e | ⟨⟨⟩⟩ | d | _
        case ok.ready => exact absurd hr hready
        all_goals rfl
      · rw [hsame, hstate, ← hfatal, show l₁.closeWindow.connection.state = .handshaking from hs₁]
        rfl

theorem write_lawful (data : Bytes) :
    Lawful l (.write data) (.written (l.write E data).1) (l.write E data).2 := by
  rcases write_cases E l data with ⟨e, he, -, h⟩ | ⟨-, -, h⟩ | ⟨hs, -, h⟩
  · rw [h]
    exact .of_stay rfl rfl he.not_fatal
  · rw [h]
    exact .of_stay rfl rfl rfl
  · rw [h]
    exact (Enters.here (Or.inr (Or.inl hs))).lawful_of_call rfl (drive_state E l _ _)

theorem writeEarlyData_lawful (data : Bytes) :
    Lawful l (.writeEarlyData data) (.written (l.writeEarlyData E data).1)
      (l.writeEarlyData E data).2 := by
  rcases writeEarlyData_cases E l data with ⟨e, he, -, h⟩ | ⟨-, -, h⟩ | ⟨hadm, -, -, hrest⟩
  · rw [h]
    exact .of_stay rfl rfl he.not_fatal
  · rw [h]
    exact .of_stay rfl rfl rfl
  · have hs := state_of_admitsEarlyData hadm
    rcases hrest with ⟨e, l₁, hst, h⟩ | ⟨l₁, hst, h⟩
    · obtain ⟨hs₁, he⟩ := startIfConfigured_error E l hs hst
      rw [h]
      exact .of_stay hs₁ rfl he
    · rw [h]
      generalize hx : l₁.drive E "write_early_data"
        (E.writeEarlyData (data.take (earlyDataBudget l.connection))) = x
      have hstate := drive_state E l₁ "write_early_data"
        (E.writeEarlyData (data.take (earlyDataBudget l.connection)))
      rw [hx] at hstate
      obtain ⟨hres, hsame, hengine⟩ := count_eq x
      have ho : (Operation.writeEarlyData data).Starts := Or.inr ⟨data, rfl⟩
      obtain ⟨hs₁, henter⟩ := enters_of_startIfConfigured E l ho hs hst (count x).2
        (fun hr => by
          rw [hengine, ← hx]
          exact drive_running E hr _ _)
      refine henter.lawful_of_call rfl ?_
      rw [hsame, hres, hstate, hs₁]
      rfl

theorem read_lawful (max : Nat) (granted : Bool) :
    Lawful l (.read max granted) (.read (l.read E max granted).1) (l.read E max granted).2 := by
  rcases read_cases E l max granted with ⟨e, he, -, h⟩ | ⟨-, -, h⟩ | ⟨-, -, h⟩ | ⟨hs, -, -, h⟩
  · rw [h]
    exact .of_stay rfl rfl he.not_fatal
  · rw [h]
    exact .of_stay rfl rfl rfl
  · rw [h]
    exact .of_stay rfl rfl rfl
  · rw [h]
    exact (Enters.here (isLive_of_readStates hs)).lawful_of_call rfl (drive_state E l _ _)

theorem readInto_lawful (buffer : Bytes) :
    Lawful l (.readInto buffer) (.filled (l.readInto E buffer).1 (l.readInto E buffer).2.1)
      (l.readInto E buffer).2.2 := by
  rcases readInto_cases E l buffer with ⟨e, he, -, h⟩ | ⟨-, -, h⟩ | ⟨hs, -, h⟩
  · rw [h]
    exact .of_stay rfl rfl he.not_fatal
  · rw [h]
    exact .of_stay rfl rfl rfl
  · rw [h]
    refine (Enters.here (isLive_of_readStates hs)).lawful_of_call rfl ?_
    rw [drive_state]
    rcases (l.drive E "read" (E.read buffer.length)).1 with e | p <;> rfl

theorem shutdown_lawful :
    Lawful l .shutdown (.closing (l.shutdown E).1) (l.shutdown E).2 := by
  rcases shutdown_cases E l with ⟨hs, h⟩ | ⟨e, he, -, h⟩ | ⟨hs, h⟩
  · rw [h]
    exact lawful_of_closed hs
  · rw [h]
    exact .of_stay rfl rfl he.not_fatal
  · rw [h]
    generalize hx : l.drive E "shutdown" E.shutdown = x
    have hstate := drive_state E l "shutdown" E.shutdown
    rw [hx] at hstate
    rcases settle_cases x with ⟨hout, hs'⟩ | ⟨hout, hs'⟩ | ⟨hout, hfatal, hsame⟩
    · rw [hout]
      exact lawful_of_sent hs hs'
    · rw [hout]
      exact lawful_of_received hs hs'
    · refine (Enters.here (Or.inr hs)).lawful_of_call hout ?_
      rw [hsame, hstate, ← hfatal]
      rfl

theorem renegotiate_lawful :
    Lawful l .renegotiate (.renegotiated (l.renegotiate E).1) (l.renegotiate E).2 := by
  rcases renegotiate_cases E l with ⟨e, he, -, h⟩ | ⟨-, s, s', -, -, h⟩ | ⟨hs, s, s', -, -, h⟩
  · rw [h]
    exact .of_stay rfl rfl he.not_fatal
  · rw [h]
    exact .of_stay rfl rfl rfl
  · rw [h]
    exact lawful_of_renegotiated hs rfl

/-- A question that has no answer has not ended the connection. -/
theorem ask_not_fatal (q : Question) :
    (Outcome.told (q.answer E l.connection l.objects)).isFatal = false := by
  rcases h : q.answer E l.connection l.objects with e | found
  · exact (Question.answer_error h).not_fatal
  · rfl

/-- **Every operation is lawful**, at any connection and over any engine. -/
theorem perform_lawful (op : Operation) :
    Lawful l op (l.perform E op).1 (l.perform E op).2 := by
  cases op with
  | configure config => exact configure_lawful l config
  | advanceHandshake => exact advanceHandshake_lawful E l
  | write data => exact write_lawful E l data
  | writeEarlyData data => exact writeEarlyData_lawful E l data
  | read max granted => exact read_lawful E l max granted
  | readInto buffer => exact readInto_lawful E l buffer
  | shutdown => exact shutdown_lawful E l
  | renegotiate => exact renegotiate_lawful E l
  | ask q => exact .of_stay rfl rfl (ask_not_fatal E l q)

end Operations

/-! ### Runs -/

section Runs

variable (E : Engine σ) (l : Link σ)

/-- What happens around a connection does not touch it. -/
theorem step_connection_of_not_operation {e : Event} (h : ∀ op, e ≠ .operation op) :
    (l.step E e).2.connection = l.connection := by
  cases e with
  | operation op => exact absurd rfl (h op)
  | caller action => rfl
  | elsewhere objects => rfl

/-- **The last states are final**: no event leads away from them. -/
theorem step_state_of_terminal (e : Event) (h : l.connection.state.isTerminal = true) :
    (l.step E e).2.connection.state = l.connection.state := by
  cases e with
  | operation op => exact (perform_lawful E l op).final h
  | caller action => rfl
  | elsewhere objects => rfl

/-- A connection that has ended is in the same state after any run. -/
theorem after_state_of_terminal (h : l.connection.state.isTerminal = true) (es : List Event) :
    (l.after E es).connection.state = l.connection.state := by
  induction es generalizing l with
  | nil => rfl
  | cons e es ih =>
    have hstep := step_state_of_terminal E l e h
    rw [after_cons, ih _ (hstep ▸ h), hstep]

/-- **The life of a connection.** Over any engine, and after any run from a fresh connection, an
operation goes along the edges of the graph of states and brings about whatever it is the cause of;
what happens around the connection leaves its state alone; and once a connection is closed or has
failed it remains so for the rest of any run. -/
theorem states_follow_graph (config : Config) (pipe : Pipe) (objects : SessionObjects)
    (es : List Event) :
    let l := (fresh config pipe objects).after E es
    (∀ op, Lawful l op (l.perform E op).1 (l.perform E op).2) ∧
    (∀ e, (∀ op, e ≠ .operation op) → (l.step E e).2.connection = l.connection) ∧
    (l.connection.state.isTerminal = true →
      ∀ later, (l.after E later).connection.state = l.connection.state) := by
  intro l
  refine ⟨fun op => ?_, fun e he => ?_, fun h later => ?_⟩
  · exact perform_lawful E l op
  · exact step_connection_of_not_operation E l he
  · exact after_state_of_terminal E l h later

end Runs

end Link

end SocketlessTls
