import SocketlessTls.Proofs.Connection.Pieces

/-!
# The operations, case by case

An operation is refused, or has nothing to do, or calls the engine. The first two leave everything
as it was. In the third the operation is an engine call with something done to its result, and where
that is more than to pass it on it gets a name here: `SocketlessTls.Link.finish` completes a
handshake that is over, `SocketlessTls.Link.count` adds up early data,
`SocketlessTls.Link.fill` puts data into a buffer, `SocketlessTls.Link.settle` says how far closing
has come.

The lists are complete and their cases say which connection is meant by each, so that a property of
an operation is proved by going through its list.
-/

namespace SocketlessTls

namespace Link

variable {σ : Type}

/-! ### Refusals -/

/-- **The two refusals of an operation** that does not belong where the connection is. -/
inductive Refusal (c : Connection σ) (operation : String) : TlsError → Prop
  | ended (h : c.state.isTerminal = true) : Refusal c operation (.alreadyTerminated c.state)
  | misplaced : Refusal c operation (.invalidState operation c.state)

theorem Refusal.not_fatal {c : Connection σ} {operation : String} {e : TlsError}
    (h : Refusal c operation e) : e.isFatal = false := by
  cases h <;> rfl

/-- A guard lets pass or refuses. -/
theorem require_or_refusal (c : Connection σ) (operation : String) (allowed : List State) :
    (c.require operation allowed = .ok () ∧ c.state ∈ allowed) ∨
    (∃ e, Refusal c operation e ∧ c.require operation allowed = .error e ∧
      (c.state.isTerminal = true ∨ c.state ∉ allowed)) := by
  rcases c.require_cases operation allowed with ⟨hr, -, hs⟩ | ⟨hr, ht⟩ | ⟨hr, hs⟩
  · exact Or.inl ⟨hr, hs⟩
  · exact Or.inr ⟨_, .ended ht, hr, Or.inl ht⟩
  · exact Or.inr ⟨_, .misplaced, hr, Or.inr hs⟩

/-- Early data may be written in the first two states only. -/
theorem state_of_admitsEarlyData {c : Connection σ} (h : admitsEarlyData c = true) :
    c.state = .configured ∨ c.state = .handshaking := by
  rcases hs : c.state with _ | _ | _ | _ | _ | _ <;> simp [admitsEarlyData, hs] at h ⊢

/-- Data may be read in states in which the connection is established. -/
theorem isEstablished_of_readStates {s : State} (h : s ∈ readStates) : s.isEstablished = true := by
  rcases List.mem_pair.mp h with rfl | rfl <;> rfl

/-- Where reading is refused, the connection is in none of the states in which data may be read. -/
theorem not_mem_readStates {s : State} (h : s.isTerminal = true ∨ s ∉ readStates) :
    s ∉ readStates := by
  intro hs
  rcases h with h | h
  · rcases List.mem_pair.mp hs with rfl | rfl <;> cases h
  · exact h hs

/-! ### What is done to the result of a call -/

/-- The link with its window for early data closed. -/
def closeWindow (l : Link σ) : Link σ :=
  { l with connection := { l.connection with earlyDataWindow := false } }

/-- Completes a handshake that is over for the engine. -/
def finish (E : Engine σ) : PollResult Unit × Link σ → PollResult Unit × Link σ
  | (.ok (.ready ()), l) =>
    match l.completeHandshake E with
    | (.error e, l) => (.error e, l)
    | (.ok (), l) => (.ok (.ready ()), l)
  | (result, l) => (result, l)

/-- **Completing a handshake that is over** ends in an error that is not fatal, with nothing
recorded but the cipher, or establishes the connection. -/
theorem finish_ready_cases (E : Engine σ) {l : Link σ} {s : σ}
    (h : l.connection.engine = .running s) :
    (finish E (.ok (.ready ()), l) = (.error .engine, { l with
      connection := l.connection.observe E s })) ∨
    (∃ info, finish E (.ok (.ready ()), l) = (.ok (.ready ()), { l with
      connection := { l.connection.observe E s with
        info := some info, state := .established } })) := by
  rcases completeHandshake_cases E h with hc | ⟨chain, hc⟩
  · exact Or.inl (by simp only [finish, hc])
  · refine Or.inr ⟨⟨E.version s, (l.connection.observe E s).captured.or (E.currentCipher s), chain⟩,
      ?_⟩
    simp only [finish, hc]

/-- Adds up early data. -/
def count : PollResult Nat × Link σ → PollResult Nat × Link σ
  | (.ok (.ready n), l) =>
    (.ok (.ready n), { l with connection := { l.connection with
      earlyDataSent := l.connection.earlyDataSent + UInt32.ofNat n } })
  | (result, l) => (result, l)

/-- A buffer after a read had this result. -/
def fill (buffer : Bytes) : PollResult Bytes → Bytes
  | .ok (.ready data) => (data ++ buffer.drop data.length).take buffer.length
  | _ => buffer

/-- How far closing has come. -/
def settle : PollResult ShutdownResult × Link σ → PollResult ShutdownStatus × Link σ
  | (.ok (.ready .sent), l) => (.ok (.ready .sent), l.withState .shuttingDown)
  | (.ok (.ready .received), l) => (.ok (.ready .complete), l.withState .closed)
  | (.ok (.wouldBlock d), l) => (.ok (.wouldBlock d), l)
  | (.ok .peerClosed, l) => (.ok .peerClosed, l)
  | (.error e, l) => (.error e, l)

/-! ### The lists -/

section Lists

variable (E : Engine σ) (l : Link σ)

theorem configure_cases (config : Config) :
    (l.connection.state = .configured ∧ l.configure config =
      (.ok (), { l with connection := { l.connection with config } })) ∨
    (∃ e, e.isFatal = false ∧ l.connection.state ≠ .configured ∧
      l.configure config = (.error e, l)) := by
  rcases l.connection.configMut_cases with ⟨hc, hs⟩ | ⟨e, hc, he, hs⟩
  · exact Or.inl ⟨hs, by simp [configure, hc, Connection.withConfig]⟩
  · exact Or.inr ⟨e, he, hs, by simp [configure, hc]⟩

/-- Starting on demand: it is done already, or it is `SocketlessTls.Link.start`. -/
theorem startIfConfigured_cases
    (h : l.connection.state = .configured ∨ l.connection.state = .handshaking) :
    (l.connection.state = .handshaking ∧ l.startIfConfigured E = (.ok (), l)) ∨
    (l.connection.state = .configured ∧ l.startIfConfigured E = l.start E) := by
  rcases h with h | h
  · exact Or.inr ⟨h, startIfConfigured_of_configured E h⟩
  · exact Or.inl ⟨h, startIfConfigured_of_handshaking E h⟩

/-- **Advancing the handshake** is refused, fails to start the engine, or calls it. -/
theorem advanceHandshake_cases :
    (∃ e, Refusal l.connection "advance_handshake" e ∧
      l.connection.state ≠ .configured ∧ l.connection.state ≠ .handshaking ∧
      l.advanceHandshake E = (.error e, l)) ∨
    ((l.connection.state = .configured ∨ l.connection.state = .handshaking) ∧
      ((∃ e l₁, l.startIfConfigured E = (.error e, l₁) ∧
        l.advanceHandshake E = (.error e, l₁)) ∨
      (∃ l₁, l.startIfConfigured E = (.ok (), l₁) ∧ l.advanceHandshake E =
        finish E (l₁.closeWindow.drive E "advance_handshake" E.handshake)))) := by
  rcases ht : l.connection.state.isTerminal with _ | _
  · by_cases hs : l.connection.state = .configured ∨ l.connection.state = .handshaking
    · refine Or.inr ⟨hs, ?_⟩
      rcases hst : l.startIfConfigured E with ⟨e | ⟨⟨⟩⟩, l₁⟩
      · refine Or.inl ⟨e, l₁, rfl, ?_⟩
        simp [advanceHandshake, l.connection.ensureLive_of_live ht, hs, hst]
      · refine Or.inr ⟨l₁, rfl, ?_⟩
        simp only [advanceHandshake, l.connection.ensureLive_of_live ht, hs, hst, if_true]
        rfl
    · refine Or.inl ⟨_, .misplaced, fun h => hs (Or.inl h), fun h => hs (Or.inr h), ?_⟩
      simp [advanceHandshake, l.connection.ensureLive_of_live ht, hs, Connection.invalidState]
  · refine Or.inl ⟨_, .ended ht, ?_, ?_, ?_⟩
    · intro h
      rw [h] at ht
      exact Bool.noConfusion ht
    · intro h
      rw [h] at ht
      exact Bool.noConfusion ht
    · simp [advanceHandshake, l.connection.ensureLive_of_terminal ht]

/-- **Writing** is refused, has nothing to do, or calls the engine. -/
theorem write_cases (data : Bytes) :
    (∃ e, Refusal l.connection "write" e ∧ l.connection.state ≠ .established ∧
      l.write E data = (.error e, l)) ∨
    (l.connection.state = .established ∧ data = [] ∧ l.write E data = (.ok (.ready 0), l)) ∨
    (l.connection.state = .established ∧ data ≠ [] ∧
      l.write E data = l.drive E "write" (E.write data)) := by
  rcases require_or_refusal l.connection "write" [.established] with ⟨hr, hs⟩ | ⟨e, he, hr, hs⟩
  · have hs := List.mem_singleton.mp hs
    rcases data with _ | ⟨b, data⟩
    · exact Or.inr (Or.inl ⟨hs, rfl, by simp [write, hr]⟩)
    · exact Or.inr (Or.inr ⟨hs, List.cons_ne_nil _ _, by simp [write, hr]⟩)
  · refine Or.inl ⟨e, he, ?_, by simp [write, hr]⟩
    intro h
    simp [h, State.isTerminal] at hs

/-- **Writing early data** is refused, has nothing to do, fails to start the engine, or calls it. -/
theorem writeEarlyData_cases (data : Bytes) :
    (∃ e, Refusal l.connection "write_early_data" e ∧ admitsEarlyData l.connection = false ∧
      l.writeEarlyData E data = (.error e, l)) ∨
    (admitsEarlyData l.connection = true ∧ (earlyDataBudget l.connection = 0 ∨ data = []) ∧
      l.writeEarlyData E data = (.ok (.ready 0), l)) ∨
    (admitsEarlyData l.connection = true ∧ earlyDataBudget l.connection ≠ 0 ∧ data ≠ [] ∧
      ((∃ e l₁, l.startIfConfigured E = (.error e, l₁) ∧
        l.writeEarlyData E data = (.error e, l₁)) ∨
      (∃ l₁, l.startIfConfigured E = (.ok (), l₁) ∧ l.writeEarlyData E data =
        count (l₁.drive E "write_early_data"
          (E.writeEarlyData (data.take (earlyDataBudget l.connection))))))) := by
  rcases ht : l.connection.state.isTerminal with _ | _
  · have hlive := l.connection.ensureLive_of_live ht
    rcases ha : admitsEarlyData l.connection with _ | _
    · refine Or.inl ⟨_, .misplaced, rfl, ?_⟩
      simp [writeEarlyData, hlive, ha, Connection.invalidState]
    by_cases hb : earlyDataBudget l.connection = 0 ∨ data = []
    · refine Or.inr (Or.inl ⟨rfl, hb, ?_⟩)
      simp [writeEarlyData, hlive, ha, List.isEmpty_iff, hb]
    obtain ⟨hb, hd⟩ := not_or.mp hb
    refine Or.inr (Or.inr ⟨rfl, hb, hd, ?_⟩)
    rcases hst : l.startIfConfigured E with ⟨e | ⟨⟨⟩⟩, l₁⟩
    · refine Or.inl ⟨e, l₁, rfl, ?_⟩
      simp [writeEarlyData, hlive, ha, List.isEmpty_iff, hb, hd, hst]
    · refine Or.inr ⟨l₁, rfl, ?_⟩
      simp only [writeEarlyData, hlive, ha, List.isEmpty_iff, hb, hd, hst, Bool.not_true,
        Bool.false_eq_true, if_false, or_self]
      rfl
  · refine Or.inl ⟨_, .ended ht, ?_, ?_⟩
    · rcases hs : l.connection.state <;> rw [hs] at ht <;>
        first | exact Bool.noConfusion ht | simp [admitsEarlyData, hs]
    · simp [writeEarlyData, l.connection.ensureLive_of_terminal ht]

/-- **Reading into a buffer** is refused, has nothing to do, or calls the engine. -/
theorem readInto_cases (buffer : Bytes) :
    (∃ e, Refusal l.connection "read" e ∧ l.connection.state ∉ readStates ∧
      l.readInto E buffer = (.error e, buffer, l)) ∨
    (l.connection.state ∈ readStates ∧ buffer = [] ∧
      l.readInto E buffer = (.ok (.ready 0), buffer, l)) ∨
    (l.connection.state ∈ readStates ∧ buffer ≠ [] ∧
      l.readInto E buffer =
        ((l.drive E "read" (E.read buffer.length)).1.map (Poll.map List.length),
          fill buffer (l.drive E "read" (E.read buffer.length)).1,
          (l.drive E "read" (E.read buffer.length)).2)) := by
  rcases require_or_refusal l.connection "read" readStates with ⟨hr, hs⟩ | ⟨e, he, hr, hs⟩
  · rcases buffer with _ | ⟨b, buffer⟩
    · exact Or.inr (Or.inl ⟨hs, rfl, by simp [readInto, hr]⟩)
    · refine Or.inr (Or.inr ⟨hs, List.cons_ne_nil _ _, ?_⟩)
      rcases hd : l.drive E "read" (E.read (b :: buffer).length) with ⟨e | p, l'⟩
      · simp only [readInto, hr, hd]
        rfl
      · cases p <;>
        · simp only [readInto, hr, hd]
          rfl
  · exact Or.inl ⟨e, he, not_mem_readStates hs, by simp [readInto, hr]⟩

/-- A buffer without any room can always be reserved. -/
@[simp]
theorem affords_zero (granted : Bool) : affords 0 granted = true := rfl

/-- A buffer with any room has to be granted, and must not be too large. -/
theorem affords_iff {max : Nat} (h : max ≠ 0) (granted : Bool) :
    affords max granted = true ↔ granted = true ∧ max ≤ maxBuffer := by
  simp [affords, h]

/-- **Reading** is refused, has no buffer, has nothing to do, or calls the engine. -/
theorem read_cases (max : Nat) (granted : Bool) :
    (∃ e, Refusal l.connection "read" e ∧ l.connection.state ∉ readStates ∧
      l.read E max granted = (.error e, l)) ∨
    (l.connection.state ∈ readStates ∧ affords max granted = false ∧
      l.read E max granted = (.error .resourceExhausted, l)) ∨
    (l.connection.state ∈ readStates ∧ max = 0 ∧ l.read E max granted = (.ok (.ready []), l)) ∨
    (l.connection.state ∈ readStates ∧ max ≠ 0 ∧ affords max granted = true ∧
      l.read E max granted = l.drive E "read" (E.read max)) := by
  rcases require_or_refusal l.connection "read" readStates with ⟨hr, hs⟩ | ⟨e, he, hr, hs⟩
  · rcases ha : affords max granted with _ | _
    · exact Or.inr (Or.inl ⟨hs, rfl, by simp [read, hr, ha]⟩)
    by_cases h0 : max = 0
    · exact Or.inr (Or.inr (Or.inl ⟨hs, h0, by simp [read, hr, h0]⟩))
    · exact Or.inr (Or.inr (Or.inr ⟨hs, h0, rfl, by simp [read, hr, h0, ha]⟩))
  · exact Or.inl ⟨e, he, not_mem_readStates hs, by simp [read, hr]⟩

/-- **Closing** is done already, is refused, or calls the engine. -/
theorem shutdown_cases :
    (l.connection.state = .closed ∧ l.shutdown E = (.ok (.ready .complete), l)) ∨
    (∃ e, Refusal l.connection "shutdown" e ∧ l.connection.state.isEstablished = false ∧
      l.shutdown E = (.error e, l)) ∨
    ((l.connection.state = .established ∨ l.connection.state = .shuttingDown) ∧
      l.shutdown E = settle (l.drive E "shutdown" E.shutdown)) := by
  rcases hs : l.connection.state
  case closed => exact Or.inl ⟨rfl, by simp [shutdown, hs]⟩
  case errored =>
    refine Or.inr (Or.inl ⟨.alreadyTerminated .errored, ?_, rfl, ?_⟩)
    · rw [← hs]
      exact .ended (by rw [hs]; rfl)
    · simp [shutdown, hs]
  case established =>
    refine Or.inr (Or.inr ⟨Or.inl rfl, ?_⟩)
    simp only [shutdown, hs]
    rfl
  case shuttingDown =>
    refine Or.inr (Or.inr ⟨Or.inr rfl, ?_⟩)
    simp only [shutdown, hs]
    rfl
  all_goals
    refine Or.inr (Or.inl ⟨.invalidState "shutdown" l.connection.state, .misplaced, rfl, ?_⟩)
    simp [shutdown, hs]

/-- **Asking for a new handshake** is refused, declined by the engine, or accepted. -/
theorem renegotiate_cases :
    (∃ e, Refusal l.connection "renegotiate" e ∧
      (l.connection.state ≠ .established ∨ ∀ s, l.connection.engine ≠ .running s) ∧
      l.renegotiate E = (.error e, l)) ∨
    (l.connection.state = .established ∧ ∃ s s', l.connection.engine = .running s ∧
      E.renegotiate s = (false, s') ∧ l.renegotiate E = (.error (.unsupported "renegotiate"),
        { l with connection := { l.connection with engine := .running s' } })) ∨
    (l.connection.state = .established ∧ ∃ s s', l.connection.engine = .running s ∧
      E.renegotiate s = (true, s') ∧ l.renegotiate E = (.ok (), { l with
        connection := { l.connection with
          engine := .running s', captured := none, info := none, state := .handshaking } })) := by
  rcases require_or_refusal l.connection "renegotiate" [.established] with
    ⟨hr, hs⟩ | ⟨e, he, hr, hs⟩
  · have hs := List.mem_singleton.mp hs
    rcases hen : l.connection.engine with _ | s | _
    · exact Or.inl ⟨_, .misplaced, Or.inr (by simp),
        by simp [renegotiate, hr, hen, Connection.invalidState]⟩
    · rcases hre : E.renegotiate s with ⟨_ | _, s'⟩
      · exact Or.inr (Or.inl ⟨hs, s, s', rfl, hre, by simp [renegotiate, hr, hen, hre]⟩)
      · exact Or.inr (Or.inr ⟨hs, s, s', rfl, hre, by simp [renegotiate, hr, hen, hre]⟩)
    · exact Or.inl ⟨_, .misplaced, Or.inr (by simp),
        by simp [renegotiate, hr, hen, Connection.invalidState]⟩
  · refine Or.inl ⟨e, he, Or.inl ?_, by simp [renegotiate, hr]⟩
    intro h
    simp [h, State.isTerminal] at hs

end Lists

end Link

end SocketlessTls
