import SocketlessTls.Engine.Waiting
import SocketlessTls.Proofs.Connection.EarlyData
import SocketlessTls.Proofs.Connection.Standing

/-!
# When early data may be written

Early data goes out before the handshake is advanced, and never afterwards. A connection remembers
that by a flag, its *window* for early data, and looks at the flag only while it shakes hands: in
all other states the state alone decides. So the flag and the state together have to tell something
about the past. This file says what that is. **The window is closed exactly if the handshake has
been advanced before**, where an attempt does not count that is turned away by the guard or stopped
by an engine that fails to start.

Nothing opens the window again. A new handshake takes an established connection back to shaking
hands, but the first handshake had to be advanced for it to be established at all.

* `SocketlessTls.Link.Advances` – an event advances the handshake;
* `SocketlessTls.Link.window_after_iff` – the window is closed by that, and by nothing else;
* `SocketlessTls.Link.LetThrough` – what becomes of a write of early data that is not refused;
* `SocketlessTls.Link.KeepsWindow` – which writes are refused, with which error, and which are let
  through;
* `SocketlessTls.Link.early_data_window` – it holds after every run.
-/

namespace SocketlessTls

namespace Link

variable {σ : Type}

/-- **An event advances the handshake**: it gets past the guard and the start of the engine. -/
def Advances (E : Engine σ) (l : Link σ) (e : Event) : Prop :=
  e = .operation .advanceHandshake ∧ Operation.advanceHandshake.Reaches E l

/-- An event is an operation that ends the connection. -/
def Fails (E : Engine σ) (l : Link σ) (e : Event) : Prop :=
  ∃ op, e = .operation op ∧ (l.perform E op).1.isFatal = true

/-! ### The window -/

section Window

variable (E : Engine σ) (l : Link σ)

/-- No call moves the window. -/
theorem drive_window {α : Type} (operation : String) (call : σ → Call (RawOutcome α × σ)) :
    (l.drive E operation call).2.connection.earlyDataWindow = l.connection.earlyDataWindow := by
  by_cases h : ∃ s, l.connection.engine = .running s
  · obtain ⟨s, hs⟩ := h
    obtain ⟨raw, s', w, -, hd⟩ := drive_of_running E hs operation call
    rw [hd]
    rfl
  · rw [drive_of_not_running E (fun s hs => h ⟨s, hs⟩)]

/-- Nor does what is done to the result of a call. -/
theorem finish_window (x : PollResult Unit × Link σ) :
    (finish E x).2.connection.earlyDataWindow = x.2.connection.earlyDataWindow := by
  obtain ⟨result, l⟩ := x
  rcases result with e | ⟨⟨⟩⟩ | d | _
  · rfl
  · rcases he : l.connection.engine with _ | s | _
    · simp [finish, completeHandshake, he]
    · rcases finish_ready_cases E he with hc | ⟨info, hc⟩ <;> rw [hc, Connection.observe_eq]
    · simp [finish, completeHandshake, he]
  · rfl
  · rfl

theorem count_window (x : PollResult Nat × Link σ) :
    (count x).2.connection.earlyDataWindow = x.2.connection.earlyDataWindow := by
  obtain ⟨result, l⟩ := x
  rcases result with e | n | d | _ <;> rfl

theorem settle_window (x : PollResult ShutdownResult × Link σ) :
    (settle x).2.connection.earlyDataWindow = x.2.connection.earlyDataWindow := by
  obtain ⟨result, l⟩ := x
  rcases result with e | (_ | _) | d | _ <;> rfl

/-- **Advancing the handshake closes the window**, and an attempt that does not get so far leaves it
as it was. -/
theorem advanceHandshake_window :
    (Operation.advanceHandshake.Reaches E l ∧
      (l.advanceHandshake E).2.connection.earlyDataWindow = false) ∨
    (¬Operation.advanceHandshake.Reaches E l ∧
      (l.advanceHandshake E).2.connection.earlyDataWindow = l.connection.earlyDataWindow) := by
  rcases advanceHandshake_cases E l with
    ⟨e, -, hc, hh, ha⟩ | ⟨hs, ⟨e, l₁, hst, ha⟩ | ⟨l₁, hst, ha⟩⟩
  · refine Or.inr ⟨fun hr => hr.1.elim hc hh, ?_⟩
    rw [ha]
  · refine Or.inr ⟨?_, ?_⟩
    · rintro ⟨-, l₂, hst'⟩
      cases (Prod.mk.inj (hst.symm.trans hst')).1
    · rw [ha]
      exact startIfConfigured_window hst
  · refine Or.inl ⟨⟨hs, l₁, hst⟩, ?_⟩
    rw [ha, finish_window, drive_window]
    rfl

/-- No other operation moves the window. -/
theorem perform_window {op : Operation} (ho : op ≠ .advanceHandshake) :
    (l.perform E op).2.connection.earlyDataWindow = l.connection.earlyDataWindow := by
  cases op with
  | advanceHandshake => exact absurd rfl ho
  | configure config =>
    rcases configure_cases l config with ⟨-, hc⟩ | ⟨e, -, -, hc⟩ <;> rw [perform, hc]
  | write data =>
    rcases write_cases E l data with ⟨e, -, -, hw⟩ | ⟨-, -, hw⟩ | ⟨-, -, hw⟩ <;> rw [perform, hw]
    exact drive_window E l _ _
  | writeEarlyData data =>
    rcases writeEarlyData_cases E l data with
      ⟨e, -, -, hw⟩ | ⟨-, -, hw⟩ | ⟨-, -, -, ⟨e, l₁, hst, hw⟩ | ⟨l₁, hst, hw⟩⟩ <;> rw [perform, hw]
    · exact startIfConfigured_window hst
    · exact (count_window _).trans ((drive_window E l₁ _ _).trans (startIfConfigured_window hst))
  | read max granted =>
    rcases read_cases E l max granted with
      ⟨e, -, -, hr⟩ | ⟨-, -, hr⟩ | ⟨-, -, hr⟩ | ⟨-, -, -, hr⟩ <;> rw [perform, hr]
    exact drive_window E l _ _
  | readInto buffer =>
    rcases readInto_cases E l buffer with ⟨e, -, -, hr⟩ | ⟨-, -, hr⟩ | ⟨-, -, hr⟩ <;>
      rw [perform, hr]
    exact drive_window E l _ _
  | shutdown =>
    rcases shutdown_cases E l with ⟨-, hd⟩ | ⟨e, -, -, hd⟩ | ⟨-, hd⟩ <;> rw [perform, hd]
    exact (settle_window _).trans (drive_window E l _ _)
  | renegotiate =>
    rcases renegotiate_cases E l with
      ⟨e, -, -, hd⟩ | ⟨-, s, s', -, -, hd⟩ | ⟨-, s, s', -, -, hd⟩ <;> rw [perform, hd]
  | ask q => rfl

/-- **The window is closed after an event if it was closed before, or the event advances the
handshake.** -/
theorem step_window_iff (e : Event) :
    (l.step E e).2.connection.earlyDataWindow = false ↔
      l.connection.earlyDataWindow = false ∨ Advances E l e := by
  have hother : (l.step E e).2.connection.earlyDataWindow = l.connection.earlyDataWindow →
      e ≠ .operation .advanceHandshake → ((l.step E e).2.connection.earlyDataWindow = false ↔
        l.connection.earlyDataWindow = false ∨ Advances E l e) := by
    intro hsame hne
    rw [hsame]
    exact ⟨Or.inl, fun hc => hc.resolve_right fun ha => hne ha.1⟩
  cases e with
  | operation op =>
    by_cases ho : op = .advanceHandshake
    · subst ho
      show (l.advanceHandshake E).2.connection.earlyDataWindow = false ↔ _
      rcases advanceHandshake_window E l with ⟨hr, hw⟩ | ⟨hr, hw⟩
      · exact ⟨fun _ => Or.inr ⟨rfl, hr⟩, fun _ => hw⟩
      · rw [hw]
        exact ⟨Or.inl, fun hc => hc.resolve_right fun ha => hr ha.2⟩
    · exact hother (perform_window E l ho) fun he => ho (Event.operation.inj he)
  | caller action => exact hother rfl nofun
  | elsewhere objects => exact hother rfl nofun

/-- **After a run the window is closed exactly if the handshake has been advanced in it.** -/
theorem window_after_iff (hopen : l.connection.earlyDataWindow = true) (es : List Event) :
    (l.after E es).connection.earlyDataWindow = false ↔ l.Happened E es (Advances E) := by
  -- from the end of the run, since the window tells of all that came before
  induction es using List.reverseRecOn with
  | nil => exact iff_of_false (by rw [after_nil, hopen]; nofun) (not_happened_nil E l _)
  | append_singleton es e ih => rw [after_concat, happened_concat, step_window_iff, ih]

end Window

/-! ### Writes of early data -/

/-- **A write of early data that is let through**: it has nothing to do, or the engine is to be
started for it and fails to start, or the engine is handed as much of the data as fits the
budget. -/
inductive LetThrough (E : Engine σ) (l : Link σ) (data : Bytes) : PollResult Nat × Link σ → Prop
  | idle (hnone : earlyDataBudget l.connection = 0 ∨ data = []) :
      LetThrough E l data (.ok (.ready 0), l)
  | notStarted {e : TlsError} {l₁ : Link σ} (hs : l.connection.state = .configured)
      (hst : l.start E = (.error e, l₁)) : LetThrough E l data (.error e, l₁)
  | called {l₁ : Link σ} (hb : earlyDataBudget l.connection ≠ 0) (hd : data ≠ [])
      (hst : l.startIfConfigured E = (.ok (), l₁)) : LetThrough E l data
        (count (l₁.drive E "write_early_data"
          (E.writeEarlyData (data.take (earlyDataBudget l.connection)))))

section Writes

variable {E : Engine σ} {l : Link σ} {data : Bytes}

/-- **A write of early data is refused because the connection has ended, or because its time is
over, or is let through.** -/
theorem writeEarlyData_guard (E : Engine σ) (l : Link σ) (data : Bytes) :
    (l.connection.state.isTerminal = true ∧
      l.writeEarlyData E data = (.error (.alreadyTerminated l.connection.state), l)) ∨
    (l.connection.state.isTerminal = false ∧ admitsEarlyData l.connection = false ∧
      l.writeEarlyData E data =
        (.error (.invalidState "write_early_data" l.connection.state), l)) ∨
    (admitsEarlyData l.connection = true ∧ LetThrough E l data (l.writeEarlyData E data)) := by
  rcases ht : l.connection.state.isTerminal with _ | _
  · have hlive := l.connection.ensureLive_of_live ht
    rcases hadm : admitsEarlyData l.connection with _ | _
    · refine Or.inr (Or.inl ⟨rfl, rfl, ?_⟩)
      simp [writeEarlyData, hlive, hadm, Connection.invalidState]
    · refine Or.inr (Or.inr ⟨rfl, ?_⟩)
      rcases writeEarlyData_cases E l data with
        ⟨-, -, hno, -⟩ | ⟨-, hnone, hw⟩ | ⟨-, hb, hd, ⟨e, l₁, hst, hw⟩ | ⟨l₁, hst, hw⟩⟩
      · cases hno.symm.trans hadm
      · rw [hw]
        exact .idle hnone
      · rw [hw]
        rcases startIfConfigured_cases E l (state_of_admitsEarlyData hadm) with
          ⟨-, hc⟩ | ⟨hs, hc⟩
        · cases (Prod.mk.inj (hst.symm.trans hc)).1
        · exact .notStarted hs (hc.symm.trans hst)
      · rw [hw]
        exact .called hb hd hst
  · refine Or.inl ⟨rfl, ?_⟩
    simp [writeEarlyData, l.connection.ensureLive_of_terminal ht]

/-- A connection that admits early data has not ended. -/
theorem not_terminal_of_admitsEarlyData (hadm : admitsEarlyData l.connection = true) :
    l.connection.state.isTerminal = false := by
  rcases state_of_admitsEarlyData hadm with hs | hs <;> rw [hs] <;> rfl

/-- A call over an engine that runs is never refused. -/
theorem isRefusal_of_drive {α : Type} (hr : ∃ s, l.connection.engine = .running s)
    {operation : String} {call : σ → Call (RawOutcome α × σ)} {e : TlsError}
    (he : (l.drive E operation call).1 = .error e) : e.isRefusal = false := by
  obtain ⟨s, hs⟩ := hr
  obtain ⟨raw, s', w, -, hd⟩ := drive_of_running E hs operation call
  rw [hd] at he
  exact isRefusal_of_resultOf E raw s' w (congrArg forget he)

/-- An error of a write that is let through is no refusal, or it is one of the start, for an engine
that was lost before. -/
theorem LetThrough.error (h : Coherent l) {x : PollResult Nat × Link σ}
    (hx : LetThrough E l data x) {e : TlsError} (he : x.1 = .error e) :
    e.isRefusal = false ∨ ∃ s, e = .invalidState "start" s := by
  cases hx with
  | idle _ => cases he
  | notStarted hs hst =>
    obtain rfl := Except.error.inj he
    rcases start_cases E l with ⟨e', -, he', hc⟩ | ⟨-, -, o, hc⟩ | ⟨-, s, o, hc⟩
    · obtain rfl := Except.error.inj (Prod.mk.inj (hst.symm.trans hc)).1
      rcases he' with rfl | ⟨rfl, -⟩
      · exact Or.inl rfl
      · exact Or.inr ⟨_, rfl⟩
    · obtain rfl := Except.error.inj (Prod.mk.inj (hst.symm.trans hc)).1
      exact Or.inl rfl
    · cases (Prod.mk.inj (hst.symm.trans hc)).1
  | @called l₁ hb hd hst =>
    rw [(count_eq _).1] at he
    refine Or.inl (isRefusal_of_drive ?_ he)
    -- the engine runs already, or has just been started
    by_cases hs : l.connection.state = .configured
    · exact (startIfConfigured_started h (Or.inl hs) hst).running
    · rw [startIfConfigured, if_neg hs] at hst
      obtain rfl := (Prod.mk.inj hst).2
      exact h.running hs

/-- **A write that is let through is not turned away**, for neither of the two reasons. -/
theorem LetThrough.ne_refused (h : Coherent l) {x : PollResult Nat × Link σ}
    (hx : LetThrough E l data x) (s : State) :
    x.1 ≠ .error (.alreadyTerminated s) ∧ x.1 ≠ .error (.invalidState "write_early_data" s) := by
  constructor
  · intro he
    rcases hx.error h he with hno | ⟨s', hno⟩ <;> cases hno
  · intro he
    rcases hx.error h he with hno | ⟨s', hno⟩
    · cases hno
    · injection hno with hoperation
      exact absurd hoperation (by decide)

/-- Early data is refused as coming after the end exactly if the connection has ended. -/
theorem writeEarlyData_ended_iff (h : Coherent l) (s : State) :
    (l.writeEarlyData E data).1 = .error (.alreadyTerminated s) ↔
      s = l.connection.state ∧ l.connection.state.isTerminal = true := by
  rcases writeEarlyData_guard E l data with ⟨ht, hw⟩ | ⟨ht, -, hw⟩ | ⟨hadm, hthrough⟩
  · rw [hw, Except.error.injEq, TlsError.alreadyTerminated.injEq, eq_comm, ht]
    exact (and_iff_left rfl).symm
  · rw [hw, ht]
    simp
  · refine iff_of_false (hthrough.ne_refused h s).1 fun hended => ?_
    cases hended.2.symm.trans (not_terminal_of_admitsEarlyData hadm)

/-- It is refused as out of place exactly if the connection goes on and does not admit it. -/
theorem writeEarlyData_misplaced_iff (h : Coherent l) (s : State) :
    (l.writeEarlyData E data).1 = .error (.invalidState "write_early_data" s) ↔
      s = l.connection.state ∧ l.connection.state.isTerminal = false ∧
        admitsEarlyData l.connection = false := by
  rcases writeEarlyData_guard E l data with ⟨ht, hw⟩ | ⟨ht, hno, hw⟩ | ⟨hadm, hthrough⟩
  · rw [hw, ht]
    simp
  · rw [hw, Except.error.injEq, TlsError.invalidState.injEq, eq_comm (a := s), ht, hno]
    simp
  · refine iff_of_false (hthrough.ne_refused h s).2 fun hmisplaced => ?_
    cases hmisplaced.2.2.symm.trans hadm

/-- It is let through exactly where the connection admits it. -/
theorem letThrough_iff (h : Coherent l) :
    LetThrough E l data (l.writeEarlyData E data) ↔ admitsEarlyData l.connection = true := by
  rcases writeEarlyData_guard E l data with ⟨ht, hw⟩ | ⟨-, hno, hw⟩ | ⟨hadm, hthrough⟩
  · refine iff_of_false (fun hthrough => ?_) fun hadm => ?_
    · exact (hthrough.ne_refused h _).1 (congrArg Prod.fst hw)
    · cases ht.symm.trans (not_terminal_of_admitsEarlyData hadm)
  · refine iff_of_false (fun hthrough => ?_) fun hadm => ?_
    · exact (hthrough.ne_refused h _).2 (congrArg Prod.fst hw)
    · cases hno.symm.trans hadm
  · exact iff_of_true hthrough hadm

end Writes

/-! ### Early data and the past -/

section Past

variable {E : Engine σ} {l : Link σ}

/-- **Early data is admitted before the start, and then while the window is open.** -/
theorem admitsEarlyData_iff (c : Connection σ) :
    admitsEarlyData c = true ↔
      c.state = .configured ∨ (c.state = .handshaking ∧ c.earlyDataWindow = true) := by
  unfold admitsEarlyData
  rcases c.state <;> simp

/-- At a coherent link an admission needs an open window. -/
theorem window_of_admitsEarlyData (h : Coherent l) (hadm : admitsEarlyData l.connection = true) :
    l.connection.earlyDataWindow = true := by
  rcases (admitsEarlyData_iff _).mp hadm with hs | ⟨-, hw⟩
  · exact (h.fresh hs).2.2.2
  · exact hw

/-- **While the window is open, early data is admitted unless the connection has failed.** To close
the connection, or to establish it, takes more than the window allows. -/
theorem admitsEarlyData_of_window (h : Coherent l) (hw : l.connection.earlyDataWindow = true)
    (hs : l.connection.state ≠ .errored) : admitsEarlyData l.connection = true := by
  have hno : l.connection.state.isEstablished = true → False := fun he =>
    Bool.noConfusion ((h.window he).symm.trans hw)
  rw [admitsEarlyData_iff]
  rcases hst : l.connection.state <;> rw [hst] at hno
  case configured => exact Or.inl rfl
  case handshaking => exact Or.inr ⟨rfl, hw⟩
  case errored => exact absurd hst hs
  all_goals exact absurd rfl hno

/-- **What is not admitted now is not admitted after any event.** -/
theorem step_not_admitsEarlyData (h : Coherent l) (hno : admitsEarlyData l.connection = false)
    (e : Event) : admitsEarlyData (l.step E e).2.connection = false := by
  by_contra hadm
  replace hadm : admitsEarlyData (l.step E e).2.connection = true := by simpa using hadm
  have h' := step_coherent E h e
  -- the window is open now, so it was open before
  have hw : l.connection.earlyDataWindow = true := by
    by_contra hw
    have hclosed := (step_window_iff E l e).mpr (Or.inl (by simpa using hw))
    cases hclosed.symm.trans (window_of_admitsEarlyData h' hadm)
  by_cases hs : l.connection.state = .errored
  · -- but a connection that has failed stays as it is
    have hstay := step_state_of_terminal E l e (by rw [hs]; rfl)
    rcases state_of_admitsEarlyData hadm with hs' | hs' <;>
      cases hs.symm.trans (hstay.symm.trans hs')
  · cases hno.symm.trans (admitsEarlyData_of_window h hw hs)

/-- **Nor is it admitted again in any run.** -/
theorem after_not_admitsEarlyData (h : Coherent l) (hno : admitsEarlyData l.connection = false)
    (later : List Event) : admitsEarlyData (l.after E later).connection = false :=
  (after_induct (P := fun l => Coherent l ∧ admitsEarlyData l.connection = false) E
    (fun _ e hl => ⟨step_coherent E hl.1 e, step_not_admitsEarlyData hl.1 hl.2 e⟩)
    ⟨h, hno⟩ later).2

/-- The edges that lead to an error are marked by fatal outcomes. -/
theorem Edge.isFatal_of_errored {op : Operation} {out : Outcome} {s : State}
    (hedge : Edge op out s .errored) : out.isFatal = true := by
  cases hedge with
  | fail _ hfatal => exact hfatal

/-- A connection comes to be in error by an operation that fails. -/
theorem step_ne_errored (hs : l.connection.state ≠ .errored) {e : Event} (hf : ¬Fails E l e) :
    (l.step E e).2.connection.state ≠ .errored := by
  cases e with
  | operation op =>
    intro he
    replace he : (l.perform E op).2.connection.state = .errored := he
    refine hf ⟨op, rfl, ?_⟩
    rcases (perform_lawful E l op).edge with hstay | hedge | ⟨-, -, hedge⟩
    · exact absurd (hstay.symm.trans he) hs
    · exact (he ▸ hedge).isFatal_of_errored
    · exact (he ▸ hedge).isFatal_of_errored
  | caller action => exact hs
  | elsewhere objects => exact hs

/-- **Early data goes on being admitted** as long as the handshake is not advanced and nothing
fails: starts may, and early data may have been written. -/
theorem after_admitsEarlyData (h : Coherent l) (hadm : admitsEarlyData l.connection = true)
    {later : List Event}
    (hno : ¬l.Happened E later fun l e => Advances E l e ∨ Fails E l e) :
    admitsEarlyData (l.after E later).connection = true := by
  -- the state alone is no invariant: it may go from configured to shaking hands
  have hkeep : Coherent (l.after E later) ∧
      (l.after E later).connection.earlyDataWindow = true ∧
      (l.after E later).connection.state ≠ .errored := by
    refine after_induct_of_not_happened
      (P := fun l => Coherent l ∧ l.connection.earlyDataWindow = true ∧
        l.connection.state ≠ .errored) E (fun l e hl hq => ?_) ⟨h, ?_, ?_⟩ hno
    · obtain ⟨hc, hw, hs⟩ := hl
      obtain ⟨hadvance, hfail⟩ := not_or.mp hq
      refine ⟨step_coherent E hc e, ?_, step_ne_errored hs hfail⟩
      by_contra hclosed
      rcases (step_window_iff E l e).mp (by simpa using hclosed) with hbefore | hnow
      · cases hbefore.symm.trans hw
      · exact hadvance hnow
    · exact window_of_admitsEarlyData h hadm
    · intro hs
      have hlive := not_terminal_of_admitsEarlyData hadm
      rw [hs] at hlive
      cases hlive
  exact admitsEarlyData_of_window hkeep.1 hkeep.2.1 hkeep.2.2

/-- **Early data is admitted after a run exactly before the start and, while it shakes hands, if the
handshake has not been advanced in the run.** -/
theorem admitsEarlyData_after_iff (hopen : l.connection.earlyDataWindow = true)
    (es : List Event) :
    admitsEarlyData (l.after E es).connection = true ↔
      (l.after E es).connection.state = .configured ∨
      ((l.after E es).connection.state = .handshaking ∧ ¬l.Happened E es (Advances E)) := by
  rw [admitsEarlyData_iff, ← window_after_iff E l hopen es]
  simp

/-- The states in which a connection has not ended and still does not admit early data. -/
theorem misplaced_after_iff (hopen : l.connection.earlyDataWindow = true) (es : List Event) :
    (l.after E es).connection.state.isTerminal = false ∧
        admitsEarlyData (l.after E es).connection = false ↔
      (l.after E es).connection.state = .established ∨
      (l.after E es).connection.state = .shuttingDown ∨
      ((l.after E es).connection.state = .handshaking ∧ l.Happened E es (Advances E)) := by
  rw [← Bool.not_eq_true (admitsEarlyData _), admitsEarlyData_after_iff hopen]
  rcases (l.after E es).connection.state <;> simp [State.isTerminal]

end Past

/-! ### The whole story -/

/-- **A write of early data is turned away**: the connection has ended, or it is too late. -/
def TurnsAway (E : Engine σ) (l : Link σ) (data : Bytes) : Prop :=
  ∃ s, (l.writeEarlyData E data).1 = .error (.alreadyTerminated s) ∨
    (l.writeEarlyData E data).1 = .error (.invalidState "write_early_data" s)

/-- A write is turned away exactly where early data is not admitted. -/
theorem turnsAway_iff {E : Engine σ} {l : Link σ} (h : Coherent l) (data : Bytes) :
    TurnsAway E l data ↔ admitsEarlyData l.connection = false := by
  unfold TurnsAway
  simp only [writeEarlyData_ended_iff h, writeEarlyData_misplaced_iff h]
  constructor
  · rintro ⟨s, ⟨-, ht⟩ | ⟨-, -, hno⟩⟩
    · rcases hadm : admitsEarlyData l.connection with _ | _
      · rfl
      · cases ht.symm.trans (not_terminal_of_admitsEarlyData hadm)
    · exact hno
  · intro hno
    rcases ht : l.connection.state.isTerminal with _ | _
    · exact ⟨_, Or.inr ⟨rfl, rfl, hno⟩⟩
    · exact ⟨_, Or.inl ⟨rfl, rfl⟩⟩

/-- **What holds of writes of early data after a run `es`** from a link that had just been made. -/
structure KeepsWindow (E : Engine σ) (start : Link σ) (es : List Event) (l : Link σ) : Prop where
  /-- A write is refused as coming after the end exactly if the connection is closed or has
  failed. -/
  ended : ∀ (data : Bytes) (s : State),
    (l.writeEarlyData E data).1 = .error (.alreadyTerminated s) ↔
      s = l.connection.state ∧ (l.connection.state = .closed ∨ l.connection.state = .errored)
  /-- It is refused as out of place exactly if the connection is established or is closing, or
  shakes hands and the handshake has been advanced before. -/
  misplaced : ∀ (data : Bytes) (s : State),
    (l.writeEarlyData E data).1 = .error (.invalidState "write_early_data" s) ↔
      s = l.connection.state ∧ (l.connection.state = .established ∨
        l.connection.state = .shuttingDown ∨
        (l.connection.state = .handshaking ∧ start.Happened E es (Advances E)))
  /-- In all other cases it is let through. -/
  admitted : ∀ data : Bytes, LetThrough E l data (l.writeEarlyData E data) ↔
    l.connection.state = .configured ∨
      (l.connection.state = .handshaking ∧ ¬start.Happened E es (Advances E))
  /-- It goes on being let through whatever happens, a failure and an advance apart. -/
  kept : (∃ data, LetThrough E l data (l.writeEarlyData E data)) → ∀ later,
    ¬l.Happened E later (fun l e => Advances E l e ∨ Fails E l e) → ∀ data : Bytes,
      LetThrough E (l.after E later) data ((l.after E later).writeEarlyData E data)
  /-- Once turned away, it is turned away for good. -/
  final : (∃ data, TurnsAway E l data) → ∀ (later : List Event) (data : Bytes),
    TurnsAway E (l.after E later) data ∧
      ¬LetThrough E (l.after E later) data ((l.after E later).writeEarlyData E data)

/-- **Early data may be written until the handshake is first advanced, and never again.** This holds
over any engine and after any run from a fresh connection. -/
theorem early_data_window (E : Engine σ) (config : Config) (pipe : Pipe)
    (objects : SessionObjects) (h : pipe.isReleased .engine = false) (es : List Event) :
    KeepsWindow E (fresh config pipe objects) es ((fresh config pipe objects).after E es) := by
  have hstart : Coherent (fresh config pipe objects : Link σ) := .of_fresh config pipe objects h
  have hl := after_coherent E hstart es
  refine ⟨fun data s => ?_, fun data s => ?_, fun data => ?_, ?_, ?_⟩
  · rw [writeEarlyData_ended_iff hl]
    rcases ((fresh config pipe objects).after E es).connection.state <;> simp [State.isTerminal]
  · rw [writeEarlyData_misplaced_iff hl, misplaced_after_iff rfl es]
  · rw [letThrough_iff hl, admitsEarlyData_after_iff rfl es]
  · rintro ⟨data₀, hthrough⟩ later hno data
    have hadm := (letThrough_iff hl).mp hthrough
    exact (letThrough_iff (after_coherent E hl later)).mpr (after_admitsEarlyData hl hadm hno)
  · rintro ⟨data₀, haway⟩ later data
    have hno := after_not_admitsEarlyData (E := E) hl ((turnsAway_iff hl data₀).mp haway) later
    have hlater := after_coherent E hl later
    refine ⟨(turnsAway_iff hlater data).mpr hno, fun hthrough => ?_⟩
    cases hno.symm.trans ((letThrough_iff hlater).mp hthrough)

/-! ### A second handshake -/

/-- An engine that takes all the early data that it is given and is done with a handshake at
once. -/
def prompt : Engine Unit :=
  { Engine.waiting () with
    handshake := fun s => .done (.done (), s)
    writeEarlyData := fun data s => .done (.done data.length, s) }

/-- Early data is written, and the connection is established and negotiates anew. -/
def startedAnew : List Event :=
  [.operation (.configure { Config.initial with session := some fiveBytes }),
    .operation (.writeEarlyData [1, 2, 3]), .operation .advanceHandshake, .operation .renegotiate]

/-- **A second handshake has no time for early data**, although the connection shakes hands again
and the budget is not spent. -/
theorem early_data_refused_in_second_handshake :
    Pipe.default.isReleased .engine = false ∧
      earlyDataBudget ((fresh .initial .default .empty).after prompt startedAnew).connection = 2 ∧
      (((fresh .initial .default .empty).after prompt startedAnew).writeEarlyData prompt [4]).1 =
        .error (.invalidState "write_early_data" .handshaking) ∧
      KeepsWindow prompt (fresh .initial .default .empty) startedAnew
        ((fresh .initial .default .empty).after prompt startedAnew) :=
  ⟨rfl, by decide +kernel, by decide +kernel,
    early_data_window prompt .initial .default .empty rfl _⟩

end Link

end SocketlessTls
