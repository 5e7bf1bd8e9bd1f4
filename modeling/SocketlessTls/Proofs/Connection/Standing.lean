import SocketlessTls.Proofs.Connection.Course

/-!
# Where a connection stands

What is admitted at a connection depends on a few of its fields only, and neither the state of the
engine nor the cipher that is remembered is among them. Two links that agree in these fields have
the connection stand at the same place (`SocketlessTls.Link.SameStanding`): the same operations
belong there, the same ones reach the engine, and the same questions have no answer.

An operation may do something before it calls the engine, which is to start it and to close the
window for early data, and something afterwards with the result of the call. So what a call has
done is measured against the link as the call finds it, `SocketlessTls.Link.atCall`. Nothing is done
afterwards where the call ends in an error: this error is the operation's, and the link that the
call has left is the one that the operation leaves (`SocketlessTls.Link.perform_of_error`).
-/

namespace SocketlessTls

namespace Link

variable {σ : Type}

/-! ### Where a connection stands -/

/-- **A connection stands where it stood**: nothing by which operations are admitted has changed. -/
structure SameStanding (l l' : Link σ) : Prop where
  started : l.connection.state ≠ .configured
  state : l'.connection.state = l.connection.state
  config : l'.connection.config = l.connection.config
  info : l'.connection.info = l.connection.info
  window : l'.connection.earlyDataWindow = l.connection.earlyDataWindow
  sent : l'.connection.earlyDataSent = l.connection.earlyDataSent

namespace SameStanding

variable {l l' l'' : Link σ}

theorem refl (h : l.connection.state ≠ .configured) : SameStanding l l :=
  ⟨h, rfl, rfl, rfl, rfl, rfl⟩

theorem trans (h : SameStanding l l') (h' : SameStanding l' l'') : SameStanding l l'' :=
  ⟨h.started, h'.state.trans h.state, h'.config.trans h.config, h'.info.trans h.info,
    h'.window.trans h.window, h'.sent.trans h.sent⟩

theorem started' (h : SameStanding l l') : l'.connection.state ≠ .configured := by
  rw [h.state]
  exact h.started

/-- The same operations belong there. -/
theorem belongs_iff (h : SameStanding l l') (op : Operation) :
    op.Belongs l'.connection ↔ op.Belongs l.connection := by
  cases op <;> simp only [Operation.Belongs, admitsEarlyData, h.state, h.window]

/-- The same operations reach the engine. -/
theorem reaches_iff (h : SameStanding l l') (E : Engine σ) (op : Operation) :
    op.Reaches E l' ↔ op.Reaches E l := by
  have hstart : (∃ l₁, l'.startIfConfigured E = (.ok (), l₁)) ↔
      ∃ l₁, l.startIfConfigured E = (.ok (), l₁) := by
    rw [startIfConfigured, if_neg h.started', startIfConfigured, if_neg h.started]
    exact ⟨fun _ => ⟨l, rfl⟩, fun _ => ⟨l', rfl⟩⟩
  cases op <;> simp only [Operation.Reaches, admitsEarlyData, earlyDataBudget, hstart, h.state,
    h.window, h.config, h.sent]

/-- The same questions have no answer, if the engine runs, and for the same reasons. -/
theorem unanswered_iff (h : SameStanding l l') (hr : ∃ s, l.connection.engine = .running s)
    (hr' : ∃ s, l'.connection.engine = .running s) (e : TlsError) :
    l'.connection.Unanswered e ↔ l.connection.Unanswered e := by
  have hlacks : l'.connection.Lacks ↔ l.connection.Lacks := by
    obtain ⟨s, hs⟩ := hr
    obtain ⟨s', hs'⟩ := hr'
    simp [Connection.Lacks, h.state, h.info, hs, hs']
  constructor
  · rintro (hf | ⟨what, hl⟩ | _)
    · exact .failed (h.state.symm.trans hf)
    · exact .lacking what (hlacks.mp hl)
    · exact .engine
  · rintro (hf | ⟨what, hl⟩ | _)
    · exact .failed (h.state.trans hf)
    · exact .lacking what (hlacks.mpr hl)
    · exact .engine

end SameStanding

/-! ### Where an engine call finds a connection -/

/-- Where the engine has been started and the window is closed, a call finds the link as it is. -/
theorem atCall_of_started (E : Engine σ) {l : Link σ} (h : l.connection.state ≠ .configured)
    {op : Operation} (hw : op = .advanceHandshake → l.connection.earlyDataWindow = false) :
    l.atCall E op = l := by
  cases op with
  | advanceHandshake =>
    rw [atCall, startIfConfigured, if_neg h]
    obtain ⟨c, pipe, objects⟩ := l
    obtain ⟨_, _, _, _, _, _, window, _⟩ := c
    obtain rfl : window = false := hw rfl
    rfl
  | writeEarlyData data => rw [atCall, startIfConfigured, if_neg h]
  | _ => rfl

section Calls

variable {E : Engine σ} {l : Link σ} {op : Operation}

/-- A start on demand leaves the window for early data as it was, whether it fails or not. -/
theorem startIfConfigured_window {result : Except TlsError Unit} {l₁ : Link σ}
    (hst : l.startIfConfigured E = (result, l₁)) :
    l₁.connection.earlyDataWindow = l.connection.earlyDataWindow := by
  unfold startIfConfigured at hst
  split_ifs at hst
  · rcases start_cases E l with ⟨e, -, -, hc⟩ | ⟨-, -, o, hc⟩ | ⟨-, s, o, hc⟩
    all_goals
      obtain rfl := (Prod.mk.inj (hst.symm.trans hc)).2
      rfl
  · obtain rfl := (Prod.mk.inj hst).2
    rfl

/-- An operation that reaches the engine does so too where its call finds the link. -/
theorem reaches_atCall (h : Coherent l) (hr : op.Reaches E l) : op.Reaches E (l.atCall E op) := by
  have hne := (atCall_coherent h hr).2
  have hstarted : ∃ l₁, (l.atCall E op).startIfConfigured E = (.ok (), l₁) :=
    ⟨_, by rw [startIfConfigured, if_neg hne]⟩
  cases op with
  | advanceHandshake =>
    obtain ⟨hs, l₁, hst⟩ := hr
    refine ⟨Or.inr ?_, hstarted⟩
    rw [atCall, hst]
    exact (startIfConfigured_started h hs hst).state
  | writeEarlyData data =>
    obtain ⟨hadm, hb, hd, l₁, hst⟩ := hr
    have hs := state_of_admitsEarlyData hadm
    have hwindow : l₁.connection.earlyDataWindow = true := by
      rw [startIfConfigured_window hst]
      rcases hs with hs | hs
      · exact (h.fresh hs).2.2.2
      · simpa [admitsEarlyData, hs] using hadm
    have hstart := startIfConfigured_frame E hs hst
    refine ⟨?_, ?_, hd, hstarted⟩
    all_goals rw [atCall, hst]
    · simp only [admitsEarlyData, (startIfConfigured_started h hs hst).state, hwindow]
    · rwa [earlyDataBudget, hstart.config, hstart.sent]
  | _ => exact hr

/-- A connection whose engine is called is not in error. -/
theorem ne_errored_of_reaches (hr : op.Reaches E l) : l.connection.state ≠ .errored := by
  intro he
  cases op with
  | advanceHandshake => rcases hr.1 with hs | hs <;> cases he.symm.trans hs
  | write data => cases he.symm.trans hr.1
  | writeEarlyData data =>
    rcases state_of_admitsEarlyData hr.1 with hs | hs <;> cases he.symm.trans hs
  | read max granted => exact ne_errored_of_isEstablished (isEstablished_of_readStates hr.1) he
  | readInto buffer => exact ne_errored_of_isEstablished (isEstablished_of_readStates hr.1) he
  | shutdown => rcases hr with hs | hs <;> cases he.symm.trans hs
  | _ => exact hr

/-- **An error of an operation that has reached the engine is that of its call**, and the link is as
the call has left it. The one error that comes after the call is for a chain that cannot be read. -/
theorem perform_of_error (h : Coherent l) (hr : op.Reaches E l) {e : TlsError} (he : e ≠ .engine)
    (hp : (l.perform E op).1.poll = .error e) :
    ∃ (α : Type) (operation : String) (call : σ → Call (RawOutcome α × σ)), op.Makes E l call ∧
      ((l.atCall E op).drive E operation call).1 = .error e ∧
        (l.perform E op).2 = ((l.atCall E op).drive E operation call).2 := by
  obtain ⟨α, operation, call, hmakes, hc⟩ := perform_concludes h hr
  rcases hc.poll with hpoll | ⟨-, -, -, hpoll⟩
  · have herror := error_of_forget (hpoll.symm.trans hp)
    exact ⟨α, operation, call, hmakes, herror, hc.error e herror⟩
  · exact absurd (Except.error.inj (hp.symm.trans hpoll)) he

end Calls

end Link

end SocketlessTls
