import Mathlib.Data.List.Induction
import SocketlessTls.Proofs.Connection.Keeping
import SocketlessTls.Proofs.Connection.Lifecycle
import SocketlessTls.Transparent.Engine

/-!
# What holds of every connection that can be reached

A connection that has just been made is coherent, every event keeps it so, and hence it is coherent
after every run. Two of its fields remember more than the present state: the record tells whether a
connection that has failed had been established, and a lost engine tells that it could once not be
joined to the pipe. Both are said of the run as a whole.

* `SocketlessTls.Link.FailsEstablished`, `SocketlessTls.Link.LosesEngine` – the events that a run is
  searched for;
* `SocketlessTls.Link.Reached` – what holds of a connection that a run has reached;
* `SocketlessTls.Link.reached` – it holds after every run.
-/

namespace SocketlessTls

namespace Link

variable {σ : Type}

/-- A connection that is established, and not closed, fails by an event. -/
def FailsEstablished (E : Engine σ) (l : Link σ) (e : Event) : Prop :=
  (l.connection.state = .established ∨ l.connection.state = .shuttingDown) ∧
    (l.step E e).2.connection.state = .errored

/-- An event would start the engine, which cannot be joined to the pipe. -/
def LosesEngine (E : Engine σ) (l : Link σ) (e : Event) : Prop :=
  (∃ op, e = .operation op ∧ op.WouldStart l.connection) ∧ l.connection.engine = .idle ∧
    CannotAttach E l

/-! ### Events -/

section Steps

variable (E : Engine σ) {l : Link σ}

/-- The owner of the caller endpoint cannot give up the engine's. -/
theorem isReleased_caller (p : Pipe) (action : Pipe.Action) :
    (p.step ⟨.caller, action⟩).2.isReleased .engine = p.isReleased .engine := by
  rcases (p.step_effect ⟨.caller, action⟩).isReleased_eq .engine with h | ⟨h, -⟩
  · exact h
  · cases h

/-- **Every event keeps a link coherent.** -/
theorem step_coherent (h : Coherent l) (e : Event) : Coherent (l.step E e).2 := by
  cases e with
  | operation op => exact (perform_keeps E h op).coherent
  | caller action => exact h.of_connection_eq rfl (isReleased_caller l.pipe action)
  | elsewhere objects => exact h.of_connection_eq rfl rfl

/-- Nothing leads back to the first state. -/
theorem step_ne_configured (hs : l.connection.state ≠ .configured) (e : Event) :
    (l.step E e).2.connection.state ≠ .configured := by
  cases e with
  | operation op =>
    intro hc
    rcases (perform_lawful E l op).edge with he | he | ⟨hc', -, -⟩
    · exact hs (he.symm.trans hc)
    · exact he.ne_configured hc
    · exact hs hc'
  | caller action => exact hs
  | elsewhere objects => exact hs

/-- Once the handshake has started, no event changes the configuration. -/
theorem step_config (h : Coherent l) (hs : l.connection.state ≠ .configured) (e : Event) :
    (l.step E e).2.connection.config = l.connection.config := by
  cases e with
  | operation op => exact (perform_keeps E h op).config hs
  | caller action => rfl
  | elsewhere objects => rfl

/-- A failure leaves the record as it was. -/
theorem step_info (h : Coherent l) (e : Event)
    (he : (l.step E e).2.connection.state = .errored) :
    (l.step E e).2.connection.info = l.connection.info := by
  cases e with
  | operation op => exact (perform_keeps E h op).info he
  | caller action => rfl
  | elsewhere objects => rfl

/-- **The engine is lost after an event if it was lost before, or is lost by it.** -/
theorem step_detached_iff (h : Coherent l) (e : Event) :
    (l.step E e).2.connection.engine = .detached ↔
      l.connection.engine = .detached ∨ LosesEngine E l e := by
  constructor
  · intro hd
    cases e with
    | operation op =>
      rcases (perform_keeps E h op).lost hd with hd | ⟨ho, hidle, hno⟩
      · exact Or.inl hd
      · exact Or.inr ⟨⟨op, rfl, ho⟩, hidle, hno⟩
    | caller action => exact Or.inl hd
    | elsewhere objects => exact Or.inl hd
  · rintro (hd | ⟨⟨op, rfl, ho⟩, hidle, hno⟩)
    · cases e with
      | operation op => exact (perform_keeps E h op).detached hd
      | caller action => exact hd
      | elsewhere objects => exact hd
    · exact perform_detached E h ho hidle hno

end Steps

/-! ### Runs -/

section Runs

variable (E : Engine σ) {l : Link σ} (h : Coherent l)
include h

/-- **Every run keeps a link coherent.** -/
theorem after_coherent (es : List Event) : Coherent (l.after E es) :=
  after_induct (P := Coherent) E (fun _ e h => step_coherent E h e) h es

/-- The configuration is the same for the rest of a run. -/
theorem after_config (hs : l.connection.state ≠ .configured) (es : List Event) :
    (l.after E es).connection.config = l.connection.config := by
  induction es generalizing l with
  | nil => rfl
  | cons e es ih =>
    rw [after_cons, ih (step_coherent E h e) (step_ne_configured E hs e), step_config E h hs]

omit h in
/-- A connection that has failed at some point of a run has failed at its end. -/
theorem errored_of_happened {es : List Event} (hf : l.Happened E es (FailsEstablished E)) :
    (l.after E es).connection.state = .errored := by
  obtain ⟨before, e, later, rfl, -, he⟩ := hf
  rw [after_append, after_cons, after_state_of_terminal E _ (by rw [he]; rfl), he]

/-- **A connection that has failed has a record exactly if it failed when it was established**, by
induction on the run: the record says so at the moment of the failure, and then nothing changes. -/
theorem info_of_errored (hs : l.connection.state ≠ .errored) (es : List Event)
    (he : (l.after E es).connection.state = .errored) :
    (l.after E es).connection.info.isSome = true ↔ l.Happened E es (FailsEstablished E) := by
  induction es using List.reverseRecOn with
  | nil => exact absurd he hs
  | append_singleton es e ih =>
    have hc := after_coherent E h es
    rw [after_concat] at he ⊢
    rw [happened_concat, step_info E hc e he]
    by_cases hbefore : (l.after E es).connection.state = .errored
    -- it had failed before, and does not fail again
    · rw [ih hbefore]
      refine ⟨Or.inl, ?_⟩
      rintro (hf | ⟨hlive, -⟩)
      · exact hf
      · rw [hbefore] at hlive
        rcases hlive with hlive | hlive <;> cases hlive
    -- it fails now, and the record still says what it was
    · rw [hc.info hbefore]
      constructor
      · intro hest
        refine Or.inr ⟨?_, he⟩
        rcases hst : (l.after E es).connection.state <;> rw [hst] at hest
        case established => exact Or.inl rfl
        case shuttingDown => exact Or.inr rfl
        case closed =>
          -- a closed connection cannot fail any more
          have hfinal := step_state_of_terminal E (l.after E es) e (by rw [hst]; rfl)
          rw [he, hst] at hfinal
          cases hfinal
        all_goals cases hest
      · rintro (hf | ⟨hlive, -⟩)
        · exact absurd (errored_of_happened E hf) hbefore
        · rcases hlive with hlive | hlive <;> rw [hlive] <;> rfl

/-- **The engine is lost after a run exactly if it was lost at some point of it.** -/
theorem detached_after_iff (hd : l.connection.engine ≠ .detached) (es : List Event) :
    (l.after E es).connection.engine = .detached ↔ l.Happened E es (LosesEngine E) := by
  induction es using List.reverseRecOn with
  | nil => exact iff_of_false hd (not_happened_nil E l _)
  | append_singleton es e ih =>
    rw [after_concat, happened_concat, step_detached_iff E (after_coherent E h es), ih]

end Runs

/-! ### Questions to a coherent connection -/

section Questions

variable {E : Engine σ} {l : Link σ} (h : Coherent l)
include h

/-- An established connection has its engine and its record at hand. -/
theorem negotiated_of_isEstablished (hs : l.connection.state.isEstablished = true) :
    ∃ s n, l.connection.engine = .running s ∧ l.connection.info = some n ∧
      ∀ what, l.connection.establishedEngine what = .ok s ∧
        l.connection.negotiated what = .ok n := by
  obtain ⟨s, hr⟩ := h.running_of_isEstablished hs
  obtain ⟨n, hn⟩ := h.info_of_isEstablished hs
  have hne : l.connection.ensureNotErrored = .ok () := by
    rw [Connection.ensureNotErrored, if_neg (ne_errored_of_isEstablished hs)]
  refine ⟨s, n, hr, hn, fun what => ?_⟩
  have hengine : l.connection.establishedEngine what = .ok s := by
    simp [Connection.establishedEngine, hne, hs, hr, bind, Except.bind]
  exact ⟨hengine, by simp [Connection.negotiated, hengine, hn, bind, Except.bind]⟩

/-- **An established connection answers every question now**: none is answered by that the answer is
not yet available. -/
theorem answer_ne_notYetAvailable (hs : l.connection.state.isEstablished = true)
    (o : SessionObjects) (q : Question) (what : String) :
    q.answer E l.connection o ≠ .error (.notYetAvailable what) := by
  intro ha
  have hu := Question.answer_error ha
  cases hu with
  | lacking _ hl =>
    obtain ⟨s, n, hr, hn, -⟩ := negotiated_of_isEstablished h hs
    rcases hl with hl | hl | hl
    · exact Bool.noConfusion (hl.symm.trans hs)
    · exact hl s hr
    · rw [hn] at hl
      cases hl

/-- After the start the cipher is the one recorded, or else the one remembered, or else the one that
the engine tells, which is there to be asked. -/
theorem cipher_of_ne_configured (hs : l.connection.state ≠ .configured) :
    ∃ s, l.connection.engine = .running s ∧ l.connection.cipher E = .ok
      (match l.connection.info with
        | some n => n.cipher
        | none => l.connection.captured.or (E.currentCipher s)) := by
  obtain ⟨s, hr⟩ := h.running hs
  refine ⟨s, hr, ?_⟩
  rcases hi : l.connection.info with _ | n
  · rcases hc : l.connection.captured with _ | c <;> simp [Connection.cipher, hs, hi, hc, hr]
  · simp [Connection.cipher, hs, hi]

end Questions

/-! ### Reachable connections -/

/-- **What holds of a link `l` that a run `es` has reached** from a link that had just been made. -/
structure Reached (E : Engine σ) (start : Link σ) (es : List Event) (l : Link σ) : Prop where
  coherent : Coherent l
  /-- The record is there while the connection is established, and after a failure if it was so
  before. -/
  info : l.connection.info.isSome = true ↔ l.connection.state.isEstablished = true ∨
    (l.connection.state = .errored ∧ start.Happened E es (FailsEstablished E))
  /-- The engine is lost, and its end of the pipe with it, exactly if the two could not be
  joined. -/
  detached : l.connection.engine = .detached ↔ start.Happened E es (LosesEngine E)
  /-- The configuration never changes again once the handshake has started. -/
  config : l.connection.state ≠ .configured →
    ∀ later, (l.after E later).connection.config = l.connection.config
  /-- No operation that belongs finds the engine or the record missing; only a lost engine cannot be
  started again. -/
  placed : ∀ op : Operation, op.Belongs l.connection → (l.perform E op).1.isMisplaced = true →
    l.connection.engine = .detached ∧
      (l.perform E op).1.error? = some (.invalidState "start" .configured)
  /-- Nor does the question for the cipher. -/
  cipher : l.connection.state ≠ .configured →
    ∃ s, l.connection.engine = .running s ∧ l.connection.cipher E = .ok
      (match l.connection.info with
        | some n => n.cipher
        | none => l.connection.captured.or (E.currentCipher s))
  /-- Nor do the other questions of an established connection. -/
  negotiated : l.connection.state.isEstablished = true →
    ∃ s n, l.connection.engine = .running s ∧ l.connection.info = some n ∧
      ∀ what, l.connection.establishedEngine what = .ok s ∧ l.connection.negotiated what = .ok n
  /-- Which therefore answers all questions. -/
  answers : l.connection.state.isEstablished = true → ∀ (o : SessionObjects) (q : Question)
    (what : String), q.answer E l.connection o ≠ .error (.notYetAvailable what)

/-- **Reachable connections.** Over any engine, and over any pipe whose engine end has not been
given up, a connection that has just been made is after any run as `SocketlessTls.Link.Reached`
says. -/
theorem reached (E : Engine σ) (config : Config) (pipe : Pipe) (objects : SessionObjects)
    (h : pipe.isReleased .engine = false) (es : List Event) :
    Reached E (fresh config pipe objects) es ((fresh config pipe objects).after E es) := by
  have hstart : Coherent (fresh config pipe objects : Link σ) := .of_fresh config pipe objects h
  have hc := after_coherent E hstart es
  exact {
    coherent := hc
    info := by
      by_cases he : ((fresh config pipe objects).after E es).connection.state = .errored
      · rw [info_of_errored E hstart (by nofun) es he, he]
        exact ⟨fun hf => Or.inr ⟨rfl, hf⟩, fun hf => hf.elim (by nofun) And.right⟩
      · rw [hc.info he]
        exact ⟨Or.inl, fun hf => hf.elim id (fun hf => absurd hf.1 he)⟩
    detached := detached_after_iff E hstart (by nofun) es
    config := after_config E hc
    placed := fun op => (perform_keeps E hc op).placed
    cipher := cipher_of_ne_configured hc
    negotiated := negotiated_of_isEstablished hc
    answers := answer_ne_notYetAvailable hc }

/-- Over the default pipe, whose ends are both there, and with the engine of this library. -/
theorem reached_over_default_pipe :
    Pipe.default.isReleased .engine = false ∧
      Reached Transparent.engine (fresh .initial .default .empty)
        [.operation .advanceHandshake, .caller .release, .operation .advanceHandshake]
        ((fresh .initial .default .empty).after Transparent.engine
          [.operation .advanceHandshake, .caller .release, .operation .advanceHandshake]) :=
  ⟨rfl, reached Transparent.engine .initial .default .empty rfl _⟩

end Link

end SocketlessTls
