import SocketlessTls.Proofs.Connection.Operations

/-!
# Connections that remember different ciphers

A connection may remember the cipher that it saw while it was shaking hands. This file shows that
nothing depends on that but the answer to the question which cipher it is. Two links are *alike* if
they differ at most in what their connections remember of ciphers, and whatever happens to two links
that are alike comes to the same and leaves them alike.

* `SocketlessTls.Link.Alike` – two links that are alike;
* `SocketlessTls.Link.Alike.step` – whatever happens comes to the same;
* `SocketlessTls.Link.Alike.after` – and so does every run.
-/

namespace SocketlessTls

/-! ### Connections -/

/-- What is fixed when a handshake completes, the cipher apart. -/
def Negotiated.peer (n : Negotiated) : ProtocolVersion × Option PeerChain := (n.version, n.chain)

namespace Connection

variable {σ : Type}

/-- **Two connections are alike** if they differ at most in what they remember of ciphers. -/
structure Alike (c c' : Connection σ) : Prop where
  config : c'.config = c.config
  state : c'.state = c.state
  engine : c'.engine = c.engine
  info : c'.info.map Negotiated.peer = c.info.map Negotiated.peer
  earlyDataWindow : c'.earlyDataWindow = c.earlyDataWindow
  earlyDataSent : c'.earlyDataSent = c.earlyDataSent

namespace Alike

variable {c c' : Connection σ}

/-- Connections that are alike, as one connection with other memories. -/
theorem exists_eq (h : Alike c c') :
    ∃ captureMode captured info, info.map Negotiated.peer = c.info.map Negotiated.peer ∧
      c' = { c with captureMode, captured, info } := by
  obtain ⟨config, state, engine, captureMode, captured, info, window, sent⟩ := c'
  obtain ⟨rfl, rfl, rfl, hi, rfl, rfl⟩ := h
  exact ⟨captureMode, captured, info, hi, rfl⟩

/-- A look at the engine's cipher keeps connections alike. -/
theorem observe (h : Alike c c') (E : Engine σ) (s : σ) :
    Alike (c.observe E s) (c'.observe E s) := by
  rw [observe_eq c, observe_eq c']
  exact ⟨h.config, h.state, h.engine, h.info, h.earlyDataWindow, h.earlyDataSent⟩

/-- So does an engine call. -/
theorem afterCall {α : Type} (h : Alike c c') (E : Engine σ) (s : σ) (result : PollResult α) :
    Alike (c.afterCall E s result) (c'.afterCall E s result) where
  config := h.config
  state := by
    show (if Link.isFatal result then State.errored else c'.state) =
      if Link.isFatal result then State.errored else c.state
    rw [h.state]
  engine := rfl
  info := h.info
  earlyDataWindow := h.earlyDataWindow
  earlyDataSent := h.earlyDataSent

/-- What is asked of the record, other than its cipher, is the same. -/
theorem map_negotiated (h : Alike c c') {α : Type} {f : Negotiated → α}
    {g : ProtocolVersion × Option PeerChain → α} (hf : ∀ n, f n = g n.peer) (what : String) :
    f <$> c'.negotiated what = f <$> c.negotiated what := by
  obtain ⟨captureMode, captured, info, hi, rfl⟩ := h.exists_eq
  have hengine : establishedEngine { c with captureMode, captured, info } what =
      c.establishedEngine what := rfl
  rcases he : c.establishedEngine what with e | s <;> rw [he] at hengine
  · simp only [negotiated, he, hengine, bind, Except.bind]
  · simp only [negotiated, he, hengine, bind, Except.bind]
    rcases info with _ | n
    · rcases hc : c.info with _ | n'
      · rfl
      · rw [hc] at hi
        cases hi
    · rcases hc : c.info with _ | n'
      · rw [hc] at hi
        cases hi
      · rw [hc] at hi
        have hn : n.peer = n'.peer := Option.some.inj hi
        exact congrArg Except.ok ((hf n).trans ((congrArg g hn).trans (hf n').symm))

/-- **Connections that are alike answer every question alike**, except which cipher they have. Only
two of the others look at the record at all. -/
theorem answer (h : Alike c c') (E : Engine σ) (o : SessionObjects) {q : Question}
    (hq : q ≠ .cipher) : q.answer E c' o = q.answer E c o := by
  have hversion := h.map_negotiated (g := Prod.fst) (fun _ => rfl) "protocol version"
  have hchain := h.map_negotiated (g := Prod.snd) (fun _ => rfl) "peer certificate chain"
  obtain ⟨captureMode, captured, info, -, rfl⟩ := h.exists_eq
  cases q with
  | protocolVersion => exact congrArg (Finding.version <$> ·) hversion
  | peerCertChain => exact congrArg (Finding.chain <$> ·) hchain
  | cipher => exact absurd rfl hq
  | _ => rfl

end Alike

end Connection

/-! ### Links -/

namespace Link

variable {σ : Type}

/-- **Two links are alike** if their connections are, over the same pipe and among the same session
objects. -/
structure Alike (l l' : Link σ) : Prop where
  connection : l.connection.Alike l'.connection
  pipe : l'.pipe = l.pipe
  objects : l'.objects = l.objects

/-- The same result, with links that are alike. -/
inductive Same {α : Type} : α × Link σ → α × Link σ → Prop
  | intro (a : α) {l l' : Link σ} (h : Alike l l') : Same (a, l) (a, l')

namespace Same

variable {α β : Type} {x y : α × Link σ}

theorem fst (h : Same x y) : y.1 = x.1 := by
  cases h
  rfl

theorem snd (h : Same x y) : Alike x.2 y.2 := by
  cases h with
  | intro _ h => exact h

end Same

namespace Alike

variable {l l' : Link σ} (h : Alike l l') (E : Engine σ)
include h

/-- Links that are alike, as one link with other memories. -/
theorem exists_eq :
    ∃ captureMode captured info,
      info.map Negotiated.peer = l.connection.info.map Negotiated.peer ∧
      l' = { l with connection := { l.connection with captureMode, captured, info } } := by
  obtain ⟨captureMode, captured, info, hi, hc⟩ := h.connection.exists_eq
  obtain ⟨c', pipe, objects⟩ := l'
  obtain ⟨-, rfl, rfl⟩ := h
  obtain rfl : c' = _ := hc
  exact ⟨captureMode, captured, info, hi, rfl⟩

/-- Guards let links that are alike pass alike. -/
theorem require (operation : String) (allowed : List State) :
    l'.connection.require operation allowed = l.connection.require operation allowed := by
  obtain ⟨m, k, i, -, rfl⟩ := h.exists_eq
  rfl

theorem ensureLive : l'.connection.ensureLive = l.connection.ensureLive := by
  obtain ⟨m, k, i, -, rfl⟩ := h.exists_eq
  rfl

theorem configMut : l'.connection.configMut = l.connection.configMut := by
  obtain ⟨m, k, i, -, rfl⟩ := h.exists_eq
  rfl

theorem invalidState (operation : String) :
    l'.connection.invalidState operation = l.connection.invalidState operation := by
  obtain ⟨m, k, i, -, rfl⟩ := h.exists_eq
  rfl

theorem establishedEngine (what : String) :
    l'.connection.establishedEngine what = l.connection.establishedEngine what := by
  obtain ⟨m, k, i, -, rfl⟩ := h.exists_eq
  rfl

theorem closeWindow : Alike l.closeWindow l'.closeWindow where
  connection := ⟨h.connection.config, h.connection.state, h.connection.engine, h.connection.info,
    rfl, h.connection.earlyDataSent⟩
  pipe := h.pipe
  objects := h.objects

theorem withState (s : State) : Alike (l.withState s) (l'.withState s) where
  connection := ⟨h.connection.config, rfl, h.connection.engine, h.connection.info,
    h.connection.earlyDataWindow, h.connection.earlyDataSent⟩
  pipe := h.pipe
  objects := h.objects

/-! ### The pieces -/

theorem drive {α : Type} (operation : String) (call : σ → Call (RawOutcome α × σ)) :
    Same (l.drive E operation call) (l'.drive E operation call) := by
  by_cases hr : ∃ s, l.connection.engine = .running s
  · obtain ⟨s, hs⟩ := hr
    obtain ⟨raw, s₁, w, hrun, hd⟩ := drive_of_running E hs operation call
    obtain ⟨raw', s₁', w', hrun', hd'⟩ :=
      drive_of_running E (h.connection.engine.trans hs) operation call
    rw [h.pipe, h.objects, hrun] at hrun'
    cases hrun'
    rw [hd, hd']
    exact .intro _ ⟨h.connection.afterCall E _ _, rfl, rfl⟩
  · rw [drive_of_not_running E (fun s hs => hr ⟨s, hs⟩),
      drive_of_not_running E (fun s hs => hr ⟨s, h.connection.engine.symm.trans hs⟩),
      h.connection.state]
    exact .intro _ h

/-- Starting reads the configuration, the engine, the pipe and the objects, which are the same. -/
theorem start : Same (l.start E) (l'.start E) := by
  have hconfig := h.connection.config
  rcases he : l.connection.engine with _ | s | _
  · have he' := h.connection.engine.trans he
    rcases hb : E.build? l.connection.config with _ | built
    · simp only [Link.start, he, he', hconfig, hb]
      exact .intro _ h
    rcases hc : copySession? l.connection.config.session l.objects with _ | ⟨copy, objects⟩
    · simp only [Link.start, he, he', hconfig, h.objects, hb, hc]
      exact .intro _ h
    rcases hp : E.prepare? l.connection.config copy built with _ | prepared
    · simp only [Link.start, he, he', hconfig, h.objects, hb, hc, hp]
      exact .intro _ h
    rcases ha : E.attach? prepared with _ | s
    · simp only [Link.start, he, he', hconfig, h.objects, h.pipe, hb, hc, hp, ha]
      exact .intro _ ⟨⟨rfl, h.connection.state, rfl, h.connection.info,
        h.connection.earlyDataWindow, h.connection.earlyDataSent⟩, rfl, rfl⟩
    · simp only [Link.start, he, he', hconfig, h.objects, hb, hc, hp, ha]
      exact .intro _ ⟨⟨rfl, rfl, rfl, h.connection.info, h.connection.earlyDataWindow,
        h.connection.earlyDataSent⟩, h.pipe, rfl⟩
  · simp only [Link.start, he, h.connection.engine.trans he, h.invalidState]
    exact .intro _ h
  · simp only [Link.start, he, h.connection.engine.trans he, h.invalidState]
    exact .intro _ h

theorem startIfConfigured : Same (l.startIfConfigured E) (l'.startIfConfigured E) := by
  unfold Link.startIfConfigured
  rw [h.connection.state]
  split
  · exact h.start E
  · exact .intro _ h

theorem completeHandshake : Same (l.completeHandshake E) (l'.completeHandshake E) := by
  rcases he : l.connection.engine with _ | s | _
  · simp only [Link.completeHandshake, h.connection.engine.trans he, he, h.invalidState]
    exact .intro _ h
  · have ho := h.connection.observe E s
    -- the records differ in their cipher only, because the rest is read off the engine
    rcases hc : E.peerChain s with _ | encodings
    · simp only [Link.completeHandshake, h.connection.engine.trans he, he, hc]
      exact .intro _ ⟨⟨ho.config, rfl, ho.engine, rfl, ho.earlyDataWindow, ho.earlyDataSent⟩,
        h.pipe, h.objects⟩
    rcases hr : PeerChain.snapshot? encodings with _ | chain
    · simp only [Link.completeHandshake, h.connection.engine.trans he, he, hc, hr]
      exact .intro _ ⟨ho, h.pipe, h.objects⟩
    · simp only [Link.completeHandshake, h.connection.engine.trans he, he, hc, hr]
      exact .intro _ ⟨⟨ho.config, rfl, ho.engine, rfl, ho.earlyDataWindow, ho.earlyDataSent⟩,
        h.pipe, h.objects⟩
  · simp only [Link.completeHandshake, h.connection.engine.trans he, he, h.invalidState]
    exact .intro _ h

end Alike

namespace Same

variable (E : Engine σ)

theorem finish {x y : PollResult Unit × Link σ} (h : Same x y) :
    Same (Link.finish E x) (Link.finish E y) := by
  cases h with
  | @intro a l l' h =>
    rcases a with e | ⟨⟨⟩⟩ | d | _
    · exact .intro _ h
    · have hc := h.completeHandshake E
      simp only [Link.finish]
      generalize l.completeHandshake E = u, l'.completeHandshake E = v at hc ⊢
      obtain ⟨e | ⟨⟨⟩⟩, hc⟩ := hc <;> exact .intro _ hc
    · exact .intro _ h
    · exact .intro _ h

theorem count {x y : PollResult Nat × Link σ} (h : Same x y) :
    Same (Link.count x) (Link.count y) := by
  obtain ⟨e | n | d | _, h⟩ := h
  · exact .intro _ h
  · obtain ⟨m, k, i, hi, rfl⟩ := h.exists_eq
    exact .intro _ ⟨⟨rfl, rfl, rfl, hi, rfl, rfl⟩, rfl, rfl⟩
  · exact .intro _ h
  · exact .intro _ h

theorem settle {x y : PollResult ShutdownResult × Link σ} (h : Same x y) :
    Same (Link.settle x) (Link.settle y) := by
  obtain ⟨e | (_ | _) | d | _, h⟩ := h
  · exact .intro _ h
  · exact .intro _ (h.withState _)
  · exact .intro _ (h.withState _)
  · exact .intro _ h
  · exact .intro _ h

end Same

/-! ### The operations -/

namespace Alike

variable {l l' : Link σ} (h : Alike l l') (E : Engine σ)
include h

theorem configure (config : Config) : Same (l.configure config) (l'.configure config) := by
  unfold Link.configure
  rw [h.configMut]
  rcases l.connection.configMut with e | c
  · exact .intro _ h
  · exact .intro _ ⟨⟨rfl, h.connection.state, h.connection.engine, h.connection.info,
      h.connection.earlyDataWindow, h.connection.earlyDataSent⟩, h.pipe, h.objects⟩

theorem advanceHandshake : Same (l.advanceHandshake E) (l'.advanceHandshake E) := by
  rcases hl : l.connection.ensureLive with e | ⟨⟨⟩⟩
  · simp only [Link.advanceHandshake, h.ensureLive, hl]
    exact .intro _ h
  by_cases hs : l.connection.state = .configured ∨ l.connection.state = .handshaking
  · simp only [Link.advanceHandshake, h.ensureLive, hl, h.connection.state, hs, if_true]
    have hst := h.startIfConfigured E
    generalize l.startIfConfigured E = u, l'.startIfConfigured E = v at hst ⊢
    obtain ⟨e | ⟨⟨⟩⟩, h₁⟩ := hst
    · exact .intro _ h₁
    · exact (h₁.closeWindow.drive E "advance_handshake" E.handshake).finish E
  · simp only [Link.advanceHandshake, h.ensureLive, hl, h.connection.state, hs, if_false,
      h.invalidState]
    exact .intro _ h

theorem write (data : Bytes) : Same (l.write E data) (l'.write E data) := by
  unfold Link.write
  rw [h.require]
  rcases l.connection.require "write" [.established] with e | ⟨⟨⟩⟩
  · exact .intro _ h
  · by_cases hd : data.isEmpty = true
    · simp only [hd, if_true]
      exact .intro _ h
    · simp only [hd]
      exact h.drive E _ _

theorem writeEarlyData (data : Bytes) :
    Same (l.writeEarlyData E data) (l'.writeEarlyData E data) := by
  have hadm : admitsEarlyData l'.connection = admitsEarlyData l.connection := by
    simp only [admitsEarlyData, h.connection.state, h.connection.earlyDataWindow]
  have hbudget : earlyDataBudget l'.connection = earlyDataBudget l.connection := by
    simp only [earlyDataBudget, h.connection.config, h.connection.earlyDataSent]
  unfold Link.writeEarlyData
  rw [h.ensureLive, hadm, hbudget, h.invalidState]
  rcases l.connection.ensureLive with e | ⟨⟨⟩⟩
  · exact .intro _ h
  by_cases ha : (!admitsEarlyData l.connection) = true
  · simp only [ha, if_true]
    exact .intro _ h
  by_cases hb : earlyDataBudget l.connection = 0 ∨ data.isEmpty = true
  · simp only [ha, hb, if_true]
    exact .intro _ h
  · simp only [ha, hb, if_false]
    have hst := h.startIfConfigured E
    generalize l.startIfConfigured E = u, l'.startIfConfigured E = v at hst ⊢
    obtain ⟨e | ⟨⟨⟩⟩, h₁⟩ := hst
    · exact .intro _ h₁
    · exact (h₁.drive E "write_early_data" _).count

theorem read (max : Nat) (granted : Bool) :
    Same (l.read E max granted) (l'.read E max granted) := by
  unfold Link.read
  rw [h.require]
  rcases l.connection.require "read" readStates with e | ⟨⟨⟩⟩
  · exact .intro _ h
  rcases ha : affords max granted with _ | _
  · exact .intro _ h
  by_cases h0 : max = 0
  · simp only [if_pos h0]
    exact .intro _ h
  · simp only [if_neg h0]
    exact h.drive E _ _

/-- Reading into a buffer has the buffer as a second result. -/
theorem readInto (buffer : Bytes) :
    Same (((l.readInto E buffer).1, (l.readInto E buffer).2.1), (l.readInto E buffer).2.2)
      (((l'.readInto E buffer).1, (l'.readInto E buffer).2.1), (l'.readInto E buffer).2.2) := by
  unfold Link.readInto
  rw [h.require]
  rcases l.connection.require "read" readStates with e | ⟨⟨⟩⟩
  · exact .intro _ h
  by_cases hb : buffer.isEmpty = true
  · simp only [hb, if_true]
    exact .intro _ h
  · simp only [hb]
    have hd := h.drive E "read" (E.read buffer.length)
    generalize l.drive E "read" (E.read buffer.length) = u,
      l'.drive E "read" (E.read buffer.length) = v at hd ⊢
    obtain ⟨e | data | d | _, hd⟩ := hd <;> exact .intro _ hd

theorem shutdown : Same (l.shutdown E) (l'.shutdown E) := by
  have hd := (h.drive E "shutdown" E.shutdown).settle
  rcases hs : l.connection.state <;> simp only [Link.shutdown, h.connection.state, hs]
  case established => exact hd
  case shuttingDown => exact hd
  all_goals exact .intro _ h

theorem renegotiate : Same (l.renegotiate E) (l'.renegotiate E) := by
  unfold Link.renegotiate
  rw [h.require, h.connection.engine, h.invalidState]
  rcases l.connection.require "renegotiate" [.established] with e | ⟨⟨⟩⟩
  · exact .intro _ h
  rcases l.connection.engine with _ | s | _
  · exact .intro _ h
  · rcases hr : E.renegotiate s with ⟨_ | _, s'⟩ <;> simp only [hr]
    · exact .intro _ ⟨⟨h.connection.config, h.connection.state, rfl, h.connection.info,
        h.connection.earlyDataWindow, h.connection.earlyDataSent⟩, h.pipe, h.objects⟩
    · exact .intro _ ⟨⟨h.connection.config, rfl, rfl, rfl, h.connection.earlyDataWindow,
        h.connection.earlyDataSent⟩, h.pipe, h.objects⟩
  · exact .intro _ h

/-- A session that is handed out is a copy in both cases. -/
theorem objectsAfter (q : Question) : l'.objectsAfter E q = l.objectsAfter E q := by
  cases q with
  | session =>
    have hs : l'.connection.session E l.objects = l.connection.session E l.objects := by
      unfold Connection.session
      rw [h.establishedEngine]
    simp only [Link.objectsAfter, h.objects, hs]
  | _ => exact h.objects

/-! ### Events and runs -/

/-- **Whatever happens to links that are alike comes to the same**, unless it is asked which cipher
they have. -/
theorem step {e : Event} (he : e ≠ .operation (.ask .cipher)) :
    (l'.step E e).1 = (l.step E e).1 := by
  cases e with
  | operation op =>
    have hop : (l'.perform E op).1 = (l.perform E op).1 := by
      cases op with
      | configure config => exact congrArg Outcome.configured (h.configure config).fst
      | advanceHandshake => exact congrArg Outcome.advanced (h.advanceHandshake E).fst
      | write data => exact congrArg Outcome.written (h.write E data).fst
      | writeEarlyData data => exact congrArg Outcome.written (h.writeEarlyData E data).fst
      | read max granted => exact congrArg Outcome.read (h.read E max granted).fst
      | readInto buffer =>
        exact congrArg (fun r => Outcome.filled r.1 r.2) (h.readInto E buffer).fst
      | shutdown => exact congrArg Outcome.closing (h.shutdown E).fst
      | renegotiate => exact congrArg Outcome.renegotiated (h.renegotiate E).fst
      | ask q =>
        have hq : q ≠ .cipher := by
          rintro rfl
          exact he rfl
        show Outcome.told (q.answer E l'.connection l'.objects) = _
        rw [h.objects, h.connection.answer E l.objects hq]
        rfl
    exact congrArg Reply.outcome hop
  | caller action =>
    show Reply.answer (l'.pipe.step ⟨.caller, action⟩).1 = _
    rw [h.pipe]
    rfl
  | elsewhere objects => rfl

/-- **And it leaves them alike**, whatever it is. -/
theorem step_alike (e : Event) : Alike (l.step E e).2 (l'.step E e).2 := by
  cases e with
  | operation op =>
    cases op with
    | configure config => exact (h.configure config).snd
    | advanceHandshake => exact (h.advanceHandshake E).snd
    | write data => exact (h.write E data).snd
    | writeEarlyData data => exact (h.writeEarlyData E data).snd
    | read max granted => exact (h.read E max granted).snd
    | readInto buffer => exact (h.readInto E buffer).snd
    | shutdown => exact (h.shutdown E).snd
    | renegotiate => exact (h.renegotiate E).snd
    | ask q => exact ⟨h.connection, h.pipe, h.objectsAfter E q⟩
  | caller action =>
    have hpipe := congrArg (fun p : Pipe => (p.step ⟨.caller, action⟩).2) h.pipe
    exact ⟨h.connection, hpipe, h.objects⟩
  | elsewhere objects => exact ⟨h.connection, h.pipe, rfl⟩

/-- **Links that are alike are so after any run.** -/
theorem after (es : List Event) : Alike (l.after E es) (l'.after E es) := by
  induction es generalizing l l' with
  | nil => exact h
  | cons e es ih => exact ih (h.step_alike E e)

end Alike

end Link

end SocketlessTls
