import SocketlessTls.Engine.Waiting
import SocketlessTls.Proofs.Connection.Refusal
import SocketlessTls.Proofs.Connection.Remembering

/-!
# What was negotiated stays negotiated

When a handshake is over its version, its cipher and its chain are put on record, all three at once,
and the record stands until a new handshake is accepted. Nothing else touches it: no data, no
closing, no failure, no new handshake that is declined. What the engine says meanwhile does not
matter, for the record is not made again.

A record can also fail to be made, because the peer's chain cannot be read. Then nothing is on
record and the handshake is not over; it may still be, at a later call.

* `SocketlessTls.Link.Told`, `SocketlessTls.Link.Withheld` – the answers with a record and without
  one;
* `SocketlessTls.Link.Ends` – the engine has come to the end of a handshake;
* `SocketlessTls.Link.negotiated_facts_fixed` – the answers after a handshake, at any time.
-/

namespace SocketlessTls

/-! ### Answers -/

namespace Connection

variable {σ α : Type}

/-- An answer that a connection gives unless it has failed. -/
def unlessFailed (c : Connection σ) (answer : Except TlsError α) : Except TlsError α :=
  if c.state = .errored then .error (.alreadyTerminated .errored) else answer

variable {c : Connection σ}

/-- Before a connection is established there is no record to tell. -/
theorem negotiated_of_not_established (h : c.state ≠ .errored)
    (hs : c.state.isEstablished = false) (what : String) :
    c.negotiated what = .error (.notYetAvailable what) := by
  have hne : c.ensureNotErrored = .ok () := by
    rw [ensureNotErrored, if_neg h]
  simp [negotiated, establishedEngine, hne, hs, bind, Except.bind]

end Connection

namespace Link

variable {σ : Type}

/-- **A link that tells the record `n`**: the version and the chain unless it has failed, and the
cipher even then. The engine is not asked, so it could be any other. -/
structure Told (l : Link σ) (n : Negotiated) : Prop where
  version : l.connection.protocolVersion = l.connection.unlessFailed (.ok n.version)
  chain : l.connection.peerCertChain = l.connection.unlessFailed (.ok n.chain)
  cipher : ∀ E : Engine σ, l.connection.cipher E = .ok n.cipher

/-- **A link that has nothing to tell** of version and chain. -/
structure Withheld (l : Link σ) : Prop where
  version : l.connection.protocolVersion =
    l.connection.unlessFailed (.error (.notYetAvailable "protocol version"))
  chain : l.connection.peerCertChain =
    l.connection.unlessFailed (.error (.notYetAvailable "peer certificate chain"))

section Answers

variable {l : Link σ} (h : Coherent l)
include h

/-- Before a handshake is over nothing is on record. -/
theorem info_of_shaking
    (hs : l.connection.state = .configured ∨ l.connection.state = .handshaking) :
    l.connection.info = none := by
  have hne : l.connection.state ≠ .errored := by
    rcases hs with hs | hs <;> rw [hs] <;> nofun
  have hest : l.connection.state.isEstablished = false := by
    rcases hs with hs | hs <;> rw [hs] <;> rfl
  rw [← Option.not_isSome_iff_eq_none, h.info hne, hest]
  exact Bool.false_ne_true

/-- Past the first state, a record is told. -/
theorem told_of_info {n : Negotiated} (hi : l.connection.info = some n) : Told l n := by
  have hs : l.connection.state ≠ .configured := fun hc => by
    rw [(h.fresh hc).2.1] at hi
    cases hi
  have hcipher (E : Engine σ) : l.connection.cipher E = .ok n.cipher := by
    simp only [Connection.cipher, if_neg hs, hi]
  by_cases he : l.connection.state = .errored
  · refine ⟨?_, ?_, hcipher⟩ <;> rw [Connection.unlessFailed, if_pos he]
    · rw [Connection.protocolVersion, Connection.negotiated_of_errored he]
      rfl
    · rw [Connection.peerCertChain, Connection.negotiated_of_errored he]
      rfl
  · have hest := (h.info he).mp (by rw [hi]; rfl)
    obtain ⟨s, n', -, hn', hask⟩ := negotiated_of_isEstablished h hest
    obtain rfl : n' = n := Option.some.inj (hn'.symm.trans hi)
    refine ⟨?_, ?_, hcipher⟩ <;> rw [Connection.unlessFailed, if_neg he]
    · rw [Connection.protocolVersion, (hask _).2]
      rfl
    · rw [Connection.peerCertChain, (hask _).2]
      rfl

/-- Without a record nothing is told. -/
theorem withheld_of_no_info (hi : l.connection.info = none) : Withheld l := by
  by_cases he : l.connection.state = .errored
  · constructor <;> rw [Connection.unlessFailed, if_pos he]
    · rw [Connection.protocolVersion, Connection.negotiated_of_errored he]
      rfl
    · rw [Connection.peerCertChain, Connection.negotiated_of_errored he]
      rfl
  · have hest : l.connection.state.isEstablished = false := by
      rw [← Bool.not_eq_true]
      intro hest
      have hsome := (h.info he).mpr hest
      rw [hi] at hsome
      cases hsome
    constructor <;> rw [Connection.unlessFailed, if_neg he]
    · rw [Connection.protocolVersion, Connection.negotiated_of_not_established he hest]
      rfl
    · rw [Connection.peerCertChain, Connection.negotiated_of_not_established he hest]
      rfl

end Answers

/-! ### The record along a run -/

section Runs

variable (E : Engine σ) {l : Link σ} (h : Coherent l)
include h

/-- A handshake is over only where there is no record. -/
theorem not_completes_of_info {n : Negotiated} (hi : l.connection.info = some n) (e : Event) :
    ¬Completes E l e := by
  intro hc
  cases hi.symm.trans (info_of_shaking h (Completes.state E hc).1)

/-- **A record stands** until a new handshake is accepted. -/
theorem after_info {n : Negotiated} (hi : l.connection.info = some n) {later : List Event}
    (hno : ¬l.Happened E later (Renews E)) : (l.after E later).connection.info = some n := by
  refine (after_induct_of_not_happened (P := fun l => Coherent l ∧ l.connection.info = some n) E
    (fun l e hl hr => ⟨step_coherent E hl.1 e, ?_⟩) ⟨h, hi⟩ hno).2
  rw [step_info_of_no_turn E hl.1 (not_completes_of_info E hl.1 hl.2 e) hr]
  exact hl.2

/-- **Nothing is on record** until a handshake is over. -/
theorem after_no_info (hi : l.connection.info = none) {later : List Event}
    (hno : ¬l.Happened E later (Completes E)) : (l.after E later).connection.info = none := by
  refine (after_induct_of_not_happened (P := fun l => Coherent l ∧ l.connection.info = none) E
    (fun l e hl hc => ⟨step_coherent E hl.1 e, ?_⟩) ⟨h, hi⟩ hno).2
  by_cases hr : Renews E l e
  · exact (Renews.forgets E hl.1 hr).2
  · rw [step_info_of_no_turn E hl.1 hc hr]
    exact hl.2

end Runs

/-! ### The end of a handshake -/

/-- **The engine comes to the end of a handshake** when it is advanced now, and is then in the state
`s'`. -/
def Ends (E : Engine σ) (l : Link σ) (s' : σ) : Prop :=
  (l.connection.state = .configured ∨ l.connection.state = .handshaking) ∧
    ∃ l₁ s w, l.startIfConfigured E = (.ok (), l₁) ∧ l₁.connection.engine = .running s ∧
      (E.handshake s).run .engine ⟨l₁.pipe, l₁.objects⟩ = ((.done (), s'), w)

/-- What is then left of an advance is to make the record. -/
theorem advanceHandshake_of_ends (E : Engine σ) {l : Link σ} {s' : σ} (h : Ends E l s') :
    ∃ l₂, l₂.connection.engine = .running s' ∧
      l.advanceHandshake E = finish E (.ok (.ready ()), l₂) ∧
      l₂.connection.info = (l.startIfConfigured E).2.connection.info ∧
      l₂.connection.state = (l.startIfConfigured E).2.connection.state := by
  obtain ⟨hs, l₁, s, w, hst, hr, hrun⟩ := h
  rcases advanceHandshake_cases E l with ⟨-, -, hc, hh, -⟩ | ⟨-, ⟨e, l₂, hst', -⟩ | ⟨l₂, hst', ha⟩⟩
  · exact absurd hs (not_or.mpr ⟨hc, hh⟩)
  · exact absurd (Prod.mk.inj (hst.symm.trans hst')).1 (by simp)
  · obtain rfl := (Prod.mk.inj (hst.symm.trans hst')).2
    obtain ⟨raw, s'', w', hrun', hd⟩ :=
      drive_of_running E (l := l₁.closeWindow) hr "advance_handshake" E.handshake
    have heq := hrun.symm.trans hrun'
    obtain ⟨⟨rfl, rfl⟩, rfl⟩ : (RawOutcome.done () = raw ∧ s' = s'') ∧ w = w' := by
      simpa [Prod.ext_iff] using heq
    rw [ha, hd, hst]
    exact ⟨_, rfl, rfl, rfl, rfl⟩

/-- **A handshake that has come to its end is over** if the chain can be read. -/
theorem completes_of_ends (E : Engine σ) {l : Link σ} {s' : σ} (h : Ends E l s')
    (hleg : ¬E.Illegible s') : Completes E l (.operation .advanceHandshake) := by
  obtain ⟨l₂, hr, ha, -, -⟩ := advanceHandshake_of_ends E h
  rcases finish_ready E hr with ⟨hill, -⟩ | ⟨chain, -, hd⟩
  · exact absurd hill hleg
  · rw [hd] at ha
    exact congrArg (fun x => Reply.outcome (.advanced x.1)) ha

/-- **It is not over if the chain cannot be read**: nothing is on record, and the connection goes on
shaking hands with its engine where it is. -/
theorem not_over_of_illegible (E : Engine σ) {l : Link σ} (hl : Coherent l) {s' : σ}
    (h : Ends E l s') (hill : E.Illegible s') :
    (l.advanceHandshake E).1 = .error .engine ∧
      (l.advanceHandshake E).2.connection.state = .handshaking ∧
      (l.advanceHandshake E).2.connection.info = none ∧
      (l.advanceHandshake E).2.connection.engine = .running s' := by
  obtain ⟨l₂, hr, ha, hi, hs⟩ := advanceHandshake_of_ends E h
  obtain ⟨hshaking, l₁, s, w, hst, -, -⟩ := h
  have hstart := startIfConfigured_started hl hshaking hst
  rw [hst] at hi hs
  have hnone := info_of_shaking hl hshaking
  rcases finish_ready E hr with ⟨-, hd⟩ | ⟨chain, hchain, -⟩
  · rw [ha, hd, Connection.observe_eq]
    exact ⟨rfl, hs.trans hstart.state, hi.trans (hstart.info.trans hnone), hr⟩
  · obtain ⟨encodings, hc, hno⟩ := hill
    cases hchain with
    | nothing hnone => exact absurd (hc.symm.trans hnone) (by simp)
    | certificates hc' hread =>
      obtain rfl := Option.some.inj (hc.symm.trans hc')
      exact absurd (hno.symm.trans hread) (by simp)

/-! ### The facts of a handshake -/

/-- **What becomes of the facts of a handshake** from a link on. -/
structure KeepsFacts (E : Engine σ) (l : Link σ) : Prop where
  /-- A handshake that is over has its facts recorded together, and they are told until a new
  handshake is accepted. -/
  fixed : ∀ e, Completes E l e → ∃ s n, Recorded E (l.step E e).2 s n ∧
    ∀ later, ¬(l.step E e).2.Happened E later (Renews E) → Told ((l.step E e).2.after E later) n
  /-- They are then withdrawn, until the new one is over. -/
  withdrawn : ∀ e, Renews E l e → ∀ later, ¬(l.step E e).2.Happened E later (Completes E) →
    Withheld ((l.step E e).2.after E later)
  /-- A handshake that has come to its end is over if the chain can be read. -/
  completed : ∀ s', Ends E l s' → ¬E.Illegible s' → Completes E l (.operation .advanceHandshake)
  /-- Otherwise nothing is recorded, and the handshake goes on. It is over with the next call if the
  chain can be read then. -/
  goesOn : ∀ s', Ends E l s' → E.Illegible s' →
    (l.advanceHandshake E).1 = .error .engine ∧
    (l.advanceHandshake E).2.connection.state = .handshaking ∧
    (l.advanceHandshake E).2.connection.engine = .running s' ∧
    (l.advanceHandshake E).2.connection.info = none ∧ Withheld (l.advanceHandshake E).2 ∧
    ∀ s'', Ends E (l.advanceHandshake E).2 s'' → ¬E.Illegible s'' →
      Completes E (l.advanceHandshake E).2 (.operation .advanceHandshake)

/-- **The facts of a handshake are fixed when it is over.** Over any engine, and over any pipe whose
engine end has not been given up, a connection that has just been made keeps the facts of its
handshakes at every point of every run. -/
theorem negotiated_facts_fixed (E : Engine σ) (config : Config) (pipe : Pipe)
    (objects : SessionObjects) (h : pipe.isReleased .engine = false) (es : List Event) :
    KeepsFacts E ((fresh config pipe objects).after E es) := by
  have hl := after_coherent E (.of_fresh config pipe objects h) es
  refine ⟨fun e he => ?_, fun e he later hno => ?_, fun s' hend hleg => ?_, fun s' hend hill => ?_⟩
  · obtain ⟨s, n, hn, -⟩ := he.recorded E hl
    have hl' := step_coherent E hl e
    refine ⟨s, n, hn, fun later hno => ?_⟩
    exact told_of_info (after_coherent E hl' later) (after_info E hl' hn.info hno)
  · have hl' := step_coherent E hl e
    exact withheld_of_no_info (after_coherent E hl' later)
      (after_no_info E hl' (he.forgets E hl).2 hno)
  · exact completes_of_ends E hend hleg
  · obtain ⟨ha, hs, hi, hr⟩ := not_over_of_illegible E hl hend hill
    have hl' := step_coherent E hl (.operation .advanceHandshake)
    exact ⟨ha, hs, hr, hi, withheld_of_no_info hl' hi,
      fun s'' hend' hleg => completes_of_ends E hend' hleg⟩

/-! ### An engine that hesitates -/

/-- An engine that ends a handshake at every call, but has a chain to show at the first call that is
none. -/
def hesitant : Engine Bool :=
  { Engine.waiting false with
    handshake := fun told => .done (.done (), !told)
    peerChain := fun hesitates => if hesitates then some [[]] else none }

/-- Its first handshake is over at the second call, and from then on its facts are told. -/
theorem hesitant_facts :
    Pipe.default.isReleased .engine = false ∧
      (((fresh .initial .default .empty).after hesitant []).advanceHandshake hesitant).1 =
        .error .engine ∧
      Completes hesitant ((fresh .initial .default .empty).after hesitant
        [.operation .advanceHandshake]) (.operation .advanceHandshake) ∧
      KeepsFacts hesitant ((fresh .initial .default .empty).after hesitant
        [.operation .advanceHandshake]) :=
  ⟨rfl, rfl, rfl, negotiated_facts_fixed hesitant .initial .default .empty rfl _⟩

end Link

end SocketlessTls
