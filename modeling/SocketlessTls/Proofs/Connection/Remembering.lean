import SocketlessTls.Proofs.Connection.Exchange

/-!
# What a connection remembers of its handshake

Two fields of a connection remember something of its handshake. While the handshake is under way the
connection looks at the engine after every call and remembers the cipher that it saw last; when the
handshake is over it puts on record the version, the cipher and the peer's chain, all at once. This
file lists what an operation may do to the two:

| operation | the cipher remembered | the record |
|---|---|---|
| any, but for the next two | the last one seen | as it was |
| the handshake is advanced, and is over | the last one seen | made anew |
| a new handshake is accepted | forgotten | withdrawn |

Where no looks are taken the last cipher seen is the one remembered before, so the first row covers
all that happens outside the handshake.

* `SocketlessTls.Link.Operation.looks` – the looks that an operation takes at the engine;
* `SocketlessTls.Connection.remembered` – what a connection remembers after looks;
* `SocketlessTls.Link.Recorded` – what a completed handshake puts on record;
* `SocketlessTls.Link.Remembering` – the list, `SocketlessTls.Link.step_remembering` for every
  event;
* `SocketlessTls.Link.Completes`, `SocketlessTls.Link.Renews` – the last two rows of it.
-/

namespace SocketlessTls

/-! ### Remembering what was seen -/

namespace Connection

variable {σ : Type} (c : Connection σ)

/-- **The cipher that a connection remembers after some looks** at its engine. -/
def remembered (looks : List (Option Cipher)) : Option Cipher :=
  match c.captureMode with
  | .perStep => looks.foldl remember c.captured
  | .disabled => c.captured

@[simp] theorem remembered_nil : c.remembered [] = c.captured := by
  unfold remembered
  split <;> rfl

/-- Looks are taken one after another. -/
theorem remembered_append {c c' : Connection σ} {looks : List (Option Cipher)}
    (hm : c'.captureMode = c.captureMode) (hc : c'.captured = c.remembered looks)
    (later : List (Option Cipher)) : c'.remembered later = c.remembered (looks ++ later) := by
  rcases h : c.captureMode with _ | _ <;> simp only [remembered, hm, h] at hc ⊢
  · rw [hc, List.foldl_append]
  · exact hc

/-- Without looks in between, two connections remember the same of the next ones. -/
theorem remembered_of_eq {c c' : Connection σ} (hm : c'.captureMode = c.captureMode)
    (hc : c'.captured = c.captured) (looks : List (Option Cipher)) :
    c'.remembered looks = c.remembered looks :=
  remembered_append hm (hc.trans c.remembered_nil.symm) looks

theorem captured_observe (E : Engine σ) (s : σ) :
    (c.observe E s).captured = c.remembered [E.observedCipher s] := by
  rcases h : c.captureMode with _ | _ <;> simp [observe, remembered, h]

end Connection

namespace Link

variable {σ : Type}

/-! ### Looks -/

/-- What there is to be seen of the cipher at the engine. -/
def shown (E : Engine σ) (l : Link σ) : List (Option Cipher) :=
  match l.connection.engine with
  | .running s => [E.observedCipher s]
  | _ => []

theorem shown_of_running (E : Engine σ) {l : Link σ} {s : σ}
    (h : l.connection.engine = .running s) : l.shown E = [E.observedCipher s] := by
  simp only [shown, h]

/-- The looks that follow a call for the handshake: one at once, and one more if the handshake is
over. -/
def shownInHandshake (E : Engine σ) : PollResult Unit × Link σ → List (Option Cipher)
  | (.ok (.ready ()), l) => l.shown E ++ l.shown E
  | (_, l) => l.shown E

/-- **The looks that an operation takes at the engine**: one after each call that it makes while the
connection is shaking hands, and one more when the handshake is over. -/
def Operation.looks (E : Engine σ) (l : Link σ) : Operation → List (Option Cipher)
  | .advanceHandshake =>
    if l.connection.state = .configured ∨ l.connection.state = .handshaking then
      match l.startIfConfigured E with
      | (.ok (), l₁) =>
        shownInHandshake E (l₁.closeWindow.drive E "advance_handshake" E.handshake)
      | (.error _, _) => []
    else []
  | .writeEarlyData data =>
    if admitsEarlyData l.connection = true ∧ earlyDataBudget l.connection ≠ 0 ∧ data ≠ [] then
      match l.startIfConfigured E with
      | (.ok (), l₁) => (l₁.drive E "write_early_data"
          (E.writeEarlyData (data.take (earlyDataBudget l.connection)))).2.shown E
      | (.error _, _) => []
    else []
  | _ => []

/-- Looks are taken only before the connection is established. -/
theorem looks_eq_nil (E : Engine σ) {l : Link σ} (hc : l.connection.state ≠ .configured)
    (hh : l.connection.state ≠ .handshaking) (op : Operation) : op.looks E l = [] := by
  have hs : ¬(l.connection.state = .configured ∨ l.connection.state = .handshaking) :=
    not_or.mpr ⟨hc, hh⟩
  cases op with
  | advanceHandshake => exact if_neg hs
  | writeEarlyData data => exact if_neg fun h => hs (state_of_admitsEarlyData h.1)
  | _ => rfl

/-! ### The record -/

/-- **The chain that an engine presents**, read back from its encodings. -/
inductive Presents (E : Engine σ) (s : σ) : Option PeerChain → Prop
  | nothing (h : E.peerChain s = none) : Presents E s none
  | certificates {encodings : List Bytes} {chain : PeerChain}
      (h : E.peerChain s = some encodings) (hr : PeerChain.snapshot? encodings = some chain) :
      Presents E s (some chain)

/-- **What a completed handshake puts on record**, over an engine in the state `s`: its version and
its chain as they are then, and the cipher that is remembered, or else the engine's. -/
structure Recorded (E : Engine σ) (l : Link σ) (s : σ) (n : Negotiated) : Prop where
  engine : l.connection.engine = .running s
  info : l.connection.info = some n
  version : n.version = E.version s
  cipher : n.cipher = l.connection.captured.or (E.currentCipher s)
  chain : Presents E s n.chain

/-- **The end of a handshake**: the record is made, or the peer's chain cannot be read and nothing
but the cipher is remembered. -/
theorem finish_ready (E : Engine σ) {l : Link σ} {s : σ} (h : l.connection.engine = .running s) :
    (E.Illegible s ∧ finish E (.ok (.ready ()), l) = (.error .engine, { l with
      connection := l.connection.observe E s })) ∨
    (∃ chain, Presents E s chain ∧ finish E (.ok (.ready ()), l) = (.ok (.ready ()), { l with
      connection := { l.connection.observe E s with
        info := some ⟨E.version s,
          (l.connection.observe E s).captured.or (E.currentCipher s), chain⟩
        state := .established } })) := by
  rcases hc : E.peerChain s with _ | encodings
  · exact Or.inr ⟨none, .nothing hc, by simp only [finish, completeHandshake, h, hc]⟩
  rcases hr : PeerChain.snapshot? encodings with _ | chain
  · exact Or.inl ⟨⟨encodings, hc, hr⟩, by simp only [finish, completeHandshake, h, hc, hr]⟩
  · exact Or.inr ⟨some chain, .certificates hc hr,
      by simp only [finish, completeHandshake, h, hc, hr]⟩

/-! ### The list -/

/-- The looks that an event takes at the engine. -/
def Event.looks (E : Engine σ) (l : Link σ) : Event → List (Option Cipher)
  | .operation op => op.looks E l
  | _ => []

/-- Whether a reply says that a handshake is over, or that a new one is accepted. -/
def Reply.isTurn : Reply → Bool
  | .outcome (.advanced (.ok (.ready ()))) => true
  | .outcome (.renegotiated (.ok ())) => true
  | _ => false

/-- **What an event does to what a connection remembers.** -/
inductive Remembering (E : Engine σ) (l : Link σ) : Event → Reply → Link σ → Prop
  /-- Looks are taken, or none, and the record is left alone. -/
  | looking {e : Event} {r : Reply} {l' : Link σ}
      (hm : l'.connection.captureMode = l.connection.captureMode)
      (hc : l'.connection.captured = l.connection.remembered (e.looks E l))
      (hs : e.looks E l = [] ∨ ∃ s, l'.connection.engine = .running s)
      (hi : l'.connection.info = l.connection.info) (hr : r.isTurn = false) : Remembering E l e r l'
  /-- The handshake is over, and the record is made. -/
  | completing {l' : Link σ} {s : σ} {n : Negotiated}
      (hm : l'.connection.captureMode = l.connection.captureMode)
      (hc : l'.connection.captured =
        l.connection.remembered (Event.looks E l (.operation .advanceHandshake)))
      (hlooks : Event.looks E l (.operation .advanceHandshake) =
        [E.observedCipher s, E.observedCipher s])
      (hn : Recorded E l' s n) :
      Remembering E l (.operation .advanceHandshake)
        (.outcome (.advanced (.ok (.ready ())))) l'
  /-- A new handshake is accepted, and both are gone. -/
  | renewing {l' : Link σ} (hm : l'.connection.captureMode = l.connection.captureMode)
      (hc : l'.connection.captured = none) (hi : l'.connection.info = none) :
      Remembering E l (.operation .renegotiate) (.outcome (.renegotiated (.ok ()))) l'

/-- Two links whose connections remember the same. -/
structure SameMemory (l l' : Link σ) : Prop where
  captureMode : l'.connection.captureMode = l.connection.captureMode
  captured : l'.connection.captured = l.connection.captured
  info : l'.connection.info = l.connection.info

theorem SameMemory.refl (l : Link σ) : SameMemory l l := ⟨rfl, rfl, rfl⟩

theorem SameMemory.trans {l₁ l₂ l₃ : Link σ} (h : SameMemory l₁ l₂) (h' : SameMemory l₂ l₃) :
    SameMemory l₁ l₃ :=
  ⟨h'.captureMode.trans h.captureMode, h'.captured.trans h.captured, h'.info.trans h.info⟩

/-- An event that takes no looks and leaves everything as it was. -/
theorem SameMemory.remembering {E : Engine σ} {l l' : Link σ} {e : Event} {r : Reply}
    (h : SameMemory l l') (hl : e.looks E l = []) (hr : r.isTurn = false) :
    Remembering E l e r l' :=
  .looking h.captureMode (by rw [hl, Connection.remembered_nil, h.captured]) (Or.inl hl) h.info hr

/-! ### The pieces -/

section Pieces

variable (E : Engine σ) {l l₁ : Link σ}

/-- Starting, or failing to start, changes nothing of what is remembered. -/
theorem startIfConfigured_memory {r : Except TlsError Unit}
    (h : l.startIfConfigured E = (r, l₁)) : SameMemory l l₁ := by
  unfold startIfConfigured at h
  split_ifs at h
  · rcases start_cases E l with ⟨e, -, -, hc⟩ | ⟨-, -, o, hc⟩ | ⟨-, s, o, hc⟩ <;>
    · obtain rfl := (Prod.mk.inj (h.symm.trans hc)).2
      exact ⟨rfl, rfl, rfl⟩
  · obtain rfl := (Prod.mk.inj h).2
    exact ⟨rfl, rfl, rfl⟩

/-- A call that is not made while shaking hands changes nothing of what is remembered. -/
theorem drive_memory {α : Type} (hs : l.connection.state ≠ .handshaking) (operation : String)
    (call : σ → Call (RawOutcome α × σ)) : SameMemory l (l.drive E operation call).2 := by
  by_cases hr : ∃ s, l.connection.engine = .running s
  · obtain ⟨s, hr⟩ := hr
    obtain ⟨raw, s', w, -, hd⟩ := drive_of_running E hr operation call
    rw [hd]
    exact ⟨rfl, if_neg hs, rfl⟩
  · rw [drive_of_not_running E (fun s hs => hr ⟨s, hs⟩)]
    exact ⟨rfl, rfl, rfl⟩

/-- **A link after a call while shaking hands**: one look has been taken at the engine. -/
structure Looked (E : Engine σ) (l l' : Link σ) (s : σ) : Prop where
  engine : l'.connection.engine = .running s
  captureMode : l'.connection.captureMode = l.connection.captureMode
  captured : l'.connection.captured = l.connection.remembered [E.observedCipher s]
  info : l'.connection.info = l.connection.info

/-- A call while shaking hands takes one look, for any outcome of the call. -/
theorem drive_looked {α : Type} {s : σ} (hr : l.connection.engine = .running s)
    (hs : l.connection.state = .handshaking) (operation : String)
    (call : σ → Call (RawOutcome α × σ)) : ∃ s', Looked E l (l.drive E operation call).2 s' := by
  obtain ⟨raw, s', w, -, hd⟩ := drive_of_running E hr operation call
  rw [hd]
  exact ⟨s', rfl, rfl, (if_pos hs).trans (l.connection.captured_observe E s'), rfl⟩

/-- What has been done before the call, or is done after it, does not matter if it changes nothing
of what is remembered. -/
theorem Looked.of_same {l' l₂ : Link σ} {s : σ} (h : Looked E l₁ l₂ s) (hb : SameMemory l l₁)
    (ha : SameMemory l₂ l') (he : l'.connection.engine = l₂.connection.engine) :
    Looked E l l' s where
  engine := he.trans h.engine
  captureMode := ha.captureMode.trans (h.captureMode.trans hb.captureMode)
  captured := ha.captured.trans
    (h.captured.trans (Connection.remembered_of_eq hb.captureMode hb.captured _))
  info := ha.info.trans (h.info.trans hb.info)

theorem count_memory (x : PollResult Nat × Link σ) : SameMemory x.2 (count x).2 := by
  obtain ⟨result, l⟩ := x
  rcases result with e | n | d | _ <;> exact ⟨rfl, rfl, rfl⟩

theorem settle_memory (x : PollResult ShutdownResult × Link σ) : SameMemory x.2 (settle x).2 := by
  obtain ⟨result, l⟩ := x
  rcases result with e | (_ | _) | d | _ <;> exact ⟨rfl, rfl, rfl⟩

end Pieces

/-! ### The operations -/

section Operations

variable (E : Engine σ) {l : Link σ}

theorem configure_remembering (config : Config) :
    Remembering E l (.operation (.configure config)) (.outcome (.configured (l.configure config).1))
      (l.configure config).2 := by
  rcases configure_cases l config with ⟨-, hc⟩ | ⟨e, -, -, hc⟩ <;> rw [hc] <;>
    exact SameMemory.remembering ⟨rfl, rfl, rfl⟩ rfl rfl

/-- **The end of an advance**: the record is made if the handshake is over and its chain can be
read. The second look is at the same state of the engine as the first. -/
theorem finish_remembering {x : PollResult Unit × Link σ} {s : σ} (hx : Looked E l x.2 s)
    (hlooks : Operation.advanceHandshake.looks E l = shownInHandshake E x) :
    Remembering E l (.operation .advanceHandshake) (.outcome (.advanced (finish E x).1))
      (finish E x).2 := by
  obtain ⟨result, l₂⟩ := x
  have hshown := shown_of_running E hx.engine
  rcases result with e | ⟨⟨⟩⟩ | d | _
  case ok.ready =>
    have htwice : Operation.advanceHandshake.looks E l =
        [E.observedCipher s] ++ [E.observedCipher s] := by
      rw [hlooks, shownInHandshake, hshown]
    have hmode : (l₂.connection.observe E s).captureMode = l.connection.captureMode := by
      rw [Connection.observe_eq]
      exact hx.captureMode
    have hcap : (l₂.connection.observe E s).captured =
        l.connection.remembered (Operation.advanceHandshake.looks E l) := by
      rw [htwice, ← Connection.remembered_append hx.captureMode hx.captured]
      exact l₂.connection.captured_observe E s
    rcases finish_ready E hx.engine with ⟨-, hd⟩ | ⟨chain, hchain, hd⟩ <;> rw [hd]
    · rw [Connection.observe_eq] at hmode hcap ⊢
      exact .looking hmode hcap (Or.inr ⟨s, hx.engine⟩) hx.info rfl
    · refine .completing (s := s) hmode hcap htwice ⟨?_, rfl, rfl, rfl, hchain⟩
      rw [Connection.observe_eq]
      exact hx.engine
  all_goals
    refine .looking hx.captureMode ?_ (Or.inr ⟨s, hx.engine⟩) hx.info rfl
    show l₂.connection.captured = l.connection.remembered (Operation.advanceHandshake.looks E l)
    rw [hlooks, shownInHandshake, hshown]
    · exact hx.captured
    · nofun

theorem write_remembering (data : Bytes) :
    Remembering E l (.operation (.write data)) (.outcome (.written (l.write E data).1))
      (l.write E data).2 := by
  rcases write_cases E l data with ⟨e, -, -, hw⟩ | ⟨-, -, hw⟩ | ⟨hs, -, hw⟩ <;> rw [hw]
  · exact (SameMemory.refl l).remembering rfl rfl
  · exact (SameMemory.refl l).remembering rfl rfl
  · have hne : l.connection.state ≠ .handshaking := by
      rw [hs]
      nofun
    exact (drive_memory E hne "write" (E.write data)).remembering rfl rfl

/-- Where data may be read the connection is not shaking hands. -/
theorem ne_handshaking_of_isEstablished {s : State} (hs : s.isEstablished = true) :
    s ≠ .handshaking := by
  rintro rfl
  cases hs

theorem read_remembering (max : Nat) (granted : Bool) :
    Remembering E l (.operation (.read max granted)) (.outcome (.read (l.read E max granted).1))
      (l.read E max granted).2 := by
  rcases read_cases E l max granted with
    ⟨e, -, -, hr⟩ | ⟨-, -, hr⟩ | ⟨-, -, hr⟩ | ⟨hs, -, -, hr⟩ <;> rw [hr]
  · exact (SameMemory.refl l).remembering rfl rfl
  · exact (SameMemory.refl l).remembering rfl rfl
  · exact (SameMemory.refl l).remembering rfl rfl
  · have hne := ne_handshaking_of_isEstablished (isEstablished_of_readStates hs)
    exact (drive_memory E hne "read" (E.read max)).remembering rfl rfl

theorem readInto_remembering (buffer : Bytes) :
    Remembering E l (.operation (.readInto buffer))
      (.outcome (.filled (l.readInto E buffer).1 (l.readInto E buffer).2.1))
      (l.readInto E buffer).2.2 := by
  rcases readInto_cases E l buffer with ⟨e, -, -, hr⟩ | ⟨-, -, hr⟩ | ⟨hs, -, hr⟩ <;> rw [hr]
  · exact (SameMemory.refl l).remembering rfl rfl
  · exact (SameMemory.refl l).remembering rfl rfl
  · have hne := ne_handshaking_of_isEstablished (isEstablished_of_readStates hs)
    exact (drive_memory E hne "read" (E.read buffer.length)).remembering rfl rfl

theorem shutdown_remembering :
    Remembering E l (.operation .shutdown) (.outcome (.closing (l.shutdown E).1))
      (l.shutdown E).2 := by
  rcases shutdown_cases E l with ⟨-, hd⟩ | ⟨e, -, -, hd⟩ | ⟨hs, hd⟩ <;> rw [hd]
  · exact (SameMemory.refl l).remembering rfl rfl
  · exact (SameMemory.refl l).remembering rfl rfl
  · have hne : l.connection.state ≠ .handshaking := by
      rcases hs with hs | hs <;> rw [hs] <;> nofun
    exact ((drive_memory E hne "shutdown" E.shutdown).trans (settle_memory _)).remembering rfl rfl

theorem renegotiate_remembering :
    Remembering E l (.operation .renegotiate) (.outcome (.renegotiated (l.renegotiate E).1))
      (l.renegotiate E).2 := by
  rcases renegotiate_cases E l with
    ⟨e, -, -, hd⟩ | ⟨-, s, s', -, -, hd⟩ | ⟨-, s, s', -, -, hd⟩ <;> rw [hd]
  · exact (SameMemory.refl l).remembering rfl rfl
  · exact SameMemory.remembering ⟨rfl, rfl, rfl⟩ rfl rfl
  · exact .renewing rfl rfl rfl

variable (h : Coherent l)
include h

theorem advanceHandshake_remembering :
    Remembering E l (.operation .advanceHandshake) (.outcome (.advanced (l.advanceHandshake E).1))
      (l.advanceHandshake E).2 := by
  rcases advanceHandshake_cases E l with ⟨e, -, hc, hh, ha⟩ | ⟨hs, ⟨e, l₁, hst, ha⟩ | ⟨l₁, hst, ha⟩⟩
  · rw [ha]
    exact (SameMemory.refl l).remembering (looks_eq_nil E hc hh .advanceHandshake) rfl
  · rw [ha]
    refine (startIfConfigured_memory E hst).remembering ?_ rfl
    simp only [Event.looks, Operation.looks, if_pos hs, hst]
  · rw [ha]
    have hstart := startIfConfigured_started h hs hst
    obtain ⟨s, hr⟩ := hstart.running
    obtain ⟨s', hx⟩ := drive_looked E (l := l₁.closeWindow) hr hstart.state "advance_handshake"
      E.handshake
    have hmem := startIfConfigured_memory E hst
    refine finish_remembering E
      (hx.of_same E ⟨hmem.captureMode, hmem.captured, hmem.info⟩ (.refl _) rfl) ?_
    simp only [Operation.looks, if_pos hs, hst]

theorem writeEarlyData_remembering (data : Bytes) :
    Remembering E l (.operation (.writeEarlyData data))
      (.outcome (.written (l.writeEarlyData E data).1)) (l.writeEarlyData E data).2 := by
  rcases writeEarlyData_cases E l data with
    ⟨e, -, hno, hw⟩ | ⟨-, hnone, hw⟩ | ⟨hadm, hb, hd, ⟨e, l₁, hst, hw⟩ | ⟨l₁, hst, hw⟩⟩
  · rw [hw]
    refine (SameMemory.refl l).remembering (if_neg fun hl => ?_) rfl
    exact Bool.noConfusion (hno.symm.trans hl.1)
  · rw [hw]
    refine (SameMemory.refl l).remembering (if_neg fun hl => ?_) rfl
    exact hnone.elim hl.2.1 hl.2.2
  · rw [hw]
    refine (startIfConfigured_memory E hst).remembering ?_ rfl
    rw [Event.looks, Operation.looks, if_pos ⟨hadm, hb, hd⟩, hst]
  · rw [hw]
    have hstart := startIfConfigured_started h (state_of_admitsEarlyData hadm) hst
    obtain ⟨s, hr⟩ := hstart.running
    obtain ⟨s', hx⟩ := drive_looked E hr hstart.state "write_early_data"
      (E.writeEarlyData (data.take (earlyDataBudget l.connection)))
    have hlooks : Event.looks E l (.operation (.writeEarlyData data)) = [E.observedCipher s'] := by
      rw [Event.looks, Operation.looks, if_pos ⟨hadm, hb, hd⟩, hst]
      exact shown_of_running E hx.engine
    have hcount := hx.of_same E (startIfConfigured_memory E hst) (count_memory _) (count_eq _).2.2
    exact .looking hcount.captureMode (hlooks ▸ hcount.captured) (Or.inr ⟨s', hcount.engine⟩)
      hcount.info rfl

/-- **What an event does to what a connection remembers**, for every event, at any coherent link
and over any engine. -/
theorem step_remembering (e : Event) : Remembering E l e (l.step E e).1 (l.step E e).2 := by
  cases e with
  | operation op =>
    cases op with
    | configure config => exact configure_remembering E config
    | advanceHandshake => exact advanceHandshake_remembering E h
    | write data => exact write_remembering E data
    | writeEarlyData data => exact writeEarlyData_remembering E h data
    | read max granted => exact read_remembering E max granted
    | readInto buffer => exact readInto_remembering E buffer
    | shutdown => exact shutdown_remembering E
    | renegotiate => exact renegotiate_remembering E
    | ask q => exact SameMemory.remembering ⟨rfl, rfl, rfl⟩ rfl rfl
  | caller action => exact SameMemory.remembering ⟨rfl, rfl, rfl⟩ rfl rfl
  | elsewhere objects => exact SameMemory.remembering ⟨rfl, rfl, rfl⟩ rfl rfl

end Operations

/-! ### The turns of a run -/

section Turns

variable (E : Engine σ) {l : Link σ} {e : Event}

/-- **The handshake is over** with an event. -/
def Completes (l : Link σ) (e : Event) : Prop :=
  (l.step E e).1 = .outcome (.advanced (.ok (.ready ())))

/-- **A new handshake is accepted** with an event. -/
def Renews (l : Link σ) (e : Event) : Prop :=
  (l.step E e).1 = .outcome (.renegotiated (.ok ()))

/-- The two turns are different. -/
theorem Completes.not_renews (hc : Completes E l e) : ¬Renews E l e := by
  intro hr
  unfold Completes at hc
  unfold Renews at hr
  cases hc.symm.trans hr

/-- Without a turn the record is left alone. -/
theorem step_info_of_no_turn (h : Coherent l) (hc : ¬Completes E l e) (hn : ¬Renews E l e) :
    (l.step E e).2.connection.info = l.connection.info := by
  have hr := step_remembering E h e
  unfold Completes at hc
  unfold Renews at hn
  generalize (l.step E e).1 = r, (l.step E e).2 = l' at hr hc hn ⊢
  cases hr with
  | looking _ _ _ hi _ => exact hi
  | completing _ _ _ _ => exact absurd rfl hc
  | renewing _ _ _ => exact absurd rfl hn

/-- A handshake that is over has its record, made after two looks at the same state of the
engine. -/
theorem Completes.recorded (h : Coherent l) (hc : Completes E l e) :
    ∃ s n, Recorded E (l.step E e).2 s n ∧
      e.looks E l = [E.observedCipher s, E.observedCipher s] := by
  have hr := step_remembering E h e
  unfold Completes at hc
  rw [hc] at hr
  generalize (l.step E e).2 = l' at hr ⊢
  cases hr with
  | looking _ _ _ _ ht => cases ht
  | completing _ _ hlooks hn => exact ⟨_, _, hn, hlooks⟩

/-- A new handshake begins with nothing remembered. -/
theorem Renews.forgets (h : Coherent l) (hn : Renews E l e) :
    (l.step E e).2.connection.captured = none ∧ (l.step E e).2.connection.info = none := by
  have hr := step_remembering E h e
  unfold Renews at hn
  rw [hn] at hr
  generalize (l.step E e).2 = l' at hr ⊢
  cases hr with
  | looking _ _ _ _ ht => cases ht
  | renewing _ hc hi => exact ⟨hc, hi⟩

/-- The way of remembering never changes. -/
theorem step_captureMode (h : Coherent l) (e : Event) :
    (l.step E e).2.connection.captureMode = l.connection.captureMode := by
  have hr := step_remembering E h e
  generalize (l.step E e).1 = r, (l.step E e).2 = l' at hr ⊢
  cases hr with
  | looking hm _ _ _ _ => exact hm
  | completing hm _ _ _ => exact hm
  | renewing hm _ _ => exact hm

/-- But for a new handshake, what is remembered after an event is what it let be seen. -/
theorem step_captured (h : Coherent l) (hn : ¬Renews E l e) :
    (l.step E e).2.connection.captured = l.connection.remembered (e.looks E l) := by
  have hr := step_remembering E h e
  unfold Renews at hn
  generalize (l.step E e).1 = r, (l.step E e).2 = l' at hr hn ⊢
  cases hr with
  | looking _ hc _ _ _ => exact hc
  | completing _ hc _ _ => exact hc
  | renewing _ _ _ => exact absurd rfl hn

/-- Looks are taken at an engine that runs. -/
theorem step_running_of_looks (h : Coherent l) (hl : e.looks E l ≠ []) :
    ∃ s, (l.step E e).2.connection.engine = .running s := by
  have hr := step_remembering E h e
  generalize (l.step E e).1 = r, (l.step E e).2 = l' at hr ⊢
  cases hr with
  | looking _ _ hs _ _ => exact hs.resolve_left hl
  | completing _ _ _ hn => exact ⟨_, hn.engine⟩
  | renewing _ _ _ => exact absurd rfl hl

/-- A handshake is over only where one was under way, and then the connection is established. -/
theorem Completes.state (hc : Completes E l e) :
    (l.connection.state = .configured ∨ l.connection.state = .handshaking) ∧
      (l.step E e).2.connection.state = .established := by
  cases e with
  | operation op => exact (perform_lawful E l op).ready (Reply.outcome.inj hc)
  | caller action => cases hc
  | elsewhere objects => cases hc

end Turns

end Link

end SocketlessTls
