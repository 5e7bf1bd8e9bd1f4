import SocketlessTls.Proofs.Connection.Configuring

/-!
# Configurations that differ in their capture mode

The capture mode is one of the settings of a configuration, and the one that an operation never
reads: it is read when the connection is made, and then only shown. This file says so by writing
another mode into the configuration of a link – by *recasting* it – before an operation or after,
which comes to the same (`SocketlessTls.Link.perform_recast`). What mode the connection goes by is a
field of its own and stays as it is.

The engine gets the whole configuration to be built from, so of the engine it must be known that it
does not read the mode either (`SocketlessTls.Engine.IgnoresCaptureMode`).

* `SocketlessTls.Config.recast`, `SocketlessTls.Link.recast` – another mode in its place;
* `SocketlessTls.Setting.apply_recast` – settings do not read the mode;
* `SocketlessTls.Link.perform_recast` – operations do not.
-/

namespace SocketlessTls

/-! ### Configurations -/

/-- The configuration with another capture mode. -/
def Config.recast (m : CaptureMode) (c : Config) : Config := { c with captureMode := m }

/-- What becomes of a setting, with another capture mode in the configuration. -/
def Applied.recast (m : CaptureMode) : Applied → Applied
  | accepted c => .accepted (c.recast m)
  | refused e => .refused e
  | aborted => .aborted

/-- A screened list is screened without a look at the configuration. -/
theorem screened_recast (m : CaptureMode) (sc : Screening) (accepts : String → Bool)
    (list : String) (e : ConfigError) (c : Config) :
    screened sc accepts list e (c.recast m) = (screened sc accepts list e c).recast m := by
  unfold screened
  split_ifs <;> rfl

theorem Config.withClientCertificate_recast (m : CaptureMode) (sc : Screening) (c : Config)
    (cert : X509.Certificate) (key : X509.PrivateKey) :
    (c.recast m).withClientCertificate sc cert key =
      (c.withClientCertificate sc cert key).recast m := by
  unfold Config.withClientCertificate
  split
  · rfl
  · split_ifs <;> rfl

/-- **Settings do not read the capture mode.** One is accepted whatever the mode is, or refused
whatever it is, and leaves the mode as it was unless it sets it. -/
theorem Setting.apply_recast (sc : Screening) (c : Config) (m : CaptureMode) (s : Setting) :
    ∃ m', s.apply sc (c.recast m) = (s.apply sc c).recast m' := by
  cases s with
  | versionRange min max =>
    refine ⟨m, ?_⟩
    simp only [Setting.apply]
    split_ifs <;> rfl
  | verifyModeRaw raw =>
    refine ⟨m, ?_⟩
    simp only [Setting.apply]
    split <;> rfl
  | serverName name =>
    refine ⟨m, ?_⟩
    simp only [Setting.apply]
    split_ifs <;> rfl
  | cipherList list => exact ⟨m, screened_recast m sc _ _ _ { c with cipherList := some list }⟩
  | cipherSuites list => exact ⟨m, screened_recast m sc _ _ _ { c with cipherSuites := some list }⟩
  | sigalgs list => exact ⟨m, screened_recast m sc _ _ _ { c with sigalgs := some list }⟩
  | statusType type =>
    refine ⟨m, ?_⟩
    simp only [Setting.apply]
    split_ifs <;> rfl
  | alpn protocols =>
    refine ⟨m, ?_⟩
    simp only [Setting.apply]
    split <;> rfl
  | clientCertificate cert key => exact ⟨m, c.withClientCertificate_recast m sc cert key⟩
  | clientCertificatePem text =>
    refine ⟨m, ?_⟩
    simp only [Setting.apply]
    split
    · rfl
    · split
      · rfl
      · exact c.withClientCertificate_recast m sc _ _
  | captureMode mode => exact ⟨mode, rfl⟩
  | _ => exact ⟨m, rfl⟩

/-- **An engine that does not read the capture mode** of the configuration that it is given. -/
structure Engine.IgnoresCaptureMode {σ : Type} (E : Engine σ) : Prop where
  build : ∀ (c : Config) (m : CaptureMode), E.build? (c.recast m) = E.build? c
  prepare : ∀ (c : Config) (m : CaptureMode) (session : Option Session) (s : σ),
    E.prepare? (c.recast m) session s = E.prepare? c session s

/-! ### Connections -/

namespace Connection

variable {σ : Type} (m : CaptureMode) (c : Connection σ) (E : Engine σ)

/-- The connection with another capture mode in its configuration. -/
def recast : Connection σ := { c with config := c.config.recast m }

/-- A look at the engine goes by the mode of the connection. -/
theorem observe_recast (s : σ) : (c.recast m).observe E s = (c.observe E s).recast m := by
  rcases h : c.captureMode with _ | _ <;> simp [observe, recast, h]

theorem afterCall_recast {α : Type} (s : σ) (result : PollResult α) :
    (c.recast m).afterCall E s result = (c.afterCall E s result).recast m := by
  unfold afterCall
  rw [observe_recast]
  rfl

/-- Whether the configuration may be changed is told by the state. -/
theorem configMut_recast : (c.recast m).configMut = c.configMut.map (Config.recast m) := by
  unfold configMut
  rw [show (c.recast m).ensureLive = c.ensureLive from rfl]
  rcases c.ensureLive with e | ⟨⟨⟩⟩
  · rfl
  · by_cases hs : c.state = .configured <;>
      simp only [bind, Except.bind, show (c.recast m).state = c.state from rfl, hs] <;> rfl

variable {E}

/-- **Questions do not read the capture mode**, not even those that a scratch engine answers. -/
theorem answer_recast (hE : E.IgnoresCaptureMode) (o : SessionObjects) (q : Question) :
    q.answer E (c.recast m) o = q.answer E c o := by
  have hscratch {α : Type} (f : σ → α) : (c.recast m).withEngine E f = c.withEngine E f := by
    unfold withEngine
    rw [show (c.recast m).engine = c.engine from rfl,
      show E.build? (c.recast m).config = E.build? c.config from hE.build _ _]
  cases q with
  | stateText => exact congrArg (_ <$> ·) (hscratch E.stateText)
  | cipherNames => exact congrArg (_ <$> ·) (hscratch E.cipherNames)
  | _ => rfl

end Connection

/-! ### Links -/

namespace Link

variable {σ α : Type}

/-- The link with another capture mode in the configuration of its connection. -/
def recast (m : CaptureMode) (l : Link σ) : Link σ :=
  { l with connection := l.connection.recast m }

/-- A result with the link recast. -/
def recasting (m : CaptureMode) (x : α × Link σ) : α × Link σ := (x.1, x.2.recast m)

section Pieces

variable (E : Engine σ) (m : CaptureMode) (l : Link σ)

theorem drive_recast (operation : String) (call : σ → Call (RawOutcome α × σ)) :
    (l.recast m).drive E operation call = recasting m (l.drive E operation call) := by
  by_cases hr : ∃ s, l.connection.engine = .running s
  · obtain ⟨s, hs⟩ := hr
    obtain ⟨raw, s', w, hrun, hd⟩ := drive_of_running E hs operation call
    obtain ⟨raw', s'', w', hrun', hd'⟩ :=
      drive_of_running E (l := l.recast m) hs operation call
    cases hrun.symm.trans hrun'
    rw [hd, hd', show (l.recast m).connection = l.connection.recast m from rfl,
      Connection.afterCall_recast]
    rfl
  · rw [drive_of_not_running E (fun s hs => hr ⟨s, hs⟩),
      drive_of_not_running E (l := l.recast m) (fun s hs => hr ⟨s, hs⟩)]
    rfl

variable {E} in
/-- Starting hands the configuration to the engine, which does not read the mode. -/
theorem start_recast (hE : E.IgnoresCaptureMode) :
    (l.recast m).start E = recasting m (l.start E) := by
  have hb : E.build? (l.recast m).connection.config = E.build? l.connection.config :=
    hE.build _ _
  have hp (session : Option Session) (s : σ) :
      E.prepare? (l.recast m).connection.config session s =
        E.prepare? l.connection.config session s := hE.prepare _ _ _ _
  have hc : (l.recast m).connection.config.session = l.connection.config.session := rfl
  have ho : (l.recast m).objects = l.objects := rfl
  unfold Link.start
  rw [hb, hc, ho, show (l.recast m).connection.engine = l.connection.engine from rfl]
  rcases l.connection.engine with _ | s | _
  · rcases E.build? l.connection.config with _ | built
    · rfl
    rcases copySession? l.connection.config.session l.objects with _ | ⟨copy, objects⟩
    · rfl
    simp only [hp]
    rcases E.prepare? l.connection.config copy built with _ | prepared
    · rfl
    rcases ha : E.attach? prepared with _ | s <;> simp only [ha] <;> rfl
  · rfl
  · rfl

variable {E} in
theorem startIfConfigured_recast (hE : E.IgnoresCaptureMode) :
    (l.recast m).startIfConfigured E = recasting m (l.startIfConfigured E) := by
  unfold startIfConfigured
  rw [show (l.recast m).connection.state = l.connection.state from rfl]
  split
  · exact start_recast m l hE
  · rfl

/-- The record is read off the engine and the cipher remembered. -/
theorem completeHandshake_recast :
    (l.recast m).completeHandshake E = recasting m (l.completeHandshake E) := by
  unfold completeHandshake
  rw [show (l.recast m).connection = l.connection.recast m from rfl,
    show (l.connection.recast m).engine = l.connection.engine from rfl]
  rcases l.connection.engine with _ | s | _
  · rfl
  · simp only [Connection.observe_recast]
    rcases E.peerChain s with _ | encodings
    · rfl
    · rcases hr : PeerChain.snapshot? encodings with _ | chain <;> simp only [hr] <;> rfl
  · rfl

theorem finish_recast (x : PollResult Unit × Link σ) :
    finish E (recasting m x) = recasting m (finish E x) := by
  obtain ⟨e | ⟨⟨⟩⟩ | d | _, l⟩ := x
  · rfl
  · have hc := completeHandshake_recast E m l
    simp only [recasting, finish] at hc ⊢
    rw [hc]
    rcases l.completeHandshake E with ⟨e | ⟨⟨⟩⟩, l₁⟩ <;> rfl
  · rfl
  · rfl

theorem count_recast (x : PollResult Nat × Link σ) :
    count (recasting m x) = recasting m (count x) := by
  obtain ⟨e | n | d | _, l⟩ := x <;> rfl

theorem settle_recast (x : PollResult ShutdownResult × Link σ) :
    settle (recasting m x) = recasting m (settle x) := by
  obtain ⟨e | (_ | _) | d | _, l⟩ := x <;> rfl

end Pieces

/-! ### The operations -/

section Operations

variable (E : Engine σ) (m : CaptureMode) (l : Link σ)

/-- Guards look at the state. -/
theorem require_recast (operation : String) (allowed : List State) :
    (l.recast m).connection.require operation allowed = l.connection.require operation allowed :=
  rfl

/-- A configuration put in place may differ in its mode too. -/
theorem configure_recast (m' : CaptureMode) (config : Config) :
    ((l.recast m).configure (config.recast m')).1 = (l.configure config).1 ∧
      ∃ m'', ((l.recast m).configure (config.recast m')).2 = (l.configure config).2.recast m'' := by
  unfold configure
  rw [show (l.recast m).connection = l.connection.recast m from rfl, Connection.configMut_recast]
  rcases l.connection.configMut with e | c
  · exact ⟨rfl, m, rfl⟩
  · exact ⟨rfl, m', rfl⟩

variable {E} in
theorem advanceHandshake_recast (hE : E.IgnoresCaptureMode) :
    (l.recast m).advanceHandshake E = recasting m (l.advanceHandshake E) := by
  have hst := startIfConfigured_recast m l hE
  unfold advanceHandshake
  rw [show (l.recast m).connection.ensureLive = l.connection.ensureLive from rfl,
    show (l.recast m).connection.state = l.connection.state from rfl]
  rcases l.connection.ensureLive with e | ⟨⟨⟩⟩
  · rfl
  by_cases hs : l.connection.state = .configured ∨ l.connection.state = .handshaking
  · simp only [hs, if_true, hst]
    rcases l.startIfConfigured E with ⟨e | ⟨⟨⟩⟩, l₁⟩
    · rfl
    · have hd := drive_recast E m l₁.closeWindow "advance_handshake" E.handshake
      exact (congrArg (finish E) hd).trans (finish_recast E m _)
  · simp only [hs, if_false]
    rfl

theorem write_recast (data : Bytes) :
    (l.recast m).write E data = recasting m (l.write E data) := by
  unfold write
  rw [require_recast]
  rcases l.connection.require "write" [.established] with e | ⟨⟨⟩⟩
  · rfl
  · by_cases hd : data.isEmpty = true
    · simp only [hd, if_true]
      rfl
    · simp only [hd]
      exact drive_recast E m l _ _

variable {E} in
theorem writeEarlyData_recast (hE : E.IgnoresCaptureMode) (data : Bytes) :
    (l.recast m).writeEarlyData E data = recasting m (l.writeEarlyData E data) := by
  have hst := startIfConfigured_recast m l hE
  have hadm : admitsEarlyData (l.recast m).connection = admitsEarlyData l.connection := rfl
  have hbudget : earlyDataBudget (l.recast m).connection = earlyDataBudget l.connection := rfl
  unfold writeEarlyData
  rw [show (l.recast m).connection.ensureLive = l.connection.ensureLive from rfl, hadm, hbudget]
  rcases l.connection.ensureLive with e | ⟨⟨⟩⟩
  · rfl
  by_cases ha : (!admitsEarlyData l.connection) = true
  · simp only [ha, if_true]
    rfl
  by_cases hb : earlyDataBudget l.connection = 0 ∨ data.isEmpty = true
  · simp only [ha, hb, if_true]
    rfl
  · simp only [ha, hb, if_false, hst]
    rcases l.startIfConfigured E with ⟨e | ⟨⟨⟩⟩, l₁⟩
    · rfl
    · have hd := drive_recast E m l₁ "write_early_data"
        (E.writeEarlyData (data.take (earlyDataBudget l.connection)))
      exact (congrArg count hd).trans (count_recast m _)

theorem read_recast (max : Nat) (granted : Bool) :
    (l.recast m).read E max granted = recasting m (l.read E max granted) := by
  unfold Link.read
  rw [require_recast]
  rcases l.connection.require "read" readStates with e | ⟨⟨⟩⟩
  · rfl
  rcases ha : affords max granted with _ | _
  · rfl
  by_cases h0 : max = 0
  · simp only [if_pos h0]
    rfl
  · simp only [if_neg h0]
    exact drive_recast E m l _ _

theorem readInto_recast (buffer : Bytes) :
    (l.recast m).readInto E buffer =
      ((l.readInto E buffer).1, (l.readInto E buffer).2.1, (l.readInto E buffer).2.2.recast m) := by
  unfold readInto
  rw [require_recast]
  rcases l.connection.require "read" readStates with e | ⟨⟨⟩⟩
  · rfl
  by_cases hb : buffer.isEmpty = true
  · simp only [hb, if_true]
  · simp only [hb, drive_recast]
    rcases l.drive E "read" (E.read buffer.length) with ⟨e | data | d | _, l₁⟩ <;> rfl

theorem shutdown_recast : (l.recast m).shutdown E = recasting m (l.shutdown E) := by
  have hd := (congrArg settle (drive_recast E m l "shutdown" E.shutdown)).trans (settle_recast m _)
  rcases hs : l.connection.state <;>
    simp only [Link.shutdown, show (l.recast m).connection.state = l.connection.state from rfl, hs]
  case established => exact hd
  case shuttingDown => exact hd
  all_goals rfl

theorem renegotiate_recast : (l.recast m).renegotiate E = recasting m (l.renegotiate E) := by
  unfold Link.renegotiate
  rw [require_recast, show (l.recast m).connection.engine = l.connection.engine from rfl]
  rcases l.connection.require "renegotiate" [.established] with e | ⟨⟨⟩⟩
  · rfl
  rcases l.connection.engine with _ | s | _
  · rfl
  · rcases hr : E.renegotiate s with ⟨_ | _, s'⟩ <;> simp only [hr] <;> rfl
  · rfl

/-- A session that is handed out is a copy in both cases. -/
theorem objectsAfter_recast (q : Question) :
    (l.recast m).objectsAfter E q = l.objectsAfter E q := by
  cases q with
  | session =>
    have hs : (l.recast m).connection.session E l.objects = l.connection.session E l.objects := rfl
    simp only [objectsAfter, show (l.recast m).objects = l.objects from rfl, hs]
  | _ => rfl

variable {E} in
/-- **Operations do not read the capture mode.** An operation over a link that is recast comes to
the same, and leaves the same link recast. -/
theorem perform_recast (hE : E.IgnoresCaptureMode) {op : Operation}
    (hop : ∀ config, op ≠ .configure config) :
    (l.recast m).perform E op = recasting m (l.perform E op) := by
  cases op with
  | configure config => exact absurd rfl (hop config)
  | advanceHandshake => simp only [perform, advanceHandshake_recast m l hE]; rfl
  | write data => simp only [perform, write_recast]; rfl
  | writeEarlyData data => simp only [perform, writeEarlyData_recast m l hE]; rfl
  | read max granted => simp only [perform, read_recast]; rfl
  | readInto buffer => simp only [perform, readInto_recast]; rfl
  | shutdown => simp only [perform, shutdown_recast]; rfl
  | renegotiate => simp only [perform, renegotiate_recast]; rfl
  | ask q =>
    have hq : q.answer E (l.recast m).connection (l.recast m).objects =
        q.answer E l.connection l.objects := l.connection.answer_recast m hE l.objects q
    simp only [perform, objectsAfter_recast, hq]
    rfl

end Operations

end Link

end SocketlessTls
