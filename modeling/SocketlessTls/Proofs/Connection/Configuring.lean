import SocketlessTls.Config.Setter
import SocketlessTls.Engine.Waiting
import SocketlessTls.Proofs.Connection.Alike

/-!
# Settings that are made late

A configuration may be made first and the connection from it, or the connection first and the
settings through it, as long as the handshake has not started. The two should be the same, and but
for one setting they are: whether ciphers are remembered is read off the configuration when the
connection is made, while all other settings are read when the engine starts. A connection whose
capture mode is set through it shows the new mode and goes on with the old one.

* `SocketlessTls.Link.setAll` – settings made through a connection, one after another;
* `SocketlessTls.Link.SameRuns` – two links that cannot be told apart, whatever is done to them;
* `SocketlessTls.Link.settings_through_connection` – settings through a connection are the same as
  settings beforehand, up to the cipher, and with the cipher exactly if the capture mode is left as
  it was.
-/

namespace SocketlessTls

/-! ### Making settings -/

namespace Link

variable {σ : Type}

/-- Tries a setting through the connection, if its configuration may still be changed. -/
def set (sc : Screening) (l : Link σ) (t : Trial) : Link σ :=
  (l.configure (t.run sc l.connection.config).2).2

/-- Tries settings through the connection, one after another. -/
def setAll (sc : Screening) (l : Link σ) (trials : List Trial) : Link σ := trials.foldl (set sc) l

/-- Before the handshake starts, settings reach the configuration and nothing else. -/
theorem setAll_of_configured (sc : Screening) {l : Link σ}
    (h : l.connection.state = .configured) (trials : List Trial) :
    l.setAll sc trials = { l with connection := { l.connection with
      config := l.connection.config.afterTrials sc trials } } := by
  induction trials generalizing l with
  | nil => rfl
  | cons t trials ih =>
    show (l.set sc t).setAll sc trials = _
    rcases configure_cases l (t.run sc l.connection.config).2 with ⟨-, hc⟩ | ⟨e, -, hne, -⟩
    · have hset : l.set sc t = { l with connection := { l.connection with
          config := (t.run sc l.connection.config).2 } } := congrArg Prod.snd hc
      rw [hset]
      exact ih h
    · exact absurd h hne

/-- **What settings make of a connection**: the one that is made of the final configuration, but for
the capture mode, which is the first one. -/
theorem setAll_fresh (sc : Screening) (c : Config) (trials : List Trial) (pipe : Pipe)
    (objects : SessionObjects) :
    ((fresh c pipe objects).setAll sc trials : Link σ) =
      { connection := { Connection.fresh (c.afterTrials sc trials) with
          captureMode := c.captureMode }
        pipe, objects } :=
  setAll_of_configured sc rfl trials

/-! ### Telling links apart -/

/-- **Two links cannot be told apart** by the events that are looked at: any run, of any events,
takes them to the same state, with the same configuration over the same pipe and among the same
session objects, and whatever then happens is answered the same. -/
def SameRuns (E : Engine σ) (looks : Event → Prop) (l l' : Link σ) : Prop :=
  ∀ es, (l.after E es).connection.state = (l'.after E es).connection.state ∧
    (l.after E es).connection.config = (l'.after E es).connection.config ∧
    (l.after E es).pipe = (l'.after E es).pipe ∧
    (l.after E es).objects = (l'.after E es).objects ∧
    ∀ e, looks e → ((l.after E es).step E e).1 = ((l'.after E es).step E e).1

theorem sameRuns_refl (E : Engine σ) (looks : Event → Prop) (l : Link σ) :
    SameRuns E looks l l := fun _ => ⟨rfl, rfl, rfl, rfl, fun _ _ => rfl⟩

/-- Links that are alike can be told apart by their cipher only. -/
theorem Alike.sameRuns {l l' : Link σ} (h : Alike l l') (E : Engine σ) :
    SameRuns E (· ≠ .operation (.ask .cipher)) l l' := by
  intro es
  have ha := h.after E es
  exact ⟨ha.connection.state.symm, ha.connection.config.symm, ha.pipe.symm, ha.objects.symm,
    fun e he => (ha.step E he).symm⟩

/-! ### An engine that stops short -/

/-- An engine whose handshake gets as far as choosing a cipher and then waits for ever. -/
def undecided (cipher : Cipher) : Engine Unit :=
  { Engine.waiting () with pendingCipher := fun _ => some cipher }

/-- Some cipher. -/
def someCipher : Cipher := ⟨"TLS_AES_128_GCM_SHA256", none, "TLSv1.3", 128, 0x1301, ""⟩

/-- A run that gets as far as choosing a cipher, from any configuration. -/
def undecidedRun : List Event :=
  [.operation (.configure .initial), .operation .advanceHandshake]

/-- What is known of the cipher after that run. -/
def shownAs : CaptureMode → Option Cipher
  | .perStep => some someCipher
  | .disabled => none

theorem shownAs_injective {m m' : CaptureMode} (h : shownAs m = shownAs m') : m = m' := by
  cases m <;> cases m' <;> first | rfl | cases h

/-- **Over such an engine the capture mode shows.** -/
theorem cipher_after_undecidedRun (mode : CaptureMode) (c : Config) :
    ((Link.after (undecided someCipher)
        { connection := { Connection.fresh c with captureMode := mode }
          pipe := .default, objects := .empty } undecidedRun).step (undecided someCipher)
      (.operation (.ask .cipher))).1 = .outcome (.told (.ok (.cipher (shownAs mode)))) := by
  cases mode <;> rfl

/-! ### Settings through a connection -/

/-- Whenever the settings are made, the connections are alike. -/
theorem setAll_alike (sc : Screening) (c : Config) (trials : List Trial) (pipe : Pipe)
    (objects : SessionObjects) :
    Alike ((fresh c pipe objects).setAll sc trials : Link σ)
      (fresh (c.afterTrials sc trials) pipe objects) := by
  rw [setAll_fresh]
  exact ⟨⟨rfl, rfl, rfl, rfl, rfl, rfl⟩, rfl, rfl⟩

/-- Over an engine that stops short, connections that cannot be told apart have the same capture
mode. -/
theorem captureMode_of_sameRuns (sc : Screening) (c : Config) (trials : List Trial)
    (h : SameRuns (undecided someCipher) (fun _ => True)
      ((fresh c .default .empty).setAll sc trials)
      (fresh (c.afterTrials sc trials) .default .empty)) :
    (c.afterTrials sc trials).captureMode = c.captureMode := by
  obtain ⟨-, -, -, -, hask⟩ := h undecidedRun
  -- the same run from either link ends in an answer that shows its capture mode
  have hlate := cipher_after_undecidedRun c.captureMode (c.afterTrials sc trials)
  have hearly := cipher_after_undecidedRun (c.afterTrials sc trials).captureMode
    (c.afterTrials sc trials)
  rw [← setAll_fresh] at hlate
  have hreply := hearly.symm.trans ((hask _ trivial).symm.trans hlate)
  simp only [Reply.outcome.injEq, Outcome.told.injEq, Except.ok.injEq,
    Finding.cipher.injEq] at hreply
  exact shownAs_injective hreply

/-- **Settings made through a connection are the same as settings made beforehand, but for the
capture mode.** A connection that is made first and then set is the one that is made of the final
configuration, with the capture mode of the first. Over any engine, pipe and session objects the
two cannot be told apart other than by their cipher; and they cannot be told apart by their cipher
either exactly if the settings leave the capture mode as it was. -/
theorem settings_through_connection (sc : Screening) (c : Config) (trials : List Trial) :
    (∀ (σ : Type) (pipe : Pipe) (objects : SessionObjects),
      ((fresh c pipe objects).setAll sc trials : Link σ).connection =
        { Connection.fresh (c.afterTrials sc trials) with captureMode := c.captureMode }) ∧
    (∀ (σ : Type) (E : Engine σ) (pipe : Pipe) (objects : SessionObjects),
      SameRuns E (· ≠ .operation (.ask .cipher)) ((fresh c pipe objects).setAll sc trials)
        (fresh (c.afterTrials sc trials) pipe objects)) ∧
    ((∀ (σ : Type) (E : Engine σ) (pipe : Pipe) (objects : SessionObjects),
      SameRuns E (fun _ => True) ((fresh c pipe objects).setAll sc trials)
        (fresh (c.afterTrials sc trials) pipe objects)) ↔
      (c.afterTrials sc trials).captureMode = c.captureMode) := by
  refine ⟨fun σ pipe objects => ?_, fun σ E pipe objects => ?_,
    ⟨fun h => ?_, fun h σ E pipe objects => ?_⟩⟩
  · rw [setAll_fresh]
  · exact (setAll_alike sc c trials pipe objects).sameRuns E
  · exact captureMode_of_sameRuns sc c trials (h Unit _ _ _)
  · rw [setAll_fresh, ← h]
    exact sameRuns_refl E _ _

end Link

end SocketlessTls
