import SocketlessTls.Connection.Query

/-!
# When a question has no answer

A connection that is asked about itself answers or says why not, and there are only three reasons:
it has failed, it lacks what the answer would be taken from, or the engine cannot read what it has.
`SocketlessTls.Question.answer_error` lists them for all questions at once. The second reason
is the one that a connection past its handshake must not give, so it is spelt out what is lacking.
-/

namespace SocketlessTls

/-! ### Errors of composed results -/

section Results

variable {α β : Type}

/-- A result that is mapped has the errors that it had. -/
theorem error_of_map {f : α → β} {r : Except TlsError α} {e : TlsError}
    (h : f <$> r = .error e) : r = .error e := by
  cases r with
  | error e' => exact congrArg Except.error (Except.error.inj h)
  | ok a => cases h

/-- An error of two results in a row is one of the first, or one of the second. -/
theorem error_of_bind {r : Except TlsError α} {f : α → Except TlsError β} {e : TlsError}
    (h : r >>= f = .error e) : r = .error e ∨ ∃ a, r = .ok a ∧ f a = .error e := by
  cases r with
  | error e' => exact Or.inl (congrArg Except.error (Except.error.inj h))
  | ok a => exact Or.inr ⟨a, rfl, h⟩

end Results

/-! ### The reasons -/

namespace Connection

variable {σ : Type} (c : Connection σ)

/-- What the answers to most questions are taken from is not there: the handshake has not been
completed, the engine does not run, or nothing was recorded. -/
def Lacks : Prop := c.state.isEstablished = false ∨ (∀ s, c.engine ≠ .running s) ∨ c.info = none

/-- **The reasons for which a question has no answer.** -/
inductive Unanswered : TlsError → Prop
  | failed (h : c.state = .errored) : Unanswered (.alreadyTerminated .errored)
  | lacking (what : String) (h : c.Lacks) : Unanswered (.notYetAvailable what)
  | engine : Unanswered .engine

variable {c}

theorem Unanswered.not_fatal {e : TlsError} (h : c.Unanswered e) : e.isFatal = false := by
  cases h <;> rfl

theorem unanswered_of_ensureNotErrored {e : TlsError} (h : c.ensureNotErrored = .error e) :
    c.Unanswered e := by
  unfold ensureNotErrored at h
  split at h
  · rename_i hs
    rw [hs] at h
    obtain rfl := Except.error.inj h
    exact .failed hs
  · cases h

/-- The engine can be asked if the handshake is over and the engine runs. -/
theorem unanswered_of_establishedEngine {what : String} {e : TlsError}
    (h : c.establishedEngine what = .error e) : c.Unanswered e := by
  rcases error_of_bind h with h | ⟨-, -, h⟩
  · exact unanswered_of_ensureNotErrored h
  split at h
  · rename_i hs
    obtain rfl := Except.error.inj h
    exact .lacking what (Or.inl (by simpa using hs))
  split at h
  · cases h
  · rename_i hne
    obtain rfl := Except.error.inj h
    exact .lacking what (Or.inr (Or.inl hne))

theorem unanswered_of_negotiated {what : String} {e : TlsError}
    (h : c.negotiated what = .error e) : c.Unanswered e := by
  rcases error_of_bind h with h | ⟨-, -, h⟩
  · exact unanswered_of_establishedEngine h
  split at h
  · cases h
  · rename_i hi
    obtain rfl := Except.error.inj h
    exact .lacking what (Or.inr (Or.inr hi))

/-- The cipher is told in every state but the first. -/
theorem unanswered_of_cipher {E : Engine σ} {e : TlsError} (h : c.cipher E = .error e) :
    c.Unanswered e := by
  unfold cipher at h
  split at h
  · rename_i hs
    obtain rfl := Except.error.inj h
    exact .lacking _ (Or.inl (by rw [hs]; rfl))
  · split at h
    · cases h
    · split at h
      · cases h
      · split at h <;> cases h

theorem unanswered_of_session {E : Engine σ} {o : SessionObjects} {e : TlsError}
    (h : c.session E o = .error e) : c.Unanswered e := by
  rcases error_of_bind h with h | ⟨s, -, h⟩
  · exact unanswered_of_establishedEngine h
  split at h
  · cases h
  · split at h
    · obtain rfl := Except.error.inj h
      exact .engine
    · cases h

theorem unanswered_of_ocspResponse {E : Engine σ} {e : TlsError}
    (h : c.ocspResponse E = .error e) : c.Unanswered e := by
  rcases error_of_bind h with h | ⟨s, -, h⟩
  · exact unanswered_of_establishedEngine h
  rcases hr : E.ocspResponse s with _ | der
  · simp [hr] at h
  rcases hc : E.peerChain s with _ | encodings
  · rcases hd : Ocsp.Response.ofDer? der with _ | r
    · obtain rfl : TlsError.engine = e := by simpa [hr, hc, hd] using h
      exact .engine
    · simp [hr, hc, hd] at h
  rcases hp : PeerChain.snapshot? encodings with _ | chain
  · obtain rfl : TlsError.engine = e := by simpa [hr, hc, hp, bind, Except.bind] using h
    exact .engine
  rcases hd : Ocsp.Response.ofDer? der with _ | r
  · obtain rfl : TlsError.engine = e := by simpa [hr, hc, hp, hd] using h
    exact .engine
  · simp [hr, hc, hp, hd] at h

theorem unanswered_of_earlyDataStatus {E : Engine σ} {e : TlsError}
    (h : c.earlyDataStatus E = .error e) : c.Unanswered e := by
  rcases error_of_bind h with h | ⟨-, -, h⟩
  · exact unanswered_of_ensureNotErrored h
  · split at h <;> cases h

theorem unanswered_of_pendingBytes {E : Engine σ} {e : TlsError}
    (h : c.pendingBytes E = .error e) : c.Unanswered e := by
  rcases error_of_bind h with h | ⟨-, -, h⟩
  · exact unanswered_of_ensureNotErrored h
  · split at h <;> cases h

/-- What a scratch engine can tell is told in every state, if an engine can be built. -/
theorem unanswered_of_withEngine {α : Type} {E : Engine σ} {f : σ → α} {e : TlsError}
    (h : c.withEngine E f = .error e) : c.Unanswered e := by
  unfold withEngine at h
  split at h
  · cases h
  · split at h
    · cases h
    · obtain rfl := Except.error.inj h
      exact .engine

end Connection

/-! ### All questions -/

/-- **Why a question has no answer.** -/
theorem Question.answer_error {σ : Type} {E : Engine σ} {c : Connection σ}
    {o : SessionObjects} {q : Question} {e : TlsError} (h : q.answer E c o = .error e) :
    c.Unanswered e := by
  cases q with
  | protocolVersion => exact Connection.unanswered_of_negotiated (error_of_map (error_of_map h))
  | peerCertChain => exact Connection.unanswered_of_negotiated (error_of_map (error_of_map h))
  | cipher => exact Connection.unanswered_of_cipher (error_of_map h)
  | session => exact Connection.unanswered_of_session (error_of_map h)
  | ocspResponse => exact Connection.unanswered_of_ocspResponse (error_of_map h)
  | earlyDataStatus => exact Connection.unanswered_of_earlyDataStatus (error_of_map h)
  | pendingBytes => exact Connection.unanswered_of_pendingBytes (error_of_map h)
  | stateText => exact Connection.unanswered_of_withEngine (error_of_map h)
  | cipherNames => exact Connection.unanswered_of_withEngine (error_of_map h)
  | _ => exact Connection.unanswered_of_establishedEngine (error_of_map (error_of_map h))

end SocketlessTls
