import SocketlessTls.Engine.Waiting
import SocketlessTls.Proofs.Connection.Refusal

/-!
# Two ways to read

What a connection decrypts is handed over, or it is put into a buffer of the caller's. The first way
is more than the second one: it takes a buffer of its own, which it may not get, fills it with
zeros, reads into it, and cuts off what has not been read. So a zero too many or a byte too few
would show, and both ways look at the state of the connection and at a size of nothing for
themselves.

**Both are one way to read** (`SocketlessTls.Link.reading_agrees`). They make the same engine call,
or none; they say the same, and leave the same behind. What is handed over is what the engine has
read, all of it and nothing else, and the same bytes stand in the front of the buffer. Only a buffer
that cannot be had makes a difference, and it does so where reading is allowed and before the engine
is asked.

Of the engine one thing is assumed: it does not read more than it has been asked for
(`SocketlessTls.Engine.ReadsWithin`).

* `SocketlessTls.Link.ReadsAlike` – what it means that the two ways agree;
* `SocketlessTls.Link.readStepwise_eq` – the first way, step by step;
* `SocketlessTls.Link.Readable` – all that is said of reading.
-/

namespace SocketlessTls

/-- **An engine does not read more than it has been asked for.** -/
def Engine.ReadsWithin {σ : Type} (E : Engine σ) : Prop :=
  ∀ max s w bytes, ((E.read max s).run .engine w).1.1 = .done bytes → bytes.length ≤ max

namespace Link

variable {σ : Type}

/-! ### Reading into a buffer -/

section Buffers

variable {E : Engine σ} {l : Link σ}

/-- What is ready has been read by the engine, which does not read too much. -/
theorem length_of_drive_read (hE : E.ReadsWithin) {max : Nat} {bytes : Bytes}
    (h : (l.drive E "read" (E.read max)).1 = .ok (.ready bytes)) : bytes.length ≤ max := by
  by_cases hrunning : ∃ s, l.connection.engine = .running s
  · obtain ⟨s, hs⟩ := hrunning
    obtain ⟨raw, s', w, hrun, hd⟩ := drive_of_running E hs "read" (E.read max)
    rw [hd] at h
    obtain rfl := done_of_resultOf E raw s' w h
    exact hE max s _ bytes (by rw [hrun])
  · rw [drive_of_not_running E fun s hs => hrunning ⟨s, hs⟩] at h
    cases h

/-- Bytes for which there is room stand in the front of a buffer, and behind them is what was there
before. -/
theorem fill_ready {buffer bytes : Bytes} (h : bytes.length ≤ buffer.length) :
    fill buffer (.ok (.ready bytes)) = bytes ++ buffer.drop bytes.length := by
  refine List.take_of_length_le ?_
  rw [List.length_append, List.length_drop]
  omega

/-- What has been read is what is left of the buffer when the rest of it is cut off. -/
theorem map_take_fill {buffer : Bytes} {result : PollResult Bytes}
    (h : ∀ bytes, result = .ok (.ready bytes) → bytes.length ≤ buffer.length) :
    (result.map (Poll.map List.length)).map (Poll.map fun n => (fill buffer result).take n) =
      result := by
  rcases result with e | bytes | d | _
  · rfl
  · have hfill := fill_ready (h bytes rfl)
    have htake : (fill buffer (.ok (.ready bytes))).take bytes.length = bytes := by
      rw [hfill, List.take_left]
    exact congrArg (fun b => Except.ok (Poll.ready b)) htake
  · rfl
  · rfl

end Buffers

/-! ### One way as the other -/

section Agreement

variable {E : Engine σ} {l : Link σ}

/-- **Reading into a buffer is reading, and filling the buffer with what has been read**, where a
buffer of that length can be had or is not asked for. -/
theorem readInto_eq {buffer : Bytes} {granted : Bool}
    (hb : affords buffer.length granted = true ∨ l.connection.state ∉ readStates) :
    l.readInto E buffer = ((l.read E buffer.length granted).1.map (Poll.map List.length),
      fill buffer (l.read E buffer.length granted).1, (l.read E buffer.length granted).2) := by
  rcases require_or_refusal l.connection "read" readStates with ⟨hr, hs⟩ | ⟨e, -, hr, -⟩
  · have ha : affords buffer.length granted = true := hb.resolve_right fun hno => hno hs
    rcases readInto_cases E l buffer with ⟨-, -, hno, -⟩ | ⟨-, rfl, hread⟩ | ⟨-, hne, hread⟩
    · exact absurd hs hno
    · rw [hread]
      simp only [read, hr]
      rfl
    · have h0 : buffer.length ≠ 0 := fun h0 => hne (List.length_eq_zero_iff.mp h0)
      simp only [hread, read, hr, ha, Bool.not_true, Bool.false_eq_true, if_false, if_neg h0]
  · simp only [readInto, read, hr]
    rfl

/-- **Counting what has been read** changes nothing else about a result. -/
theorem map_length_iff (result : PollResult Bytes) :
    (∀ e, result = .error e ↔ result.map (Poll.map List.length) = .error e) ∧
    (∀ d, result = .ok (.wouldBlock d) ↔
      result.map (Poll.map List.length) = .ok (.wouldBlock d)) ∧
    (result = .ok .peerClosed ↔ result.map (Poll.map List.length) = .ok .peerClosed) ∧
    ∀ n, result.map (Poll.map List.length) = .ok (.ready n) ↔
      ∃ bytes, result = .ok (.ready bytes) ∧ bytes.length = n := by
  rcases result with e | bytes | d | _ <;> simp [Except.map, Poll.map]

/-- No more is read than has been asked for. -/
theorem length_of_read (hE : E.ReadsWithin) {max : Nat} {granted : Bool} {bytes : Bytes}
    (h : (l.read E max granted).1 = .ok (.ready bytes)) : bytes.length ≤ max := by
  rcases read_cases E l max granted with
    ⟨e, -, -, hread⟩ | ⟨-, -, hread⟩ | ⟨-, -, hread⟩ | ⟨-, -, -, hread⟩
  · rw [hread] at h
    cases h
  · rw [hread] at h
    cases h
  · rw [hread] at h
    cases h
    exact Nat.zero_le max
  · rw [hread] at h
    exact length_of_drive_read hE h

/-- **The engine call that both ways make**, where they make one. -/
theorem reading_exchange (h : Coherent l) {buffer : Bytes} {granted : Bool}
    (hinto : (Operation.readInto buffer).Reaches E l)
    (hread : (Operation.read buffer.length granted).Reaches E l) :
    ∃ s objects raw s' w,
      Exchange E l (.read buffer.length granted) (l.perform E (.read buffer.length granted)).1
        (l.perform E (.read buffer.length granted)).2 (E.read buffer.length) s objects raw s' w ∧
      Exchange E l (.readInto buffer) (l.perform E (.readInto buffer)).1
        (l.perform E (.readInto buffer)).2 (E.read buffer.length) s objects raw s' w ∧
      ∀ bytes, (l.read E buffer.length granted).1 = .ok (.ready bytes) ↔ raw = .done bytes := by
  obtain ⟨s, hs⟩ := h.running
    (ne_configured_of_isEstablished (isEstablished_of_readStates hinto.1))
  obtain ⟨raw, s', w, hrun, hd⟩ := drive_of_running E hs "read" (E.read buffer.length)
  refine ⟨s, l.objects, raw, s', w,
    (read_concludes hread).exchange hread (.read buffer.length granted) hs hrun hd,
    (readInto_concludes hinto).exchange hinto (.readInto buffer) hs hrun hd, fun bytes => ?_⟩
  have hresult : (l.read E buffer.length granted).1 = resultOf E raw s' w := by
    rcases read_cases E l buffer.length granted with
      ⟨-, -, hno, -⟩ | ⟨-, hnone, -⟩ | ⟨-, hz, -⟩ | ⟨-, -, -, hdrive⟩
    · exact absurd hread.1 hno
    · cases hread.2.2.symm.trans hnone
    · exact absurd hz hread.2.1
    · rw [hdrive, hd]
  rw [hresult]
  exact ⟨done_of_resultOf E raw s' w, fun hdone => by rw [hdone]; rfl⟩

/-- Reading that does not reach the engine leaves everything as it was. -/
theorem read_untouched {max : Nat} {granted : Bool}
    (h : ¬(Operation.read max granted).Reaches E l) : Untouched E l (.read max granted) := by
  refine ⟨?_, fun k => perform_withCalls E k h⟩
  rcases read_cases E l max granted with
    ⟨e, -, -, hread⟩ | ⟨-, -, hread⟩ | ⟨-, -, hread⟩ | ⟨hs, h0, ha, -⟩
  · rw [perform, hread]
  · rw [perform, hread]
  · rw [perform, hread]
  · exact absurd ⟨hs, h0, ha⟩ h

theorem readInto_untouched {buffer : Bytes} (h : ¬(Operation.readInto buffer).Reaches E l) :
    Untouched E l (.readInto buffer) := by
  refine ⟨?_, fun k => perform_withCalls E k h⟩
  rcases readInto_cases E l buffer with ⟨e, -, -, hread⟩ | ⟨-, -, hread⟩ | ⟨hs, hne, -⟩
  · rw [perform, hread]
  · rw [perform, hread]
  · exact absurd ⟨hs, hne⟩ h

end Agreement

/-! ### Side by side -/

/-- **Reading so many bytes and reading into a buffer of that length agree.** -/
structure ReadsAlike (E : Engine σ) (l : Link σ) (buffer : Bytes) (granted : Bool) : Prop where
  error : ∀ e, (l.read E buffer.length granted).1 = .error e ↔ (l.readInto E buffer).1 = .error e
  wouldBlock : ∀ d, (l.read E buffer.length granted).1 = .ok (.wouldBlock d) ↔
    (l.readInto E buffer).1 = .ok (.wouldBlock d)
  peerClosed : (l.read E buffer.length granted).1 = .ok .peerClosed ↔
    (l.readInto E buffer).1 = .ok .peerClosed
  /-- As many bytes are handed over as are reported for the buffer. -/
  ready : ∀ n, (l.readInto E buffer).1 = .ok (.ready n) ↔
    ∃ bytes, (l.read E buffer.length granted).1 = .ok (.ready bytes) ∧ bytes.length = n
  /-- They are the bytes in the front of the buffer, which has room for them, and behind them is
  what was there before. -/
  bytes : ∀ bytes, (l.read E buffer.length granted).1 = .ok (.ready bytes) →
    bytes.length ≤ buffer.length ∧
      (l.readInto E buffer).2.1 = bytes ++ buffer.drop bytes.length
  /-- The connection, the pipe and the session objects are the same afterwards. -/
  link : (l.read E buffer.length granted).2 = (l.readInto E buffer).2.2
  /-- If one of them asks the engine, both do, and they make the same call: in the same state of the
  engine, over the same pipe, and with the same outcome. What is handed over is what this call has
  read. -/
  call : (Operation.readInto buffer).Reaches E l ∨
      (Operation.read buffer.length granted).Reaches E l →
    ∃ s objects raw s' w,
      Exchange E l (.read buffer.length granted) (l.perform E (.read buffer.length granted)).1
        (l.perform E (.read buffer.length granted)).2 (E.read buffer.length) s objects raw s' w ∧
      Exchange E l (.readInto buffer) (l.perform E (.readInto buffer)).1
        (l.perform E (.readInto buffer)).2 (E.read buffer.length) s objects raw s' w ∧
      ∀ bytes, (l.read E buffer.length granted).1 = .ok (.ready bytes) ↔ raw = .done bytes
  /-- If neither does, nothing has happened. -/
  idle : ¬(Operation.readInto buffer).Reaches E l →
    ¬(Operation.read buffer.length granted).Reaches E l →
    Untouched E l (.read buffer.length granted) ∧ Untouched E l (.readInto buffer)

/-- **Where a buffer can be had or is not asked for, the two ways agree.** -/
theorem readsAlike {E : Engine σ} (hE : E.ReadsWithin) {l : Link σ} (h : Coherent l)
    {buffer : Bytes} {granted : Bool}
    (hb : affords buffer.length granted = true ∨ l.connection.state ∉ readStates) :
    ReadsAlike E l buffer granted := by
  have hinto := readInto_eq (E := E) hb
  obtain ⟨herror, hblock, hclosed, hready⟩ := map_length_iff (l.read E buffer.length granted).1
  -- what stands in the way of one call stands in the way of the other
  have hreaches : (Operation.readInto buffer).Reaches E l ↔
      (Operation.read buffer.length granted).Reaches E l := by
    constructor
    · rintro ⟨hs, hne⟩
      exact ⟨hs, fun h0 => hne (List.length_eq_zero_iff.mp h0),
        hb.resolve_right fun hno => hno hs⟩
    · rintro ⟨hs, h0, -⟩
      exact ⟨hs, fun hnil => h0 (List.length_eq_zero_iff.mpr hnil)⟩
  refine ⟨?_, ?_, ?_, ?_, fun bytes hread => ?_, ?_, fun hr => ?_, fun hno hno' =>
    ⟨read_untouched hno', readInto_untouched hno⟩⟩
  · rwa [hinto]
  · rwa [hinto]
  · rwa [hinto]
  · rwa [hinto]
  · have hle := length_of_read hE hread
    rw [hinto, hread]
    exact ⟨hle, fill_ready hle⟩
  · rw [hinto]
  · rcases hr with hr | hr
    · exact reading_exchange h hr (hreaches.mp hr)
    · exact reading_exchange h (hreaches.mpr hr) hr

/-! ### Step by step -/

/-- **Reading in steps** comes to what reading comes to. -/
theorem readStepwise_eq {E : Engine σ} (hE : E.ReadsWithin) (l : Link σ) (max : Nat)
    (granted : Bool) : l.readStepwise E max granted = l.read E max granted := by
  rcases require_or_refusal l.connection "read" readStates with ⟨hr, -⟩ | ⟨e, -, hr, -⟩
  · rcases ha : affords max granted with _ | _
    · simp only [readStepwise, read, hr, ha]
      rfl
    · have hlength : (List.replicate max (0 : UInt8)).length = max := List.length_replicate
      have hinto : l.readInto E (List.replicate max 0) =
          ((l.read E max granted).1.map (Poll.map List.length),
            fill (List.replicate max 0) (l.read E max granted).1, (l.read E max granted).2) := by
        have hbuffer : affords (List.replicate max (0 : UInt8)).length granted = true ∨
            l.connection.state ∉ readStates := Or.inl (hlength.symm ▸ ha)
        have h := readInto_eq (E := E) hbuffer
        rwa [hlength] at h
      simp only [readStepwise, hr, ha, if_true, hinto]
      refine Prod.ext (map_take_fill fun bytes hread => ?_) rfl
      rw [hlength]
      exact length_of_read hE hread
  -- a refusal comes before the buffer is asked for
  · simp only [readStepwise, read, hr]

/-! ### A buffer that cannot be had -/

/-- **Reading runs out of memory exactly where a buffer cannot be had**, if reading is allowed. -/
theorem read_resourceExhausted_iff (E : Engine σ) (l : Link σ) (max : Nat) (granted : Bool) :
    (l.read E max granted).1 = .error .resourceExhausted ↔
      l.connection.state ∈ readStates ∧ affords max granted = false := by
  rcases read_cases E l max granted with
    ⟨e, he, hno, hread⟩ | ⟨hs, hnone, hread⟩ | ⟨-, rfl, hread⟩ | ⟨-, -, ha, hread⟩ <;> rw [hread]
  · refine iff_of_false (fun h => ?_) fun h => hno h.1
    obtain rfl := Except.error.inj h
    cases he
  · exact iff_of_true rfl ⟨hs, hnone⟩
  · exact iff_of_false nofun fun h => Bool.noConfusion h.2
  · refine iff_of_false (fun h => ?_) fun h => Bool.noConfusion (ha.symm.trans h.2)
    by_cases hrunning : ∃ s, l.connection.engine = .running s
    · obtain ⟨s, hs⟩ := hrunning
      obtain ⟨raw, s', w, -, hd⟩ := drive_of_running E hs "read" (E.read max)
      rw [hd] at h
      cases isRefusal_of_resultOf E raw s' w (congrArg forget h)
    · rw [drive_of_not_running E fun s hs => hrunning ⟨s, hs⟩] at h
      cases h

/-- A buffer cannot be had that is not granted, or is too large; but one without any room can. -/
theorem affords_eq_false_iff (max : Nat) (granted : Bool) :
    affords max granted = false ↔ max ≠ 0 ∧ (granted = false ∨ maxBuffer < max) := by
  by_cases h0 : max = 0
  · subst h0
    exact iff_of_false Bool.noConfusion fun h => h.1 rfl
  · rw [← Bool.not_eq_true, affords_iff h0, not_and_or, Bool.not_eq_true, Nat.not_le]
    exact (and_iff_right h0).symm

/-- **A size of nothing** is read where data may be read, and nowhere else. -/
theorem read_zero_iff (E : Engine σ) (l : Link σ) (granted : Bool) :
    (l.read E 0 granted).1 = .ok (.ready []) ↔ l.connection.state ∈ readStates := by
  rcases read_cases E l 0 granted with
    ⟨e, -, hno, hread⟩ | ⟨-, hnone, -⟩ | ⟨hs, -, hread⟩ | ⟨-, h0, -⟩
  · rw [hread]
    exact iff_of_false nofun hno
  · cases hnone
  · rw [hread]
    exact iff_of_true rfl hs
  · exact absurd rfl h0

/-! ### Reachable connections -/

/-- **What is said of reading** at a link `l`, whether a buffer is granted or not. -/
structure Readable (E : Engine σ) (l : Link σ) : Prop where
  /-- Reading and reading into a buffer agree, unless a buffer is asked for and cannot be had. -/
  alike : ∀ buffer granted,
    affords buffer.length granted = true ∨ l.connection.state ∉ readStates →
    ReadsAlike E l buffer granted
  /-- A size of nothing is read where data may be read, and the engine is never asked for it. -/
  nothing : ∀ granted, ((l.read E 0 granted).1 = .ok (.ready []) ↔
      l.connection.state = .established ∨ l.connection.state = .shuttingDown) ∧
    Untouched E l (.read 0 granted)
  /-- Memory runs out where data may be read, if it is not granted or the size is too large, -/
  exhausted : ∀ max granted, (l.read E max granted).1 = .error .resourceExhausted ↔
    (l.connection.state = .established ∨ l.connection.state = .shuttingDown) ∧
      max ≠ 0 ∧ (granted = false ∨ maxBuffer < max)
  /-- and before anything has happened. -/
  untouched : ∀ max granted, (l.read E max granted).1 = .error .resourceExhausted →
    Untouched E l (.read max granted)
  /-- Step by step, reading comes to the same. -/
  steps : ∀ max granted, l.readStepwise E max granted = l.read E max granted

/-- **Reading is one thing in two ways**, at every connection that a run has reached, over any
engine that does not read more than it has been asked for. -/
theorem reading_agrees (E : Engine σ) (hE : E.ReadsWithin) (config : Config) (pipe : Pipe)
    (objects : SessionObjects) (h : pipe.isReleased .engine = false) (es : List Event) :
    Readable E ((fresh config pipe objects).after E es) := by
  have hc : Coherent ((fresh config pipe objects).after E es) :=
    after_coherent E (.of_fresh config pipe objects h) es
  generalize (fresh config pipe objects).after E es = l at hc
  have hstates : l.connection.state ∈ readStates ↔
      l.connection.state = .established ∨ l.connection.state = .shuttingDown := List.mem_pair
  refine ⟨fun buffer granted hb => readsAlike hE hc hb, fun granted => ⟨?_, ?_⟩,
    fun max granted => ?_, fun max granted hmax => ?_, fun max granted => ?_⟩
  · rw [← hstates]
    exact read_zero_iff E l granted
  · exact read_untouched fun hr => hr.2.1 rfl
  · rw [← hstates, ← affords_eq_false_iff]
    exact read_resourceExhausted_iff E l max granted
  · have hnone := ((read_resourceExhausted_iff E l max granted).mp hmax).2
    exact read_untouched fun hr => Bool.noConfusion (hr.2.2.symm.trans hnone)
  · exact readStepwise_eq hE l max granted

/-! ### An engine with something to read -/

/-- An engine that is done with its handshake at once and has some bytes to be read. -/
def reader (bytes : Bytes) : Engine Bytes :=
  { Engine.waiting bytes with
    handshake := fun s => .done (.done (), s)
    read := fun max s => .done (.done (s.take max), s.drop max) }

theorem reader_readsWithin (bytes : Bytes) : (reader bytes).ReadsWithin := by
  rintro max s w bytes' h
  obtain rfl : s.take max = bytes' := RawOutcome.done.inj h
  exact List.length_take_le max s

/-- The five bytes that there are stand in the front of a buffer of eight, and are handed over
without the rest of it. -/
theorem reader_reads :
    (reader [1, 2, 3, 4, 5]).ReadsWithin ∧ Pipe.default.isReleased .engine = false ∧
      (((fresh .initial .default .empty).after (reader [1, 2, 3, 4, 5])
        [.operation .advanceHandshake]).read (reader [1, 2, 3, 4, 5]) 8 true).1 =
          .ok (.ready [1, 2, 3, 4, 5]) ∧
      (((fresh .initial .default .empty).after (reader [1, 2, 3, 4, 5])
        [.operation .advanceHandshake]).readInto (reader [1, 2, 3, 4, 5])
          [9, 9, 9, 9, 9, 9, 9, 9]).2.1 = [1, 2, 3, 4, 5, 9, 9, 9] := by
  have hread : (((fresh .initial .default .empty).after (reader [1, 2, 3, 4, 5])
      [.operation .advanceHandshake]).read (reader [1, 2, 3, 4, 5]) 8 true).1 =
        .ok (.ready [1, 2, 3, 4, 5]) := rfl
  have hagrees := reading_agrees (reader [1, 2, 3, 4, 5]) (reader_readsWithin _) .initial .default
    .empty rfl [.operation .advanceHandshake]
  exact ⟨reader_readsWithin _, rfl, hread,
    ((hagrees.alike [9, 9, 9, 9, 9, 9, 9, 9] true (Or.inl (by decide))).bytes _ hread).2⟩

end Link

end SocketlessTls
