import SocketlessTls.Proofs.Pipe.Moves

/-!
# Several ways to do one thing

There are three ways to read at an end of a pipe and two ways to write, and each goes through checks
of its own: for the sibling, for an empty queue, for a request of nothing. All the same they are
ways to do one thing. Reading takes the front of the queue, and whether it hands it over or puts it
into a buffer is the same to the pipe (`SocketlessTls.Pipe.readInto_eq`). A byte stream does what
reading into a buffer and writing do, and only words its errors in another way; the one exception is
a read of nothing, which as a byte stream always succeeds.

What an engine makes of its stream hangs on one more thing. A stream that reads no bytes has come to
its end, and one that takes none never will take any. An empty queue is not the end of the stream
and a full one is not stuck:
**where something is asked for, neither a read nor a write comes to zero**
(`SocketlessTls.Pipe.ioRead_ne_zero`, `SocketlessTls.Pipe.ioWrite_ne_zero`).

* `SocketlessTls.Pipe.Agreeing` – what it means that the ways agree, in full;
* `SocketlessTls.Pipe.ways_agree` – they do, in any pipe and at either end.
-/

namespace SocketlessTls

namespace Pipe

/-! ### Reading -/

section Reading

variable (p : Pipe) (s : Side)

/-- What becomes of a buffer when so many bytes have been read as it can hold. -/
def fill (buffer : Bytes) : Except PipeError Bytes × Pipe → Except PipeError Nat × Bytes × Pipe
  | (.ok bytes, p) => (.ok bytes.length, bytes ++ buffer.drop bytes.length, p)
  | (.error e, p) => (.error e, buffer, p)

/-- **Reading into a buffer is reading, and filling the buffer with what has been read.** -/
theorem readInto_eq (buffer : Bytes) :
    p.readInto s buffer = fill buffer (p.read s buffer.length) := by
  rcases hr : p.isSiblingReleased s with _ | _
  · rcases hq : p.inbound s with _ | ⟨b, queue⟩
    · simp [readInto, read, hr, hq, fill]
    · have hlength : ((b :: queue).take (min buffer.length (b :: queue).length)).length =
          min buffer.length (b :: queue).length := by simp
      have hread : p.read s buffer.length =
          (.ok ((b :: queue).take (min buffer.length (b :: queue).length)),
            p.setInbound s ((b :: queue).drop (min buffer.length (b :: queue).length))) := by
        simp [read, hr, hq]
      rw [hread, fill, hlength]
      simp [readInto, hr, hq]
  · simp [readInto, read, hr, fill]

/-- No more bytes are read than have been asked for, and none only if none have been. -/
theorem length_of_read {max : Nat} {bytes : Bytes} (h : (p.read s max).1 = .ok bytes) :
    bytes.length ≤ max ∧ (bytes = [] → max = 0) := by
  rcases hr : p.isSiblingReleased s with _ | _
  · rcases hq : p.inbound s with _ | ⟨b, queue⟩
    · simp [read, hr, hq] at h
    · have hbytes : bytes = (b :: queue).take (min max (b :: queue).length) := by
        simpa [read, hr, hq] using h.symm
      have hlength : bytes.length = min max (b :: queue).length := by
        rw [hbytes]
        simp
      refine ⟨hlength ▸ Nat.min_le_left _ _, fun hnil => ?_⟩
      rw [hnil, List.length_nil, List.length_cons] at hlength
      omega
  · simp [read, hr] at h

/-- A read that is refused leaves the pipe as it was. -/
theorem read_of_error {max : Nat} {e : PipeError} (h : (p.read s max).1 = .error e) :
    (p.read s max).2 = p := by
  rcases p.read_cases s max with ⟨e', he⟩ | ⟨bytes, rest, -, hr⟩
  · rw [he]
  · rw [hr] at h
    cases h

end Reading

/-! ### As a byte stream -/

/-- **A result in the words of a byte stream.** A success stays as it is, and so does an error of
want; a sibling that is gone is an error of the given kind. -/
structure Reworded (gone : IoKind) (result : Except PipeError Nat) (worded : Except IoError Nat) :
    Prop where
  ok : ∀ n, worded = .ok n ↔ result = .ok n
  wouldBlock : worded = .error ⟨.wouldBlock, none⟩ ↔ result = .error .wouldBlock
  closed : worded = .error ⟨gone, some .closed⟩ ↔ result = .error .closed

/-- Errors are reworded one by one. -/
theorem reworded_mapError {gone : IoKind} {word : PipeError → IoError}
    (hwant : word .wouldBlock = ⟨.wouldBlock, none⟩) (hgone : word .closed = ⟨gone, some .closed⟩)
    (result : Except PipeError Nat) : Reworded gone result (result.mapError word) := by
  rcases result with (_ | _) | n
  · have hword : (Except.error .wouldBlock : Except PipeError Nat).mapError word =
        .error ⟨.wouldBlock, none⟩ := congrArg Except.error hwant
    rw [hword]
    constructor <;> simp
  · have hword : (Except.error .closed : Except PipeError Nat).mapError word =
        .error ⟨gone, some .closed⟩ := congrArg Except.error hgone
    rw [hword]
    constructor <;> simp
  · have hword : (Except.ok n : Except PipeError Nat).mapError word = .ok n := rfl
    rw [hword]
    constructor <;> simp

theorem reworded_readError (result : Except PipeError Nat) :
    Reworded .connectionAborted result (result.mapError readError) :=
  reworded_mapError rfl rfl result

theorem reworded_writeError (result : Except PipeError Nat) :
    Reworded .brokenPipe result (result.mapError writeError) :=
  reworded_mapError rfl rfl result

section Stream

variable (p : Pipe) (s : Side)

/-- Where something is asked for, reading a byte stream is reading into a buffer. -/
theorem ioRead_eq {buffer : Bytes} (h : buffer ≠ []) :
    p.ioRead s buffer =
      ((p.readInto s buffer).1.mapError readError, (p.readInto s buffer).2) := by
  rw [ioRead, if_neg (by simpa using h)]

/-- **An empty queue is not the end of the stream**, and neither is a sibling that is gone: a read
that asks for something never comes to zero. -/
theorem ioRead_ne_zero {buffer : Bytes} (h : buffer ≠ []) : (p.ioRead s buffer).1 ≠ .ok 0 := by
  intro hzero
  rw [p.ioRead_eq s h] at hzero
  have hinto := (reworded_readError _).ok 0 |>.mp hzero
  rw [readInto_eq] at hinto
  rcases hr : p.read s buffer.length with ⟨e | bytes, p'⟩
  · rw [hr] at hinto
    cases hinto
  · rw [hr] at hinto
    have hnil : bytes = [] := List.length_eq_zero_iff.mp (Except.ok.inj hinto)
    have hbuffer := (p.length_of_read s (congrArg Prod.fst hr)).2 hnil
    exact h (List.length_eq_zero_iff.mp hbuffer)

/-- **A full queue takes nothing and says so**: a write of something never comes to zero. -/
theorem ioWrite_ne_zero {data : Bytes} (h : data ≠ []) : (p.ioWrite s data).1 ≠ .ok 0 := by
  intro hzero
  have hwrite : (p.write s data).1 = .ok 0 := ((reworded_writeError _).ok 0).mp hzero
  rcases hr : p.isSiblingReleased s with _ | _
  · rcases Nat.eq_zero_or_pos (p.space s) with h0 | hpos
    · simp [write, hr, h, h0] at hwrite
    · simp [write, hr, h, Nat.ne_of_gt hpos] at hwrite
  · simp [write, hr] at hwrite

end Stream

/-! ### All of them -/

/-- **The ways to read and to write at an end agree.** -/
structure Agreeing (p : Pipe) (s : Side) : Prop where
  /-- A buffer is refused just what a read of its length is. -/
  refused : ∀ buffer e,
    (p.readInto s buffer).1 = .error e ↔ (p.read s buffer.length).1 = .error e
  /-- What is read stands in front in the buffer, as many bytes as are reported, and behind them is
  what was there before. -/
  filled : ∀ buffer n, (p.readInto s buffer).1 = .ok n ↔
    ∃ bytes, (p.read s buffer.length).1 = .ok bytes ∧ bytes.length = n ∧ n ≤ buffer.length ∧
      (p.readInto s buffer).2.1 = bytes ++ buffer.drop n
  samePipe : ∀ buffer, (p.readInto s buffer).2.2 = (p.read s buffer.length).2
  /-- A refusal leaves the buffer and the pipe as they were. -/
  untouched : ∀ buffer e, (p.readInto s buffer).1 = .error e → (p.readInto s buffer).2 = (buffer, p)
  ioRead : ∀ buffer, buffer ≠ [] → (p.ioRead s buffer).2 = (p.readInto s buffer).2 ∧
    Reworded .connectionAborted (p.readInto s buffer).1 (p.ioRead s buffer).1
  /-- Only a read of nothing is not refused as a byte stream where it would be into a buffer. -/
  ioReadNothing : p.ioRead s [] = (.ok 0, [], p)
  ioWrite : ∀ data, (p.ioWrite s data).2 = (p.write s data).2 ∧
    Reworded .brokenPipe (p.write s data).1 (p.ioWrite s data).1
  ioReadSome : ∀ buffer, buffer ≠ [] → (p.ioRead s buffer).1 ≠ .ok 0
  ioWriteSome : ∀ data, data ≠ [] → (p.ioWrite s data).1 ≠ .ok 0

/-- **Whichever way an end is used, the same happens**, whatever waits in the pipe, whatever is
asked for, and whoever is gone. -/
theorem ways_agree (p : Pipe) (s : Side) : Agreeing p s where
  refused buffer e := by
    rw [readInto_eq]
    rcases p.read s buffer.length with ⟨e' | bytes, p'⟩
    · exact ⟨fun h => congrArg _ (Except.error.inj h), fun h => congrArg _ (Except.error.inj h)⟩
    · exact iff_of_false nofun nofun
  filled buffer n := by
    rw [readInto_eq]
    rcases hr : p.read s buffer.length with ⟨e | bytes, p'⟩
    · exact iff_of_false nofun fun ⟨bytes, h, _⟩ => nomatch h
    · have hle := (p.length_of_read s (congrArg Prod.fst hr)).1
      constructor
      · intro h
        obtain rfl := Except.ok.inj h
        exact ⟨bytes, rfl, rfl, hle, rfl⟩
      · rintro ⟨bytes', h, rfl, -, -⟩
        obtain rfl := Except.ok.inj h
        rfl
  samePipe buffer := by
    rw [readInto_eq]
    rcases p.read s buffer.length with ⟨e | bytes, p'⟩ <;> rfl
  untouched buffer e h := by
    rw [readInto_eq] at h ⊢
    rcases hr : p.read s buffer.length with ⟨e' | bytes, p'⟩
    · have hp : p' = p := by
        have hsame := p.read_of_error s (congrArg Prod.fst hr)
        rwa [hr] at hsame
      rw [fill, hp]
    · rw [hr] at h
      cases h
  ioRead buffer h := by
    rw [p.ioRead_eq s h]
    exact ⟨rfl, reworded_readError _⟩
  ioReadNothing := rfl
  ioWrite data := ⟨rfl, reworded_writeError _⟩
  ioReadSome _ h := p.ioRead_ne_zero s h
  ioWriteSome _ h := p.ioWrite_ne_zero s h

end Pipe

end SocketlessTls
