import SocketlessTls.Proofs.Connection.Configuring
import SocketlessTls.Proofs.Connection.Course
import SocketlessTls.Proofs.Connection.Reachable
import SocketlessTls.Proofs.Pipe.Calls

/-!
# A pump is never stuck

Whoever pumps the pipe between a connection and a network is told by the connection which way the
pipe must move. This file shows that it then can: asked for bytes, the pump finds the whole capacity
free, and asked to take bytes away, it finds the whole capacity full. Of the engine this needs one
thing only, that it tells the truth about what has stopped it (`SocketlessTls.Engine.Truthful`).

Three facts come together. On the pipe a run is a list of moves
(`SocketlessTls.Link.after_pipe`), so the pipe under a connection is a bounded queue like any other.
That the pipe must move is said by an engine call and by nothing else
(`SocketlessTls.Link.perform_saysEngine`, `SocketlessTls.Link.failed_of_wouldBlock`). And nothing
happens to the pipe between the transfer that stopped the engine and the end of the operation.

* `SocketlessTls.Link.reported_direction_movable` – the direction reported names a queue that can
  move.
-/

namespace SocketlessTls

/-! ### Engines that tell the truth -/

section Truth

variable {σ α : Type}

/-- **A call that tells the truth about what stopped it**: it asks for bytes only if the last thing
it did on the pipe was to read and it would have blocked there, and for room only if the last thing
was to write and it would have blocked there. -/
def Call.Truthful (c : Call (RawOutcome α × σ)) : Prop :=
  ∀ (w : Call.World) (f : EngineFailure) (s' : σ) (w' : Call.World),
    c.run .engine w = ((.failed f, s'), w') →
    (f.code = ResultCode.wantRead → w.pipe.EndsBlocked .engine (c.moves .engine w) .read) ∧
    (f.code = ResultCode.wantWrite → w.pipe.EndsBlocked .engine (c.moves .engine w) .write)

namespace Call.Truthful

/-- A call that does nothing more asks for nothing. -/
theorem done {a : RawOutcome α × σ} (h : ∀ f, a.1 = .failed f →
    f.code ≠ ResultCode.wantRead ∧ f.code ≠ ResultCode.wantWrite) : (Call.done a).Truthful := by
  intro w f s' w' hrun
  obtain ⟨hr, hw⟩ := h f (congrArg Prod.fst (Prod.mk.inj hrun).1)
  exact ⟨fun hc => absurd hc hr, fun hc => absurd hc hw⟩

/-- **A call that reads first** tells the truth if it does so from there on, and an error makes it
give up at once, asking for bytes only if it would have blocked. -/
theorem read {max : Nat} {next : Except IoError Bytes → Call (RawOutcome α × σ)}
    (hok : ∀ bytes, (next (.ok bytes)).Truthful)
    (herr : ∀ e, ∃ f s, next (.error e) = .done (.failed f, s) ∧
      (f.code = ResultCode.wantRead → e.kind = .wouldBlock) ∧ f.code ≠ ResultCode.wantWrite) :
    (Call.read max next).Truthful := by
  intro w f s' w' hrun
  rcases hres : (w.pipe.ioRead .engine (List.replicate max 0)).1 with e | n
  · obtain ⟨f₁, s₁, hnext, hread, hwrite⟩ := herr e
    simp only [Call.run, hres, Except.map, hnext] at hrun
    obtain rfl : f₁ = f := RawOutcome.failed.inj (congrArg (·.1.1) hrun)
    have hmoves : (Call.read max next).moves .engine w =
        [] ++ [⟨.engine, .ioRead (List.replicate max 0)⟩] := by
      simp only [Call.moves, hres, Except.map, hnext, List.nil_append]
    exact ⟨fun hc => .read hmoves hres (hread hc), fun hc => absurd hc hwrite⟩
  · simp only [Call.run, hres, Except.map] at hrun
    obtain ⟨hread, hwrite⟩ := hok _ _ f s' w' hrun
    simp only [Call.moves, hres, Except.map]
    exact ⟨fun hc => (hread hc).cons rfl, fun hc => (hwrite hc).cons rfl⟩

/-- **A call that writes first**, likewise. -/
theorem write {data : Bytes} {next : Except IoError Nat → Call (RawOutcome α × σ)}
    (hok : ∀ n, (next (.ok n)).Truthful)
    (herr : ∀ e, ∃ f s, next (.error e) = .done (.failed f, s) ∧
      (f.code = ResultCode.wantWrite → e.kind = .wouldBlock) ∧ f.code ≠ ResultCode.wantRead) :
    (Call.write data next).Truthful := by
  intro w f s' w' hrun
  rcases hres : (w.pipe.ioWrite .engine data).1 with e | n
  · obtain ⟨f₁, s₁, hnext, hwrite, hread⟩ := herr e
    simp only [Call.run, hres, hnext] at hrun
    obtain rfl : f₁ = f := RawOutcome.failed.inj (congrArg (·.1.1) hrun)
    have hmoves : (Call.write data next).moves .engine w =
        [] ++ [⟨.engine, .ioWrite data⟩] := by
      simp only [Call.moves, hres, hnext, List.nil_append]
    exact ⟨fun hc => absurd hc hread, fun hc => .write hmoves hres (hwrite hc)⟩
  · simp only [Call.run, hres] at hrun
    obtain ⟨hread, hwrite⟩ := hok _ _ f s' w' hrun
    simp only [Call.moves, hres]
    exact ⟨fun hc => (hread hc).cons rfl, fun hc => (hwrite hc).cons rfl⟩

end Call.Truthful

/-- An engine whose calls all tell the truth, whatever its state. -/
def Engine.Truthful (E : Engine σ) : Prop :=
  ∀ {α : Type} (call : σ → Call (RawOutcome α × σ)), E.IsCall call → ∀ s, (call s).Truthful

end Truth

namespace Link

variable {σ : Type}

/-! ### Runs as moves -/

section Moves

variable (E : Engine σ) {l : Link σ}

/-- An exchange does to the pipe what the moves of its call do. -/
theorem Exchange.pipe_eq {α : Type} {op : Operation} {out : Outcome} {l' : Link σ}
    {call : σ → Call (RawOutcome α × σ)} {s : σ} {o : SessionObjects} {raw : RawOutcome α} {s' : σ}
    {w : Call.World} (hx : Exchange E l op out l' call s o raw s' w) :
    l'.pipe = l.pipe.after ((call s).moves .engine ⟨l.pipe, o⟩) := by
  have hrun := Call.run_pipe .engine (call s) ⟨l.pipe, o⟩
  rw [hx.run] at hrun
  exact hx.pipe.trans hrun

/-- **On the pipe an operation is a list of moves.** -/
theorem perform_pipe (h : Coherent l) (op : Operation) :
    ∃ moves, (l.perform E op).2.pipe = l.pipe.after moves := by
  have hcourse := perform_course E h op
  generalize (l.perform E op).1 = out, (l.perform E op).2 = l' at hcourse ⊢
  cases hcourse with
  | called _ hx =>
    obtain ⟨α, call, s, o, raw, s', w, hx⟩ := hx
    exact ⟨_, hx.pipe_eq⟩
  | lost _ _ => exact ⟨[⟨.engine, .release⟩], rfl⟩
  | refused _ _ => exact ⟨[], rfl⟩
  | idle _ => exact ⟨[], rfl⟩
  | configured _ => exact ⟨[], rfl⟩
  | unprepared _ _ => exact ⟨[], rfl⟩
  | told _ => exact ⟨[], rfl⟩
  | declined _ _ => exact ⟨[], rfl⟩
  | accepted _ _ => exact ⟨[], rfl⟩

theorem step_pipe (h : Coherent l) (e : Event) :
    ∃ moves, (l.step E e).2.pipe = l.pipe.after moves := by
  cases e with
  | operation op => exact perform_pipe E h op
  | caller action => exact ⟨[⟨.caller, action⟩], rfl⟩
  | elsewhere objects => exact ⟨[], rfl⟩

/-- **On the pipe a run is a list of moves**, those of its events one after another. -/
theorem after_pipe (h : Coherent l) (es : List Event) :
    ∃ moves, (l.after E es).pipe = l.pipe.after moves := by
  induction es generalizing l with
  | nil => exact ⟨[], rfl⟩
  | cons e es ih =>
    obtain ⟨first, hfirst⟩ := step_pipe E h e
    obtain ⟨rest, hrest⟩ := ih (step_coherent E h e)
    refine ⟨first ++ rest, ?_⟩
    rw [after_cons, hrest, hfirst, Pipe.after_append]

end Moves

/-! ### What is meant by that the pipe must move -/

section Waiting

variable {E : Engine σ} {α : Type} {raw : RawOutcome α} {s : σ} {w : Call.World}

/-- **A call that says the pipe must move** has failed for want of bytes or of room. -/
theorem failed_of_wouldBlock {d : Direction}
    (h : forget (resultOf E raw s w) = .ok (.wouldBlock d)) : ∃ f, raw = .failed f ∧
      ((f.code = ResultCode.wantRead ∧ d = .read) ∨
        (f.code = ResultCode.wantWrite ∧ d = .write)) := by
  have hmeaning := resultOf_meaning E raw s w
  generalize resultOf E raw s w = result at h hmeaning
  cases hmeaning with
  | @wantRead f hf _ =>
    obtain rfl : Direction.read = d := Poll.wouldBlock.inj (Except.ok.inj h)
    exact ⟨f, rfl, Or.inl ⟨hf, rfl⟩⟩
  | @wantWrite f hf _ =>
    obtain rfl : Direction.write = d := Poll.wouldBlock.inj (Except.ok.inj h)
    exact ⟨f, rfl, Or.inr ⟨hf, rfl⟩⟩
  | _ => cases h

end Waiting

/-! ### Pumping -/

/-- **The direction reported names a queue that can move.** Take any engine that tells the truth, a
fresh pipe of any capacity, a connection over it that any run has reached, and any operation. If
the operation says that the pipe must move, then the pipe holds at least one byte in either
direction, and the owner of the caller endpoint can move as many as that at once. -/
theorem reported_direction_movable (E : Engine σ) (hE : E.Truthful) (capacity : Nat)
    (config : Config) (objects : SessionObjects) (es : List Event) (op : Operation)
    (d : Direction)
    (h : (((fresh config (.withCapacity capacity) objects).after E es).perform E op).1.poll =
      .ok (.wouldBlock d)) :
    let p := (((fresh config (.withCapacity capacity) objects).after E es).perform E op).2.pipe
    p.capacity = max capacity 1 ∧ p.Movable .caller d := by
  intro p
  have hstart : Coherent (fresh config (.withCapacity capacity) objects : Link σ) :=
    .of_fresh config _ objects rfl
  have hcoh := after_coherent E hstart es
  -- the pipe is where moves of its two ends have taken a fresh one
  obtain ⟨before, hbefore⟩ := after_pipe E hstart es
  obtain ⟨last, hlast⟩ := perform_pipe E hcoh op
  have hp : p = (Pipe.withCapacity capacity).after (before ++ last) := by
    rw [Pipe.after_append]
    exact hlast.trans (congrArg (·.after last) hbefore)
  have hsound : p.Sound := hp ▸ (Pipe.sound_withCapacity capacity).after _
  have hcap : p.capacity = max capacity 1 := by
    rw [hp, Pipe.capacity_after]
    rfl
  -- the engine has said so, in a call that was stopped by its last transfer
  obtain ⟨α, call, s, o, raw, s', w, hx, hpoll⟩ := perform_saysEngine E hcoh (by rw [h]; rfl)
  obtain ⟨f, rfl, hcode⟩ := failed_of_wouldBlock (hpoll.symm.trans h)
  obtain ⟨hread, hwrite⟩ := hE call hx.makes.isCall s _ f s' w hx.run
  have hblocked := show Pipe.EndsBlocked _ .engine _ d by
    rcases hcode with ⟨hcode, rfl⟩ | ⟨hcode, rfl⟩
    · exact hread hcode
    · exact hwrite hcode
  obtain ⟨hlive, hmissing⟩ := hblocked.missing
  rw [← hx.pipe_eq] at hlive hmissing
  have hthere : p.isReleased .engine = false :=
    (perform_keeps E hcoh op).coherent.isReleased_of_running hx.engine
  refine ⟨hcap, Pipe.movable_of_missing hsound ?_ hthere hlive hmissing⟩
  rw [hcap]
  exact Nat.le_max_right capacity 1

/-! ### One byte at a time -/

/-- What a call reports that was stopped by an error of its end of the pipe. -/
def stopped (want : Int32) (e : IoError) : EngineFailure :=
  if e.kind = .wouldBlock then ⟨want, none, []⟩ else ⟨ResultCode.transport, some e.kind, []⟩

/-- Sends a greeting byte by byte, and then waits for an answer. -/
def greet : Bytes → Call (RawOutcome Unit × Unit)
  | [] => .read 1 fun
    | .ok _ => .done (.done (), ())
    | .error e => .done (.failed (stopped ResultCode.wantRead e), ())
  | b :: greeting => .write [b] fun
    | .ok _ => greet greeting
    | .error e => .done (.failed (stopped ResultCode.wantWrite e), ())

/-- A call that was stopped asks for something only if it would have blocked, and only for what it
wants. -/
theorem stopped_code {want other : Int32} (e : IoError) (hw : want ≠ other)
    (ho : other ≠ ResultCode.transport) (hwant : want ≠ ResultCode.transport) :
    ((stopped want e).code = want → e.kind = .wouldBlock) ∧ (stopped want e).code ≠ other := by
  by_cases he : e.kind = .wouldBlock
  · rw [stopped, if_pos he]
    exact ⟨fun _ => he, hw⟩
  · rw [stopped, if_neg he]
    exact ⟨fun hc => absurd hc.symm hwant, ho.symm⟩

/-- **Greeting byte by byte tells the truth**, by induction on what is still to be sent. -/
theorem greet_truthful (greeting : Bytes) : (greet greeting).Truthful := by
  induction greeting with
  | nil =>
    refine .read (fun bytes => .done (by nofun)) fun e => ⟨_, _, rfl, ?_⟩
    exact stopped_code e (by decide) (by decide) (by decide)
  | cons b greeting ih =>
    refine .write (fun n => ih) fun e => ⟨_, _, rfl, ?_⟩
    exact stopped_code e (by decide) (by decide) (by decide)

/-- An engine that greets with two bytes and can do nothing else. -/
def greeter : Engine Unit :=
  { undecided someCipher with
    handshake := fun _ => greet [22, 3]
    write := fun _ _ => .done (.failed ⟨ResultCode.protocol, none, []⟩, ())
    writeEarlyData := fun _ _ => .done (.failed ⟨ResultCode.protocol, none, []⟩, ())
    read := fun _ _ => .done (.failed ⟨ResultCode.protocol, none, []⟩, ())
    shutdown := fun _ => .done (.failed ⟨ResultCode.protocol, none, []⟩, ()) }

theorem greeter_truthful : greeter.Truthful := by
  -- a refusal of the engine asks for nothing
  have hrefuse {α : Type} : (Call.done ((.failed ⟨ResultCode.protocol, none, []⟩, ()) :
      RawOutcome α × Unit)).Truthful := by
    refine .done fun f hf => ?_
    obtain rfl := RawOutcome.failed.inj hf
    exact ⟨by decide, by decide⟩
  intro α call hcall s
  cases hcall with
  | handshake => exact greet_truthful [22, 3]
  | write data => exact hrefuse
  | writeEarlyData data => exact hrefuse
  | read max => exact hrefuse
  | shutdown => exact hrefuse

/-- Of two bytes one fits into the smallest pipe; then the caller endpoint has it to drain. -/
theorem greeter_movable :
    greeter.Truthful ∧
      (((fresh .initial (.withCapacity 0) .empty).after greeter []).perform greeter
        .advanceHandshake).1.poll = .ok (.wouldBlock .write) ∧
      (((fresh .initial (.withCapacity 0) .empty).after greeter []).perform greeter
        .advanceHandshake).2.pipe.capacity = max 0 1 ∧
      (((fresh .initial (.withCapacity 0) .empty).after greeter []).perform greeter
        .advanceHandshake).2.pipe.Movable .caller .write :=
  have hblocks : (((fresh .initial (.withCapacity 0) .empty).after greeter []).perform greeter
      .advanceHandshake).1.poll = .ok (.wouldBlock .write) := rfl
  ⟨greeter_truthful, hblocks, reported_direction_movable greeter greeter_truthful 0 .initial
    .empty [] .advanceHandshake .write hblocks⟩

end Link

end SocketlessTls
