import Mathlib.Data.List.Induction
import SocketlessTls.Connection.Query
import SocketlessTls.Proofs.Pipe.Fifo

/-!
# Runs of a connection

Whoever holds a connection uses it by one *operation* after another, in any order and with any
arguments. Between two operations the rest of the world moves on: the owner of the caller endpoint
acts on the pipe, and elsewhere session objects are made and retired. A *run* is a list of such
events, and what holds of every run from a fresh connection holds of the connection at any time.

The engine underneath is any engine at all. Its state is of any type, so an engine whose answers
depend on the time or on chance is one whose state says what the answers will be.

* `SocketlessTls.Link.Operation`, `SocketlessTls.Link.perform` – an operation and its outcome;
* `SocketlessTls.Link.Event`, `SocketlessTls.Link.step`, `SocketlessTls.Link.after` – events, one
  of them, and a run;
* `SocketlessTls.Link.fresh` – a connection that has just been made;
* `SocketlessTls.Link.Happened` – at some point of a run something was the case.
-/

namespace SocketlessTls

/-! ### Making a connection -/

/-- A connection that has just been made from a configuration. -/
def Connection.fresh {σ : Type} (config : Config) : Connection σ where
  config := config
  state := .configured
  engine := .idle
  captureMode := config.captureMode
  captured := none
  info := none
  earlyDataWindow := true
  earlyDataSent := 0

/-- At the engine endpoint a connection can always be made. -/
theorem Connection.ofConfig_engine {σ : Type} (config : Config) :
    Connection.ofConfig (σ := σ) config .engine = .ok (.fresh config) := rfl

namespace Link

variable {σ : Type}

/-- A connection that has just been made, with the pipe under it and the session objects around
it. -/
def fresh (config : Config) (pipe : Pipe) (objects : SessionObjects) : Link σ :=
  { connection := .fresh config, pipe, objects }

/-! ### Operations -/

/-- What can be done with a connection. -/
inductive Operation where
  /-- Puts another configuration in place, whatever changes led to it. -/
  | configure (config : Config)
  | advanceHandshake
  | write (data : Bytes)
  | writeEarlyData (data : Bytes)
  /-- Reads at most so many bytes, for which a buffer is granted or not. -/
  | read (max : Nat) (granted : Bool)
  | readInto (buffer : Bytes)
  | shutdown
  | renegotiate
  /-- Asks something. -/
  | ask (q : Question)
  deriving DecidableEq

/-- What an operation comes to. -/
inductive Outcome where
  | configured (result : Except TlsError Unit)
  | advanced (result : PollResult Unit)
  | written (result : PollResult Nat)
  | read (result : PollResult Bytes)
  | filled (result : PollResult Nat) (buffer : Bytes)
  | closing (result : PollResult ShutdownStatus)
  | renegotiated (result : Except TlsError Unit)
  | told (result : Except TlsError Finding)

/-- The error of a result, if it is one. -/
def error? {α : Type} : Except TlsError α → Option TlsError
  | .error e => some e
  | .ok _ => none

/-- The error that an operation ends in, if it does. -/
def Outcome.error? : Outcome → Option TlsError
  | configured result => Link.error? result
  | advanced result => Link.error? result
  | written result => Link.error? result
  | read result => Link.error? result
  | filled result _ => Link.error? result
  | closing result => Link.error? result
  | renegotiated result => Link.error? result
  | told result => Link.error? result

/-- Changes the configuration, if it may still be changed. -/
def configure (config : Config) (l : Link σ) : Except TlsError Unit × Link σ :=
  match l.connection.configMut with
  | .error e => (.error e, l)
  | .ok _ => (.ok (), { l with connection := l.connection.withConfig config })

/-- The session objects after a question: a session that is handed out is an object of its own. -/
def objectsAfter (E : Engine σ) (l : Link σ) : Question → SessionObjects
  | .session =>
    match l.connection.session E l.objects with
    | .ok (_, objects) => objects
    | .error _ => l.objects
  | _ => l.objects

/-- Carries out an operation. -/
def perform (E : Engine σ) (l : Link σ) : Operation → Outcome × Link σ
  | .configure config =>
    let (result, l) := l.configure config
    (.configured result, l)
  | .advanceHandshake =>
    let (result, l) := l.advanceHandshake E
    (.advanced result, l)
  | .write data =>
    let (result, l) := l.write E data
    (.written result, l)
  | .writeEarlyData data =>
    let (result, l) := l.writeEarlyData E data
    (.written result, l)
  | .read max granted =>
    let (result, l) := l.read E max granted
    (.read result, l)
  | .readInto buffer =>
    let (result, buffer, l) := l.readInto E buffer
    (.filled result buffer, l)
  | .shutdown =>
    let (result, l) := l.shutdown E
    (.closing result, l)
  | .renegotiate =>
    let (result, l) := l.renegotiate E
    (.renegotiated result, l)
  | .ask q => (.told (q.answer E l.connection l.objects), { l with objects := l.objectsAfter E q })

/-! ### Events -/

/-- What happens to a connection or around it. -/
inductive Event where
  | operation (op : Operation)
  /-- The owner of the caller endpoint acts on the pipe. -/
  | caller (action : Pipe.Action)
  /-- Elsewhere, session objects are made or retired. -/
  | elsewhere (objects : SessionObjects)

/-- What an event is answered. -/
inductive Reply where
  | outcome (o : Outcome)
  | answer (a : Pipe.Answer)
  | silence

/-- Lets an event happen. -/
def step (E : Engine σ) (l : Link σ) : Event → Reply × Link σ
  | .operation op =>
    let (o, l) := l.perform E op
    (.outcome o, l)
  | .caller action =>
    let (a, pipe) := l.pipe.step ⟨.caller, action⟩
    (.answer a, { l with pipe })
  | .elsewhere objects => (.silence, { l with objects })

/-- A connection after a run. -/
def after (E : Engine σ) (l : Link σ) (es : List Event) : Link σ :=
  es.foldl (fun l e => (l.step E e).2) l

section Runs

variable (E : Engine σ) (l : Link σ)

@[simp] theorem after_nil : l.after E [] = l := rfl

@[simp] theorem after_cons (e : Event) (es : List Event) :
    l.after E (e :: es) = (l.step E e).2.after E es := rfl

theorem after_append (es later : List Event) :
    l.after E (es ++ later) = (l.after E es).after E later :=
  List.foldl_append

theorem after_concat (es : List Event) (e : Event) :
    l.after E (es ++ [e]) = ((l.after E es).step E e).2 := by
  rw [after_append, after_cons, after_nil]

/-- **What every event preserves, every run preserves.** -/
theorem after_induct {P : Link σ → Prop} (hstep : ∀ l e, P l → P (l.step E e).2) {l : Link σ}
    (h : P l) (es : List Event) : P (l.after E es) := by
  induction es generalizing l with
  | nil => exact h
  | cons e es ih => exact ih (hstep l e h)

/-- **At some point of a run something was the case**: of the connection just before an event, and
of that event. -/
def Happened (es : List Event) (P : Link σ → Event → Prop) : Prop :=
  ∃ before e later, es = before ++ e :: later ∧ P (l.after E before) e

theorem not_happened_nil (P : Link σ → Event → Prop) : ¬l.Happened E [] P := by
  rintro ⟨before, e, later, h, -⟩
  exact List.cons_ne_nil e later (List.append_eq_nil_iff.mp h.symm).2

/-- Something happened in a run if it happens with the first event, or happened after it. -/
theorem happened_cons (e : Event) (es : List Event) (P : Link σ → Event → Prop) :
    l.Happened E (e :: es) P ↔ P l e ∨ (l.step E e).2.Happened E es P := by
  constructor
  · rintro ⟨_ | ⟨first, before⟩, e', later, h, hP⟩
    · obtain ⟨rfl, rfl⟩ := List.cons.inj h
      exact Or.inl hP
    · obtain ⟨rfl, rfl⟩ := List.cons.inj h
      exact Or.inr ⟨before, e', later, rfl, hP⟩
  · rintro (hP | ⟨before, e', later, rfl, hP⟩)
    · exact ⟨[], e, es, rfl, hP⟩
    · exact ⟨e :: before, e', later, rfl, hP⟩

/-- Something happened in a run if it had happened before the last event, or happens with it. -/
theorem happened_concat (es : List Event) (e : Event) (P : Link σ → Event → Prop) :
    l.Happened E (es ++ [e]) P ↔ l.Happened E es P ∨ P (l.after E es) e := by
  constructor
  · rintro ⟨before, e', later, h, hP⟩
    rcases List.eq_nil_or_concat later with rfl | ⟨later, e'', rfl⟩
    · obtain ⟨rfl, he⟩ := List.append_inj' h rfl
      obtain rfl : e = e' := List.singleton_inj.mp he
      exact Or.inr hP
    · rw [List.concat_eq_append, ← List.cons_append, ← List.append_assoc] at h
      obtain ⟨rfl, -⟩ := List.append_inj' h rfl
      exact Or.inl ⟨before, e', later, rfl, hP⟩
  · rintro (⟨before, e', later, rfl, hP⟩ | hP)
    · exact ⟨before, e', later ++ [e], by simp, hP⟩
    · exact ⟨es, e, [], rfl, hP⟩

/-- **What every event preserves that is not of some kind, every run preserves** in which no event
of that kind has happened. -/
theorem after_induct_of_not_happened {P : Link σ → Prop} {Q : Link σ → Event → Prop}
    (hstep : ∀ l e, P l → ¬Q l e → P (l.step E e).2) {l : Link σ} (h : P l) {es : List Event}
    (hno : ¬l.Happened E es Q) : P (l.after E es) := by
  induction es using List.reverseRecOn with
  | nil => exact h
  | append_singleton es e ih =>
    rw [happened_concat] at hno
    rw [after_concat]
    exact hstep _ e (ih fun hq => hno (Or.inl hq)) fun hq => hno (Or.inr hq)

end Runs

end Link

end SocketlessTls
