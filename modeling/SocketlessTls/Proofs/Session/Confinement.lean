import Mathlib.Order.Interval.Set.Basic
import SocketlessTls.Proofs.Connection.Exchange

/-!
# The session objects that an engine can reach

An engine holds session objects, and it may spoil any object that it holds. It comes by objects in
two ways only: it makes them, or it is handed one when it is got ready for a connection. What an
engine holds is said by a set for each of its states, and an engine that keeps to these rules is
*confined* (`SocketlessTls.Engine.Confined`).

What follows for a connection is one relation between what there was before an operation and what
there is after it (`SocketlessTls.Estate.Yields`): objects are only ever added; what the engine
holds in the end it held before, or it is new; and the same goes for what has been spoilt. Each
piece of an operation satisfies the relation, and the relation composes, so every operation
satisfies it (`SocketlessTls.Link.perform_yields`). The one piece where a connection is not just the
engine's messenger is the start, at which the engine is handed a session – and that is a copy, hence
new.

* `SocketlessTls.Call.Confined` – a call that reaches only what it holds;
* `SocketlessTls.Call.Confined.run` – what becomes of the session objects under it;
* `SocketlessTls.Link.start_leads`, `SocketlessTls.Link.perform_yields`,
  `SocketlessTls.Link.discard_yields` – starting, any operation, and giving a connection up;
* `SocketlessTls.Link.perform_of_session` – an operation that hands out a session.
-/

namespace SocketlessTls

/-! ### Estates -/

/-- The session objects made so far, and those of them that an engine holds. -/
structure Estate where
  holds : Set ObjectId
  objects : SessionObjects

namespace Estate

/-- **What an engine may make of an estate.** -/
structure Yields (e e' : Estate) : Prop where
  /-- No object is ever unmade. -/
  next : e.objects.next ≤ e'.objects.next
  /-- The engine holds what it held, and new objects. -/
  holds : ∀ id ∈ e'.holds, id ∈ e.holds ∨ id ∈ Set.Ico e.objects.next e'.objects.next
  /-- Spoilt are those that were, those that the engine held, and new ones. -/
  retired : ∀ id ∈ e'.objects.retired,
    id ∈ e.objects.retired ∨ id ∈ e.holds ∨ id ∈ Set.Ico e.objects.next e'.objects.next

namespace Yields

variable {e e' e'' : Estate} {H H' : Set ObjectId} {o : SessionObjects}

/-- An engine may let go of objects. -/
theorem shrink (h : H' ⊆ H) : Yields ⟨H, o⟩ ⟨H', o⟩ :=
  ⟨le_rfl, fun _ hid => Or.inl (h hid), fun _ => Or.inl⟩

theorem refl (e : Estate) : Yields e e := shrink subset_rfl

theorem trans (h : Yields e e') (h' : Yields e' e'') : Yields e e'' := by
  have hnew {id : ObjectId} (hid : id ∈ Set.Ico e'.objects.next e''.objects.next) :
      id ∈ Set.Ico e.objects.next e''.objects.next := ⟨h.next.trans hid.1, hid.2⟩
  have hold {id : ObjectId} (hid : id ∈ Set.Ico e.objects.next e'.objects.next) :
      id ∈ Set.Ico e.objects.next e''.objects.next := ⟨hid.1, hid.2.trans_le h'.next⟩
  refine ⟨h.next.trans h'.next, fun id hid => ?_, fun id hid => ?_⟩
  · rcases h'.holds id hid with hid | hid
    · exact (h.holds id hid).imp_right hold
    · exact Or.inr (hnew hid)
  · rcases h'.retired id hid with hid | hid | hid
    · exact (h.retired id hid).imp_right (Or.imp_right hold)
    · exact Or.inr ((h.holds id hid).imp_right hold)
    · exact Or.inr (Or.inr (hnew hid))

/-- It may come to hold a fresh object. -/
theorem fresh (H : Set ObjectId) (o : SessionObjects) :
    Yields ⟨H, o⟩ ⟨insert o.next H, o.fresh.2⟩ := by
  refine ⟨Nat.le_succ _, fun id hid => ?_, fun _ => Or.inl⟩
  rcases hid with rfl | hid
  · exact Or.inr ⟨le_rfl, Nat.lt_succ_self _⟩
  · exact Or.inl hid

/-- It may spoil one that it holds. -/
theorem retire {id : ObjectId} (h : id ∈ H) : Yields ⟨H, o⟩ ⟨H, o.retire id⟩ := by
  refine ⟨le_rfl, fun _ => Or.inl, fun id' hid => ?_⟩
  rcases List.mem_cons.mp hid with rfl | hid
  · exact Or.inr (Or.inl h)
  · exact Or.inl hid

end Yields

end Estate

/-! ### Confined calls -/

/-- **A call that reaches only the objects it holds**: those of `H`, those it makes, and in the end
those that its result holds. -/
def Call.Confined {α : Type} (result : α → Set ObjectId) : Call α → Set ObjectId → Prop
  | .done a, H => result a ⊆ H
  | .read _ next, H => ∀ r, (next r).Confined result H
  | .write _ next, H => ∀ r, (next r).Confined result H
  | .makeObject next, H => ∀ id, (next id).Confined result (insert id H)
  | .retireObject id next, H => id ∈ H ∧ next.Confined result H

/-- **What becomes of the session objects under a confined call**, by induction on what the call
does. -/
theorem Call.Confined.run {α : Type} {result : α → Set ObjectId} {c : Call α} {H : Set ObjectId}
    (h : c.Confined result H) (side : Side) (w : World) :
    Estate.Yields ⟨H, w.objects⟩ ⟨result (c.run side w).1, (c.run side w).2.objects⟩ := by
  induction c generalizing H w with
  | done a => exact .shrink h
  | read max next ih =>
    rw [Call.run]
    rcases w.pipe.ioRead side (List.replicate max 0) with ⟨result, buffer, pipe⟩
    exact ih _ (h _) { w with pipe }
  | write data next ih =>
    rw [Call.run]
    rcases w.pipe.ioWrite side data with ⟨result, pipe⟩
    exact ih _ (h _) { w with pipe }
  | makeObject next ih =>
    exact (Estate.Yields.fresh H w.objects).trans
      (ih _ (h _) { w with objects := w.objects.fresh.2 })
  | retireObject id next ih =>
    exact (Estate.Yields.retire h.1).trans (ih h.2 { w with objects := w.objects.retire id })

/-! ### Confined engines -/

/-- The object of a session, if there is one. -/
def objectOf (session : Option Session) : Set ObjectId :=
  {id | session.map Session.object = some id}

/-- **An engine that reaches only the session objects it holds**, where `holds` says which these
are. It holds none when it is built, is handed at most one when it is got ready, and from then on
only makes objects. It may spoil any object that it holds, in any call and when it is given up. What
session it tells of is up to it. -/
structure Engine.Confined {σ : Type} (E : Engine σ) (holds : σ → Set ObjectId) : Prop where
  build : ∀ config s, E.build? config = some s → holds s = ∅
  prepare : ∀ config session s s', E.prepare? config session s = some s' →
    holds s' ⊆ holds s ∪ objectOf session
  attach : ∀ s s', E.attach? s = some s' → holds s' ⊆ holds s
  call : ∀ {α : Type} (call : σ → Call (RawOutcome α × σ)), E.IsCall call → ∀ s,
    (call s).Confined (fun x => holds x.2) (holds s)
  renegotiate : ∀ s, holds (E.renegotiate s).2 ⊆ holds s
  discard : ∀ s, (E.discard s).Confined (fun _ => ∅) (holds s)

/-! ### Copies -/

/-- **A session that is read from its written form is a fresh object.** -/
theorem Session.ofDer?_eq {der : Bytes} {o o' : SessionObjects} {s : Session}
    (h : ofDer? der o = some (s, o')) : s.object = o.next ∧ o' = o.fresh.2 := by
  unfold ofDer? at h
  rcases hd : SessionContent.decode? der with _ | content
  · simp [hd] at h
  · simp only [hd, SessionObjects.fresh, bind, Option.bind, pure, Option.some.injEq,
      Prod.mk.injEq] at h
    obtain ⟨rfl, rfl⟩ := h
    exact ⟨rfl, rfl⟩

/-- A session that a connection hands out, if there is one, is a fresh object too. -/
theorem Connection.session_cases {σ : Type} {E : Engine σ} {c : Connection σ}
    {o o' : SessionObjects} {session : Option Session} (h : c.session E o = .ok (session, o')) :
    (session = none ∧ o' = o) ∨
      ∃ s, session = some s ∧ s.object = o.next ∧ o' = o.fresh.2 := by
  rcases he : c.establishedEngine "session" with e | s
  · simp [Connection.session, he, bind, Except.bind] at h
  rcases hl : E.session s with _ | live
  · simp only [Connection.session, he, hl, bind, Except.bind, Except.ok.injEq, Prod.mk.injEq] at h
    exact Or.inl ⟨h.1.symm, h.2.symm⟩
  rcases hc : live.copy? o with _ | ⟨copy, o''⟩
  · simp [Connection.session, he, hl, hc, bind, Except.bind] at h
  · simp only [Connection.session, he, hl, hc, bind, Except.bind, Except.ok.injEq,
      Prod.mk.injEq] at h
    obtain ⟨rfl, rfl⟩ := h
    obtain ⟨hobject, rfl⟩ := Session.ofDer?_eq hc
    exact Or.inr ⟨copy, rfl, hobject, rfl⟩

/-- Only the question for the session has a session for an answer. -/
theorem Question.answer_session {σ : Type} {E : Engine σ} {c : Connection σ}
    {o : SessionObjects} {q : Question} {session : Option Session}
    (h : q.answer E c o = .ok (.session session)) :
    q = .session ∧ ∃ o', c.session E o = .ok (session, o') := by
  have hmap {α : Type} {f : α → Finding} {r : Except TlsError α}
      (h : f <$> r = .ok (.session session)) : ∃ a, r = .ok a ∧ f a = .session session := by
    rcases r with e | a
    · cases h
    · exact ⟨a, rfl, Except.ok.inj h⟩
  cases q with
  | session =>
    obtain ⟨⟨found, o'⟩, hs, ha⟩ := hmap h
    obtain rfl := Finding.session.inj ha
    exact ⟨rfl, o', hs⟩
  | _ =>
    obtain ⟨a, -, ha⟩ := hmap h
    cases ha

namespace Link

variable {σ α : Type} {holds : σ → Set ObjectId}

/-- Copying the session to resume makes at most one object, that of the copy. -/
theorem copySession?_yields {session copy : Option Session} {o o' : SessionObjects}
    (h : copySession? session o = some (copy, o')) :
    Estate.Yields ⟨∅, o⟩ ⟨objectOf copy, o'⟩ := by
  rcases session with _ | s
  · obtain ⟨rfl, rfl⟩ := Prod.mk.inj (Option.some.inj h)
    exact .shrink (fun id hid => by cases hid)
  · rcases hc : s.copy? o with _ | ⟨s', o''⟩
    · simp [copySession?, hc] at h
    · simp only [copySession?, hc, Option.map_some, Option.some.injEq, Prod.mk.injEq] at h
      obtain ⟨rfl, rfl⟩ := h
      obtain ⟨hobject, rfl⟩ := Session.ofDer?_eq hc
      refine (Estate.Yields.fresh ∅ o).trans (.shrink fun id hid => ?_)
      obtain rfl : s'.object = id := Option.some.inj hid
      exact Or.inl hobject

end Link

/-! ### The estate of a connection -/

/-- The objects that the engine of a connection holds. -/
def Connection.held {σ : Type} (holds : σ → Set ObjectId) (c : Connection σ) : Set ObjectId :=
  match c.engine with
  | .running s => holds s
  | _ => ∅

namespace Link

variable {σ α : Type} {holds : σ → Set ObjectId}

/-- The session objects around a connection, and those of them that its engine holds. -/
def estate (holds : σ → Set ObjectId) (l : Link σ) : Estate :=
  ⟨l.connection.held holds, l.objects⟩

theorem estate_of_running {l : Link σ} {s : σ} (h : l.connection.engine = .running s) :
    l.estate holds = ⟨holds s, l.objects⟩ := by
  simp only [estate, Connection.held, h]

theorem estate_of_idle {l : Link σ} (h : l.connection.engine = .idle) :
    l.estate holds = ⟨∅, l.objects⟩ := by
  simp only [estate, Connection.held, h]

/-- **What a piece of an operation may make of a link**: of the session objects what the engine may
make of them, and of the configuration nothing. -/
structure Leads (holds : σ → Set ObjectId) (l l' : Link σ) : Prop where
  estate : (l.estate holds).Yields (l'.estate holds)
  config : l'.connection.config = l.connection.config

namespace Leads

variable {l l' l'' : Link σ}

theorem refl (l : Link σ) : Leads holds l l := ⟨.refl _, rfl⟩

theorem trans (h : Leads holds l l') (h' : Leads holds l' l'') : Leads holds l l'' :=
  ⟨h.estate.trans h'.estate, h'.config.trans h.config⟩

/-- A piece that touches neither the engine nor the objects. -/
theorem of_same (he : l'.connection.engine = l.connection.engine) (ho : l'.objects = l.objects)
    (hc : l'.connection.config = l.connection.config) : Leads holds l l' := by
  refine ⟨?_, hc⟩
  simp only [Link.estate, Connection.held, he, ho]
  exact .refl _

end Leads

section Pieces

theorem finish_leads (E : Engine σ) (x : PollResult Unit × Link σ) :
    Leads holds x.2 (finish E x).2 := by
  obtain ⟨result, l⟩ := x
  rcases result with e | ⟨⟨⟩⟩ | d | _
  · exact .refl l
  · rcases he : l.connection.engine with _ | s | _
    · simp only [finish, completeHandshake, he]
      exact .refl l
    · rcases finish_ready_cases E he with hc | ⟨info, hc⟩ <;> rw [hc, Connection.observe_eq] <;>
        exact .of_same rfl rfl rfl
    · simp only [finish, completeHandshake, he]
      exact .refl l
  · exact .refl l
  · exact .refl l

theorem count_leads (x : PollResult Nat × Link σ) : Leads holds x.2 (count x).2 := by
  obtain ⟨e | n | d | _, l⟩ := x <;> exact .of_same rfl rfl rfl

theorem settle_leads (x : PollResult ShutdownResult × Link σ) :
    Leads holds x.2 (settle x).2 := by
  obtain ⟨e | (_ | _) | d | _, l⟩ := x <;> exact .of_same rfl rfl rfl

/-- A session that is handed out is a copy, and the engine does not hold it. -/
theorem ask_leads (E : Engine σ) (l : Link σ) (q : Question) :
    Leads holds l { l with objects := l.objectsAfter E q } := by
  cases q with
  | session =>
    rcases hs : l.connection.session E l.objects with e | ⟨session, objects⟩ <;>
      simp only [objectsAfter, hs]
    · exact .refl l
    · rcases Connection.session_cases hs with ⟨-, rfl⟩ | ⟨s, -, -, rfl⟩
      · exact .refl l
      · refine ⟨?_, rfl⟩
        exact (Estate.Yields.fresh _ l.objects).trans (.shrink (Set.subset_insert _ _))
  | _ => exact .refl l

variable {E : Engine σ} (hE : E.Confined holds) (l : Link σ)
include hE

/-- An engine call. -/
theorem drive_leads (operation : String) {call : σ → Call (RawOutcome α × σ)}
    (hcall : E.IsCall call) : Leads holds l (l.drive E operation call).2 := by
  by_cases hr : ∃ s, l.connection.engine = .running s
  · obtain ⟨s, hs⟩ := hr
    obtain ⟨raw, s', w, hrun, hd⟩ := drive_of_running E hs operation call
    have h := (hE.call call hcall s).run .engine ⟨l.pipe, l.objects⟩
    rw [hrun] at h
    rw [hd]
    refine ⟨?_, rfl⟩
    rw [estate_of_running hs]
    exact h
  · rw [drive_of_not_running E (fun s hs => hr ⟨s, hs⟩)]
    exact .refl l

/-- **Starting hands the engine a copy and nothing else.** -/
theorem start_leads : Leads holds l (l.start E).2 := by
  rcases he : l.connection.engine with _ | s | _
  · rcases hb : E.build? l.connection.config with _ | built
    · simp only [start, he, hb]
      exact .refl l
    rcases hc : copySession? l.connection.config.session l.objects with _ | ⟨copy, objects⟩
    · simp only [start, he, hb, hc]
      exact .refl l
    rcases hp : E.prepare? l.connection.config copy built with _ | prepared
    · simp only [start, he, hb, hc, hp]
      exact .refl l
    have hcopy := copySession?_yields hc
    rcases ha : E.attach? prepared with _ | s
    · simp only [start, he, hb, hc, hp, ha]
      refine ⟨?_, rfl⟩
      rw [estate_of_idle he]
      exact hcopy.trans (.shrink (Set.empty_subset _))
    · simp only [start, he, hb, hc, hp, ha]
      refine ⟨?_, rfl⟩
      rw [estate_of_idle he]
      refine hcopy.trans (.shrink fun id hid => ?_)
      have hid := hE.prepare _ _ _ _ hp (hE.attach _ _ ha hid)
      rw [hE.build _ _ hb] at hid
      exact hid.resolve_left (Set.notMem_empty id)
  · simp only [start, he]
    exact .refl l
  · simp only [start, he]
    exact .refl l

theorem startIfConfigured_leads : Leads holds l (l.startIfConfigured E).2 := by
  unfold startIfConfigured
  split
  · exact start_leads hE l
  · exact .refl l

/-- Declined or accepted, a new handshake gives the engine nothing to hold. -/
theorem renegotiate_leads : Leads holds l (l.renegotiate E).2 := by
  rcases renegotiate_cases E l with
    ⟨e, -, -, hd⟩ | ⟨-, s, s', hs, hre, hd⟩ | ⟨-, s, s', hs, hre, hd⟩ <;> rw [hd]
  · exact .refl l
  all_goals
    have hr := hE.renegotiate s
    rw [hre] at hr
    refine ⟨?_, rfl⟩
    rw [estate_of_running hs]
    exact .shrink hr

end Pieces

/-! ### The operations -/

section Operations

variable {E : Engine σ} (hE : E.Confined holds) (l : Link σ)
include hE

theorem advanceHandshake_leads : Leads holds l (l.advanceHandshake E).2 := by
  have hst := startIfConfigured_leads hE l
  rcases advanceHandshake_cases E l with ⟨e, -, -, -, ha⟩ | ⟨-, ⟨e, l₁, hok, ha⟩ | ⟨l₁, hok, ha⟩⟩
  · rw [ha]
    exact .refl l
  · rw [hok] at hst
    rw [ha]
    exact hst
  · rw [hok] at hst
    rw [ha]
    have hclose : Leads holds l₁ l₁.closeWindow := .of_same rfl rfl rfl
    exact hst.trans (hclose.trans ((drive_leads hE _ _ .handshake).trans (finish_leads E _)))

theorem writeEarlyData_leads (data : Bytes) : Leads holds l (l.writeEarlyData E data).2 := by
  have hst := startIfConfigured_leads hE l
  rcases writeEarlyData_cases E l data with
    ⟨e, -, -, hw⟩ | ⟨-, -, hw⟩ | ⟨-, -, -, ⟨e, l₁, hok, hw⟩ | ⟨l₁, hok, hw⟩⟩
  · rw [hw]
    exact .refl l
  · rw [hw]
    exact .refl l
  · rw [hok] at hst
    rw [hw]
    exact hst
  · rw [hok] at hst
    rw [hw]
    exact hst.trans ((drive_leads hE _ _ (.writeEarlyData _)).trans (count_leads _))

/-- **What an operation may make of a link**, unless it puts another configuration in place. -/
theorem perform_leads {op : Operation} (hop : ∀ config, op ≠ .configure config) :
    Leads holds l (l.perform E op).2 := by
  cases op with
  | configure config => exact absurd rfl (hop config)
  | advanceHandshake => exact advanceHandshake_leads hE l
  | write data =>
    rcases write_cases E l data with ⟨e, -, -, hw⟩ | ⟨-, -, hw⟩ | ⟨-, -, hw⟩ <;>
      simp only [perform, hw]
    · exact .refl l
    · exact .refl l
    · exact drive_leads hE l _ (.write data)
  | writeEarlyData data => exact writeEarlyData_leads hE l data
  | read max granted =>
    rcases read_cases E l max granted with
      ⟨e, -, -, hr⟩ | ⟨-, -, hr⟩ | ⟨-, -, hr⟩ | ⟨-, -, -, hr⟩ <;> simp only [perform, hr]
    · exact .refl l
    · exact .refl l
    · exact .refl l
    · exact drive_leads hE l _ (.read max)
  | readInto buffer =>
    rcases readInto_cases E l buffer with ⟨e, -, -, hr⟩ | ⟨-, -, hr⟩ | ⟨-, -, hr⟩ <;>
      simp only [perform, hr]
    · exact .refl l
    · exact .refl l
    · exact drive_leads hE l _ (.read buffer.length)
  | shutdown =>
    rcases shutdown_cases E l with ⟨-, hd⟩ | ⟨e, -, -, hd⟩ | ⟨-, hd⟩ <;> simp only [perform, hd]
    · exact .refl l
    · exact .refl l
    · exact (drive_leads hE l _ .shutdown).trans (settle_leads _)
  | renegotiate => exact renegotiate_leads hE l
  | ask q => exact ask_leads E l q

/-- **What becomes of the session objects under any operation**, one that puts another configuration
in place included. -/
theorem perform_yields (op : Operation) :
    (l.estate holds).Yields ((l.perform E op).2.estate holds) := by
  by_cases hop : ∃ config, op = .configure config
  · obtain ⟨config, rfl⟩ := hop
    rcases configure_cases l config with ⟨-, hc⟩ | ⟨e, -, -, hc⟩ <;>
    · simp only [perform, hc]
      exact .refl _
  · exact (perform_leads hE l fun config hc => hop ⟨config, hc⟩).estate

/-- **Giving a connection up** leaves nothing held. -/
theorem discard_yields : (l.estate holds).Yields ⟨∅, (l.discard E).2⟩ := by
  rcases hs : l.connection.engine with _ | s | _
  · simp only [discard, hs]
    exact .shrink (Set.empty_subset _)
  · have h := (hE.discard s).run .engine ⟨l.pipe, l.objects⟩
    simp only [discard, hs, estate_of_running hs]
    exact h
  · simp only [discard, hs]
    exact .shrink (Set.empty_subset _)

/-- Another configuration comes into a connection by being put in place, and in no other way. -/
theorem perform_config (op : Operation) :
    (l.perform E op).2.connection.config = l.connection.config ∨
      op = .configure (l.perform E op).2.connection.config := by
  by_cases hop : ∃ config, op = .configure config
  · obtain ⟨config, rfl⟩ := hop
    rcases configure_cases l config with ⟨-, hc⟩ | ⟨e, -, -, hc⟩
    · exact Or.inr (by simp only [perform, hc])
    · exact Or.inl (by simp only [perform, hc])
  · exact Or.inl (perform_leads hE l fun config hc => hop ⟨config, hc⟩).config

end Operations

/-! ### What is handed out -/

/-- The session that an operation hands out, if it does. -/
def Outcome.session? : Outcome → Option Session
  | .told (.ok (.session session)) => session
  | _ => none

/-- **An operation that hands out a session** hands out a new object and does nothing else. -/
theorem perform_of_session {E : Engine σ} {l : Link σ} {op : Operation} {s : Session}
    (h : (l.perform E op).1.session? = some s) :
    (l.perform E op).2 = { l with objects := l.objects.fresh.2 } ∧ s.object = l.objects.next := by
  cases op with
  | ask q =>
    rcases ha : q.answer E l.connection l.objects with e | finding
    · simp [perform, ha, Outcome.session?] at h
    · obtain rfl : finding = .session (some s) := by
        cases finding <;> simp_all [perform, Outcome.session?]
      obtain ⟨rfl, o', hs⟩ := Question.answer_session ha
      rcases Connection.session_cases hs with ⟨hnone, -⟩ | ⟨s', hs', hobject, rfl⟩
      · cases hnone
      · obtain rfl := Option.some.inj hs'
        exact ⟨by simp only [perform, objectsAfter, hs], hobject⟩
  | _ => cases h

end Link

end SocketlessTls
