import Mathlib.Data.List.ReduceOption
import SocketlessTls.Proofs.Connection.Configuring
import SocketlessTls.Proofs.Connection.Record

/-!
# The last cipher seen

A connection that remembers ciphers can tell which one it had, whatever has become of it since. This
file says which one that is: of all that was seen at the engine since the handshake began, the last
that was a cipher at all. That nothing is to be seen any more, as after a failure, erases nothing.

Three things could give the answer – the record, the cipher remembered, the engine as it is now –
and the reason that they never disagree is an invariant: a record is made of what is remembered, and
between the end of one handshake and the beginning of the next nothing more is looked at
(`SocketlessTls.Link.Mindful`). So what is told is what is remembered, and the looks of a run are
all that enters into that (`SocketlessTls.Link.after_captured`).

A cipher that is seen again is known by its number and need not be described in the same words. What
is told is then the earlier description. Where the number determines the words there is no
difference.

* `SocketlessTls.Link.looksAlong` – the looks of a run;
* `SocketlessTls.lastSeen` – the last cipher seen;
* `SocketlessTls.Link.cipher_survives` – it is the one told, to the next handshake.
-/

namespace SocketlessTls

/-! ### Remembering looks -/

/-- **The last cipher seen**, if any look has seen one. -/
def lastSeen (looks : List (Option Cipher)) : Option Cipher := looks.reduceOption.getLast?

theorem lastSeen_concat_none (looks : List (Option Cipher)) :
    lastSeen (looks ++ [none]) = lastSeen looks := by
  simp [lastSeen, List.reduceOption_append]

theorem lastSeen_concat_some (looks : List (Option Cipher)) (c : Cipher) :
    lastSeen (looks ++ [some c]) = some c := by
  simp [lastSeen, List.reduceOption_append]

/-- If no look has seen a cipher then there is no last one. -/
theorem lastSeen_of_all_none {looks : List (Option Cipher)} (h : ∀ o ∈ looks, o = none) :
    lastSeen looks = none := by
  have hnil : looks.reduceOption = [] := by
    rw [List.eq_nil_iff_forall_not_mem]
    intro c hc
    exact Option.some_ne_none c (h _ (List.reduceOption_mem_iff.mp hc))
  rw [lastSeen, hnil, List.getLast?_nil]

/-- **What is remembered of looks**: nothing if there was nothing to be seen, and else a cipher that
was seen, of the suite that was seen last. -/
inductive Recalls (looks : List (Option Cipher)) : Option Cipher → Prop
  | nothing (h : lastSeen looks = none) : Recalls looks none
  | suite {c d : Cipher} (h : lastSeen looks = some c) (hid : d.protocolId = c.protocolId)
      (hd : some d ∈ looks) : Recalls looks (some d)

/-- **What is remembered when a cipher is seen** is that cipher, or the one remembered before if it
is of the same suite. -/
theorem remember_some_cases (seen : Option Cipher) (c : Cipher) :
    remember seen (some c) = some c ∨
      ∃ d, seen = some d ∧ d.protocolId = c.protocolId ∧ remember seen (some c) = some d := by
  rcases seen with _ | d
  · exact Or.inl rfl
  · by_cases hsame : d.protocolId = c.protocolId
    · exact Or.inr ⟨d, rfl, hsame, by rw [remember, if_pos hsame]⟩
    · exact Or.inl (by rw [remember, if_neg hsame])

/-- One more look. -/
theorem Recalls.look {looks : List (Option Cipher)} {seen : Option Cipher} (h : Recalls looks seen)
    (o : Option Cipher) : Recalls (looks ++ [o]) (remember seen o) := by
  rcases o with _ | c
  · cases h with
    | nothing h => exact .nothing ((lastSeen_concat_none looks).trans h)
    | suite h hid hd =>
      exact .suite ((lastSeen_concat_none looks).trans h) hid (List.mem_append_left _ hd)
  · rcases remember_some_cases seen c with hr | ⟨d, rfl, hid, hr⟩ <;> rw [hr]
    · exact .suite (lastSeen_concat_some looks c) rfl (List.mem_append_right _ List.mem_cons_self)
    · cases h with
      | suite _ _ hd => exact .suite (lastSeen_concat_some looks c) hid (List.mem_append_left _ hd)

/-- **What is remembered of looks from the start**, by induction from the last look. -/
theorem recalls_foldl (looks : List (Option Cipher)) :
    Recalls looks (looks.foldl remember none) := by
  induction looks using List.reverseRecOn with
  | nil => exact .nothing rfl
  | append_singleton looks o ih =>
    rw [List.foldl_concat]
    exact ih.look o

/-- A look that has seen a cipher leaves one remembered. -/
theorem remember_eq_none {seen o : Option Cipher} (h : remember seen o = none) :
    seen = none ∧ o = none := by
  rcases o with _ | c
  · exact ⟨h, rfl⟩
  · rcases remember_some_cases seen c with hr | ⟨d, -, -, hr⟩ <;> cases hr.symm.trans h

/-- **Numbers determine descriptions**: ciphers shown by the engine are the same if their numbers
are. -/
def Engine.DescribesById {σ : Type} (E : Engine σ) : Prop :=
  ∀ s s' c c', E.observedCipher s = some c → E.observedCipher s' = some c' →
    c.protocolId = c'.protocolId → c = c'

namespace Link

variable {σ : Type}

/-! ### The looks of a run -/

/-- **The looks that a run takes at the engine**, one after another. -/
def looksAlong (E : Engine σ) (l : Link σ) : List Event → List (Option Cipher)
  | [] => []
  | e :: es => e.looks E l ++ (l.step E e).2.looksAlong E es

theorem looksAlong_concat (E : Engine σ) (l : Link σ) (es : List Event) (e : Event) :
    l.looksAlong E (es ++ [e]) = l.looksAlong E es ++ e.looks E (l.after E es) := by
  induction es generalizing l with
  | nil => simp [looksAlong]
  | cons first es ih => simp [looksAlong, ih]

section Looks

variable (E : Engine σ) {l : Link σ} {o : Option Cipher}

/-- A look is at some state of the engine. -/
theorem exists_of_mem_shown (h : o ∈ l.shown E) : ∃ s, o = E.observedCipher s := by
  unfold shown at h
  split at h
  · exact ⟨_, List.mem_singleton.mp h⟩
  · cases h

theorem exists_of_mem_shownInHandshake {x : PollResult Unit × Link σ}
    (h : o ∈ shownInHandshake E x) : ∃ s, o = E.observedCipher s := by
  unfold shownInHandshake at h
  split at h
  · exact (List.mem_append.mp h).elim (exists_of_mem_shown E) (exists_of_mem_shown E)
  · exact exists_of_mem_shown E h

theorem exists_of_mem_looks {e : Event} (h : o ∈ e.looks E l) : ∃ s, o = E.observedCipher s := by
  cases e with
  | operation op =>
    cases op with
    | advanceHandshake =>
      simp only [Event.looks, Operation.looks] at h
      split at h
      · split at h
        · exact exists_of_mem_shownInHandshake E h
        · cases h
      · cases h
    | writeEarlyData data =>
      simp only [Event.looks, Operation.looks] at h
      split at h
      · split at h
        · exact exists_of_mem_shown E h
        · cases h
      · cases h
    | _ => cases h
  | caller action => cases h
  | elsewhere objects => cases h

theorem exists_of_mem_looksAlong {es : List Event} (h : o ∈ l.looksAlong E es) :
    ∃ s, o = E.observedCipher s := by
  induction es generalizing l with
  | nil => cases h
  | cons e es ih => exact (List.mem_append.mp h).elim (exists_of_mem_looks E) ih

/-- The way of remembering is fixed when the connection is made. -/
theorem after_captureMode (h : Coherent l) (es : List Event) :
    (l.after E es).connection.captureMode = l.connection.captureMode := by
  induction es generalizing l with
  | nil => rfl
  | cons e es ih =>
    rw [after_cons, ih (step_coherent E h e), step_captureMode E h e]

/-- **What is remembered after a run** without a new handshake is what was remembered before, and
then the looks of the run. -/
theorem after_captured (h : Coherent l) {later : List Event}
    (hno : ¬l.Happened E later (Renews E)) :
    (l.after E later).connection.captured = l.connection.remembered (l.looksAlong E later) := by
  induction later using List.reverseRecOn with
  | nil => exact l.connection.remembered_nil.symm
  | append_singleton later e ih =>
    rw [happened_concat, not_or] at hno
    rw [after_concat, looksAlong_concat, step_captured E (after_coherent E h later) hno.2]
    exact Connection.remembered_append (after_captureMode E h later) (ih hno.1) _

end Looks

/-! ### Record and memory -/

/-- **A connection that remembers**, and whose record, if there is one, is of the cipher that it
remembers. Before the start it remembers none. -/
structure Mindful (l : Link σ) : Prop where
  coherent : Coherent l
  perStep : l.connection.captureMode = .perStep
  blank : l.connection.state = .configured → l.connection.captured = none
  record : ∀ n, l.connection.info = some n → n.cipher = l.connection.captured

namespace Mindful

variable {E : Engine σ} {l : Link σ}

theorem of_fresh {config : Config} {pipe : Pipe} (objects : SessionObjects)
    (h : pipe.isReleased .engine = false) (hm : config.captureMode = .perStep) :
    Mindful (fresh config pipe objects : Link σ) :=
  ⟨.of_fresh config pipe objects h, hm, fun _ => rfl, nofun⟩

theorem remembered_eq (h : Mindful l) (looks : List (Option Cipher)) :
    l.connection.remembered looks = looks.foldl remember l.connection.captured := by
  simp only [Connection.remembered, h.perStep]

/-- No looks are taken by a connection that has its record. -/
theorem looks_of_info (h : Mindful l) {n : Negotiated} (hi : l.connection.info = some n)
    (e : Event) : e.looks E l = [] := by
  have hs : l.connection.state ≠ .configured ∧ l.connection.state ≠ .handshaking := by
    refine not_or.mp fun hs => ?_
    cases hi.symm.trans (info_of_shaking h.coherent hs)
  cases e with
  | operation op => exact looks_eq_nil E hs.1 hs.2 op
  | caller action => rfl
  | elsewhere objects => rfl

/-- A record made of a handshake that is over is of the cipher remembered: if none is, the last look
has found that there was none. -/
theorem cipher_of_completes (h : Mindful l) {e : Event} (hc : Completes E l e) {n : Negotiated}
    (hi : (l.step E e).2.connection.info = some n) :
    n.cipher = (l.step E e).2.connection.captured := by
  obtain ⟨s, n', hn, hlooks⟩ := hc.recorded E h.coherent
  obtain rfl : n' = n := Option.some.inj (hn.info.symm.trans hi)
  rcases hcap : (l.step E e).2.connection.captured with _ | c
  · have hnr := Completes.not_renews E hc
    rw [step_captured E h.coherent hnr, h.remembered_eq, hlooks] at hcap
    have hnone : E.observedCipher s = none := (remember_eq_none hcap).2
    rw [hn.cipher, step_captured E h.coherent hnr, h.remembered_eq, hlooks, hcap, Option.none_or]
    exact (Option.or_eq_none_iff.mp hnone).2
  · rw [hn.cipher, hcap, Option.some_or]

/-- **Every event keeps a connection mindful.** -/
theorem step (h : Mindful l) (e : Event) : Mindful (l.step E e).2 := by
  have hcoh := step_coherent E h.coherent e
  refine ⟨hcoh, (step_captureMode E h.coherent e).trans h.perStep, fun hs => ?_, fun n hi => ?_⟩
  · -- still not started, so nothing has been looked at
    have hs₀ : l.connection.state = .configured := by
      by_contra hne
      exact step_ne_configured E hne e hs
    by_cases hr : Renews E l e
    · exact (hr.forgets E h.coherent).1
    · have hlooks : e.looks E l = [] := by
        by_contra hl
        obtain ⟨s, hrun⟩ := step_running_of_looks E h.coherent hl
        rcases (hcoh.fresh hs).1 with hidle | hidle <;> rw [hidle] at hrun <;> cases hrun
      rw [step_captured E h.coherent hr, hlooks, Connection.remembered_nil, h.blank hs₀]
  · by_cases hc : Completes E l e
    · exact h.cipher_of_completes hc hi
    · have hr : ¬Renews E l e := fun hr => by
        rw [(hr.forgets E h.coherent).2] at hi
        cases hi
      rw [step_info_of_no_turn E h.coherent hc hr] at hi
      rw [step_captured E h.coherent hr, h.looks_of_info hi e, Connection.remembered_nil,
        h.record n hi]

theorem after (h : Mindful l) (es : List Event) : Mindful (l.after E es) :=
  after_induct (P := Mindful) E (fun _ e h => h.step e) h es

/-- A cipher that is remembered is told. The engine is not asked. -/
theorem cipher_of_captured (h : Mindful l) {c : Cipher} (hc : l.connection.captured = some c)
    (E : Engine σ) : l.connection.cipher E = .ok (some c) := by
  have hs : l.connection.state ≠ .configured := fun hs => by
    rw [h.blank hs] at hc
    cases hc
  obtain ⟨s, -, hcipher⟩ := cipher_of_ne_configured (E := E) h.coherent hs
  rw [hcipher]
  rcases hi : l.connection.info with _ | n
  · rw [hc, Option.some_or]
  · exact congrArg Except.ok ((h.record n hi).trans hc)

end Mindful

/-! ### From one handshake to the next -/

/-- **A handshake begins** after a run: the connection has just been made, or a new handshake has
just been accepted. -/
inductive Begins (E : Engine σ) (start : Link σ) : List Event → Prop
  | made : Begins E start []
  | renewed {es : List Event} {e : Event} (h : Renews E (start.after E es) e) :
      Begins E start (es ++ [e])

/-- Nothing is remembered when a handshake begins, and nothing is on record. -/
theorem Begins.blank {E : Engine σ} {config : Config} {pipe : Pipe} {objects : SessionObjects}
    (h : pipe.isReleased .engine = false) {before : List Event}
    (hb : Begins E (fresh config pipe objects) before) :
    ((fresh config pipe objects).after E before).connection.captured = none ∧
      ((fresh config pipe objects).after E before).connection.info = none := by
  cases hb with
  | made => exact ⟨rfl, rfl⟩
  | @renewed es e hr =>
    rw [after_concat]
    exact hr.forgets E (after_coherent E (.of_fresh config pipe objects h) es)

/-- **What is told of the cipher** after a run `later` from a link at which a handshake began. -/
structure TellsLastSeen (E : Engine σ) (l : Link σ) (later : List Event) : Prop where
  /-- If a cipher was seen, then one of the suite that was seen last. Engines are not asked. -/
  seen : ∀ c, lastSeen (l.looksAlong E later) = some c →
    ∃ d, d.protocolId = c.protocolId ∧ some d ∈ l.looksAlong E later ∧
      ∀ E' : Engine σ, (l.after E later).connection.cipher E' = .ok (some d)
  /-- It is the very one if numbers determine descriptions. -/
  described : E.DescribesById → ∀ c, lastSeen (l.looksAlong E later) = some c →
    ∀ E' : Engine σ, (l.after E later).connection.cipher E' = .ok (some c)
  /-- If none was seen and the handshake is not over, then the one that the engine has now. -/
  unseen : (∀ o ∈ l.looksAlong E later, o = none) → ¬l.Happened E later (Completes E) →
    (l.after E later).connection.state ≠ .configured →
    ∃ s, (l.after E later).connection.engine = .running s ∧
      (l.after E later).connection.cipher E = .ok (E.currentCipher s)

/-- **The cipher survives.** Over any engine, a connection made to remember ciphers tells, after any
run and from the beginning of a handshake to that of the next, the last cipher that was seen at the
engine – while the handshake is under way, when it is over, during and after closing, and after a
failure. -/
theorem cipher_survives (E : Engine σ) (config : Config) (pipe : Pipe) (objects : SessionObjects)
    (h : pipe.isReleased .engine = false) (hm : config.captureMode = .perStep)
    (before later : List Event) (hb : Begins E (fresh config pipe objects) before)
    (hno : ¬((fresh config pipe objects).after E before).Happened E later (Renews E)) :
    TellsLastSeen E ((fresh config pipe objects).after E before) later := by
  obtain ⟨hblank, hnone⟩ := hb.blank h
  have hl : Mindful ((fresh config pipe objects).after E before) :=
    (Mindful.of_fresh objects h hm).after before
  generalize (fresh config pipe objects).after E before = l at hl hblank hnone hno ⊢
  have hl' : Mindful (l.after E later) := hl.after later
  -- what is remembered is what the looks of the run have left
  have hrec : Recalls (l.looksAlong E later) (l.after E later).connection.captured := by
    rw [after_captured E hl.coherent hno, hl.remembered_eq, hblank]
    exact recalls_foldl _
  have hseen (c : Cipher) (hc : lastSeen (l.looksAlong E later) = some c) :
      ∃ d, d.protocolId = c.protocolId ∧ some d ∈ l.looksAlong E later ∧
        ∀ E' : Engine σ, (l.after E later).connection.cipher E' = .ok (some d) := by
    generalize hcap : (l.after E later).connection.captured = captured at hrec
    cases hrec with
    | nothing hnone => cases hnone.symm.trans hc
    | suite hc' hid hd =>
      obtain rfl := Option.some.inj (hc'.symm.trans hc)
      exact ⟨_, hid, hd, hl'.cipher_of_captured hcap⟩
  refine ⟨hseen, fun hE c hc => ?_, fun hall hnc hs => ?_⟩
  · obtain ⟨d, hid, hd, hcipher⟩ := hseen c hc
    have hmem : some c ∈ l.looksAlong E later :=
      List.reduceOption_mem_iff.mp (List.mem_of_getLast? hc)
    obtain ⟨s, hs⟩ := exists_of_mem_looksAlong E hd
    obtain ⟨s', hs'⟩ := exists_of_mem_looksAlong E hmem
    obtain rfl := hE s s' d c hs.symm hs'.symm hid
    exact hcipher
  · have hcap : (l.after E later).connection.captured = none := by
      generalize (l.after E later).connection.captured = captured at hrec
      cases hrec with
      | nothing _ => rfl
      | suite hc _ _ => cases (lastSeen_of_all_none hall).symm.trans hc
    obtain ⟨s, hr, hcipher⟩ := cipher_of_ne_configured (E := E) hl'.coherent hs
    refine ⟨s, hr, ?_⟩
    rw [hcipher, after_no_info E hl.coherent hnone hnc, hcap, Option.none_or]

/-! ### An engine that forgets -/

/-- An engine that chooses a cipher at its first call, and at the second fails and shows it no
more. -/
def forgetful : Engine Nat :=
  { Engine.waiting 0 with
    handshake := fun calls =>
      if calls = 0 then .done (.failed wantsBytes, 1)
      else .done (.failed ⟨ResultCode.protocol, none, []⟩, calls + 1)
    pendingCipher := fun calls => if calls = 1 then some someCipher else none }

/-- Two calls for its handshake. -/
def forgetfulRun : List Event := [.operation .advanceHandshake, .operation .advanceHandshake]

/-- The second look finds nothing, and the cipher is told all the same after the failure. -/
theorem forgetful_tells :
    Pipe.default.isReleased .engine = false ∧ Config.initial.captureMode = .perStep ∧
      (fresh .initial .default .empty).looksAlong forgetful forgetfulRun =
        [some someCipher, none] ∧
      ((fresh .initial .default .empty).after forgetful forgetfulRun).connection.state =
        .errored ∧
      TellsLastSeen forgetful (fresh .initial .default .empty) forgetfulRun :=
  have hno : ¬(fresh .initial .default .empty).Happened forgetful forgetfulRun
      (Renews forgetful) := by
    rw [show forgetfulRun = ([] ++ [.operation .advanceHandshake]) ++
      [.operation .advanceHandshake] from rfl, happened_concat, happened_concat]
    rintro ((h | h) | h)
    · exact not_happened_nil _ _ _ h
    · exact Outcome.noConfusion (Reply.outcome.inj h)
    · exact Outcome.noConfusion (Reply.outcome.inj h)
  ⟨rfl, rfl, rfl, rfl,
    cipher_survives forgetful .initial .default .empty rfl rfl [] forgetfulRun .made hno⟩

end Link

end SocketlessTls
