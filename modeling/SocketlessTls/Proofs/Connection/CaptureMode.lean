import Mathlib.Data.List.Forall2
import SocketlessTls.Proofs.Connection.Recasting
import SocketlessTls.Proofs.Connection.Sighting

/-!
# What the capture mode makes a difference to

Of two connections, one remembers the ciphers that it sees while it is shaking hands and the other
does not. Otherwise they are made of the same configuration, and whatever is done to one of them and
around it is done to the other. This file shows that the two go through the same states, do the same
to the pipe and answer the same, unless they are asked for the cipher – or for the configuration,
which shows the mode.

The argument is a simulation in two layers. That the *connections* differ in what they remember does
not matter (`SocketlessTls.Link.Alike`), nor does it that their *configurations* differ in the mode
(`SocketlessTls.Link.recast`). Two links that differ in both ways are *twins*, and twins stay twins
through every run.

The cipher is the same for both, too, once a handshake is over, if the engine has then settled on
one: both records are of the engine's current cipher, one because that is what was seen last and the
other because nothing was remembered. An engine whose handshake is over without any cipher to show
is the exception, for then the one connection tells what it has seen, and the other tells nothing
(`SocketlessTls.Link.absentMinded_differs`).

* `SocketlessTls.Link.Event.Twin`, `SocketlessTls.Link.Twins` – the same event, and links that
  differ in the mode;
* `SocketlessTls.Link.Twins.after` – twins stay twins;
* `SocketlessTls.Link.Completes.cipher_eq` – the cipher of a record, for either mode;
* `SocketlessTls.Link.capture_mode_only_in_cipher` – all of it;
* `SocketlessTls.Link.absentMinded_differs` – the exception.
-/

namespace SocketlessTls

/-! ### Remembering, from both sides -/

/-- A cipher that is remembered after a look was so before, or has just been seen. -/
theorem eq_or_eq_of_remember {seen o : Option Cipher} {d : Cipher}
    (h : remember seen o = some d) : seen = some d ∨ o = some d := by
  rcases o with _ | c
  · exact Or.inl h
  · rcases remember_some_cases seen c with hr | ⟨d', hseen, -, hr⟩
    · exact Or.inr (hr.symm.trans h)
    · exact Or.inl (hseen.trans (hr.symm.trans h))

theorem eq_or_mem_of_foldl {seen : Option Cipher} {looks : List (Option Cipher)} {d : Cipher}
    (h : looks.foldl remember seen = some d) : seen = some d ∨ some d ∈ looks := by
  induction looks generalizing seen with
  | nil => exact Or.inl h
  | cons o looks ih =>
    rcases ih h with hseen | hmem
    · rcases eq_or_eq_of_remember hseen with hseen | rfl
      · exact Or.inl hseen
      · exact Or.inr (List.mem_cons_self ..)
    · exact Or.inr (List.mem_cons_of_mem _ hmem)

namespace Link

variable {σ : Type}

/-! ### Twins -/

/-- **The same event for two connections**: the very same, or, if a configuration is put in place,
one that may differ in its capture mode. -/
inductive Event.Twin : Event → Event → Prop
  | same (e : Event) : Twin e e
  | configure (config : Config) (m : CaptureMode) :
      Twin (.operation (.configure config)) (.operation (.configure (config.recast m)))

/-- **Two links are twins** if they differ at most in what their connections remember of ciphers and
in the capture modes of connections and configurations. -/
def Twins (l l' : Link σ) : Prop := ∃ m, Alike (l.recast m) l'

section Steps

variable {E : Engine σ} (hE : E.IgnoresCaptureMode) {l l' : Link σ}

include hE in
/-- Events do not read the capture mode. -/
theorem step_recast (l : Link σ) (m : CaptureMode) {e e' : Event} (he : e.Twin e') :
    ((l.recast m).step E e').1 = (l.step E e).1 ∧
      ∃ m', ((l.recast m).step E e').2 = (l.step E e).2.recast m' := by
  cases he with
  | configure config m' =>
    obtain ⟨hres, m'', hl⟩ := configure_recast m l m' config
    exact ⟨congrArg (fun r => Reply.outcome (.configured r)) hres, m'', hl⟩
  | same e =>
    cases e with
    | operation op =>
      by_cases hop : ∃ config, op = .configure config
      · obtain ⟨config, rfl⟩ := hop
        obtain ⟨hres, m'', hl⟩ := configure_recast m l config.captureMode config
        exact ⟨congrArg (fun r => Reply.outcome (.configured r)) hres, m'', hl⟩
      · have hne : ∀ config, op ≠ .configure config := fun config hc => hop ⟨config, hc⟩
        have hp := perform_recast m l hE hne
        simp only [Link.step, hp]
        exact ⟨rfl, m, rfl⟩
    | caller action => exact ⟨rfl, m, rfl⟩
    | elsewhere objects => exact ⟨rfl, m, rfl⟩

namespace Twins

/-- Twins are made of configurations that differ in their capture mode. -/
theorem of_fresh (config : Config) (m m' : CaptureMode) (pipe : Pipe) (objects : SessionObjects) :
    Twins (fresh (config.recast m) pipe objects : Link σ)
      (fresh (config.recast m') pipe objects) :=
  ⟨m', ⟨rfl, rfl, rfl, rfl, rfl, rfl⟩, rfl, rfl⟩

/-- What twins have in common. -/
theorem common (h : Twins l l') :
    l'.connection.state = l.connection.state ∧ l'.connection.engine = l.connection.engine ∧
      l'.pipe = l.pipe ∧ l'.objects = l.objects ∧
      ∃ m, l'.connection.config = l.connection.config.recast m := by
  obtain ⟨m, h⟩ := h
  exact ⟨h.connection.state, h.connection.engine, h.pipe, h.objects, m, h.connection.config⟩

include hE in
/-- **Whatever happens to twins comes to the same**, unless they are asked for their cipher, and
leaves them twins. -/
theorem step (h : Twins l l') {e e' : Event} (he : e.Twin e') :
    (e ≠ .operation (.ask .cipher) → (l'.step E e').1 = (l.step E e).1) ∧
      Twins (l.step E e).2 (l'.step E e').2 := by
  obtain ⟨m, h⟩ := h
  obtain ⟨hreply, m', hl⟩ := step_recast hE l m he
  refine ⟨fun hask => ?_, m', hl ▸ h.step_alike E e'⟩
  have hask' : e' ≠ .operation (.ask .cipher) := by
    cases he with
    | same => exact hask
    | configure => nofun
  exact (h.step E hask').trans hreply

include hE in
/-- **Twins stay twins** through every run, event by event. -/
theorem after (h : Twins l l') {es es' : List Event} (hes : List.Forall₂ Event.Twin es es') :
    Twins (l.after E es) (l'.after E es') := by
  induction hes generalizing l l' with
  | nil => exact h
  | cons he _ ih => exact ih (h.step hE he).2

include hE in
/-- They have new handshakes accepted together. -/
theorem renews (h : Twins l l') {e e' : Event} (he : e.Twin e') (hr : Renews E l' e') :
    Renews E l e := by
  have hask : e ≠ .operation (.ask .cipher) := by
    rintro rfl
    cases he
    exact Outcome.noConfusion (Reply.outcome.inj hr)
  exact ((h.step hE he).1 hask).symm.trans hr

include hE in
theorem happened_renews (h : Twins l l') {es es' : List Event}
    (hes : List.Forall₂ Event.Twin es es') (hr : l'.Happened E es' (Renews E)) :
    l.Happened E es (Renews E) := by
  induction hes generalizing l l' with
  | nil => exact absurd hr (not_happened_nil E l' _)
  | cons he _ ih =>
    rw [happened_cons] at hr ⊢
    exact hr.imp (h.renews hE he) (ih (h.step hE he).2)

end Twins

end Steps

/-! ### The cipher of a record -/

/-- **A connection that remembers what it has seen**, or is blind and remembers nothing. -/
structure Watching (E : Engine σ) (l : Link σ) : Prop where
  coherent : Coherent l
  shown : ∀ d, l.connection.captured = some d → ∃ s, E.observedCipher s = some d
  blind : l.connection.captureMode = .disabled → l.connection.captured = none

namespace Watching

variable {E : Engine σ} {l : Link σ}

theorem of_fresh (config : Config) {pipe : Pipe} (objects : SessionObjects)
    (h : pipe.isReleased .engine = false) : Watching E (fresh config pipe objects) :=
  ⟨.of_fresh config pipe objects h, nofun, fun _ => rfl⟩

/-- **Every event keeps a connection watching.** -/
theorem step (h : Watching E l) (e : Event) : Watching E (l.step E e).2 := by
  have hcoh := step_coherent E h.coherent e
  have hmode := step_captureMode E h.coherent e
  by_cases hr : Renews E l e
  · have hnone := (hr.forgets E h.coherent).1
    refine ⟨hcoh, fun d hd => ?_, fun _ => hnone⟩
    rw [hnone] at hd
    cases hd
  · have hcap := step_captured E h.coherent hr
    refine ⟨hcoh, fun d hd => ?_, fun hm => ?_⟩
    · rw [hcap, Connection.remembered] at hd
      split at hd
      · rcases eq_or_mem_of_foldl hd with hd | hd
        · exact h.shown d hd
        · obtain ⟨s, hs⟩ := exists_of_mem_looks E hd
          exact ⟨s, hs.symm⟩
      · exact h.shown d hd
    · rw [hmode] at hm
      rw [hcap, Connection.remembered, hm]
      exact h.blind hm

theorem after (h : Watching E l) (es : List Event) : Watching E (l.after E es) :=
  after_induct (P := Watching E) E (fun _ e h => h.step e) h es

end Watching

/-- What is remembered when a cipher has just been seen is of its suite. -/
theorem id_of_remembered {c : Connection σ} (hblind : c.captureMode = .disabled → c.captured = none)
    (looks : List (Option Cipher)) {last d : Cipher}
    (h : c.remembered (looks ++ [some last]) = some d) : d.protocolId = last.protocolId := by
  unfold Connection.remembered at h
  split at h
  · rw [List.foldl_concat] at h
    rcases remember_some_cases (looks.foldl remember c.captured) last with hr | ⟨d', -, hid, hr⟩
    · rw [← Option.some.inj (hr.symm.trans h)]
    · rw [← Option.some.inj (hr.symm.trans h)]
      exact hid
  · rename_i hm
    cases (hblind hm).symm.trans h

/-- **The cipher of a record is the engine's current one** if nothing else is pending then. Only
where the engine has none to show when the handshake is over is it what was remembered before. -/
theorem Completes.cipher_eq {E : Engine σ} (hid : E.DescribesById) {l : Link σ}
    (hl : Watching E l) {e : Event} (hc : Completes E l e) {s : σ}
    (hs : (l.step E e).2.connection.engine = .running s)
    (hpending : ∀ c, E.pendingCipher s = some c → E.currentCipher s = some c) :
    ∃ n, (l.step E e).2.connection.info = some n ∧
      n.cipher = (E.currentCipher s).or l.connection.captured := by
  obtain ⟨s', n, hn, hlooks⟩ := hc.recorded E hl.coherent
  obtain rfl : s' = s := EngineSlot.running.inj (hn.engine.symm.trans hs)
  refine ⟨n, hn.info, ?_⟩
  -- what is to be seen at the end is the current cipher
  have hseen : E.observedCipher s' = E.currentCipher s' := by
    rcases hp : E.pendingCipher s' with _ | c
    · rw [Engine.observedCipher, hp, Option.none_or]
    · rw [Engine.observedCipher, hp, Option.some_or, hpending c hp]
  have hcap := step_captured E hl.coherent (Completes.not_renews E hc)
  rw [hlooks, hseen] at hcap
  rw [hn.cipher]
  rcases hcur : E.currentCipher s' with _ | c
  · have hsame : (l.step E e).2.connection.captured = l.connection.captured := by
      rw [hcap, hcur, Connection.remembered]
      split <;> rfl
    rw [hsame, Option.or_none, Option.none_or]
  · rw [Option.some_or]
    rcases hafter : (l.step E e).2.connection.captured with _ | d
    · exact Option.none_or
    · rw [Option.some_or]
      -- it is remembered by its number, which determines it
      rw [hcur, hafter] at hcap
      have hnum := id_of_remembered hl.blind [some c] hcap.symm
      obtain ⟨s, hs⟩ := (hl.step e).shown d hafter
      exact congrArg some (hid s s' d c hs (hseen.trans hcur) hnum)

/-! ### The two modes -/

/-- **Two connections that can only be told apart by their cipher**, and by the mode that their
configurations show. -/
structure SameButCipher (E : Engine σ) (l l' : Link σ) : Prop where
  state : l'.connection.state = l.connection.state
  pipe : l'.pipe = l.pipe
  objects : l'.objects = l.objects
  config : ∃ m, l'.connection.config = l.connection.config.recast m
  /-- Settings are accepted and refused alike, and the configurations go on to differ in the mode
  only. -/
  settings : ∀ (sc : Screening) (s : Setting), ∃ m,
    s.apply sc l'.connection.config = (s.apply sc l.connection.config).recast m
  /-- Whatever happens to both is answered the same. -/
  replies : ∀ e e', Event.Twin e e' → e ≠ .operation (.ask .cipher) →
    (l'.step E e').1 = (l.step E e).1
  /-- What is left when they are given up is the same. -/
  discard : l'.discard E = l.discard E

/-- Twins can only be told apart by their cipher. -/
theorem Twins.sameButCipher {E : Engine σ} (hE : E.IgnoresCaptureMode) {l l' : Link σ}
    (h : Twins l l') : SameButCipher E l l' := by
  obtain ⟨hstate, hengine, hpipe, hobjects, m, hconfig⟩ := h.common
  refine ⟨hstate, hpipe, hobjects, ⟨m, hconfig⟩, fun sc s => ?_,
    fun e e' he => (h.step hE he).1, ?_⟩
  · rw [hconfig]
    exact s.apply_recast sc l.connection.config m
  · simp only [Link.discard, hengine, hpipe, hobjects]

/-- **What two connections tell of the cipher** at two later times, when their handshakes were over
with the engine in the state `s`. The first remembered the cipher `seen` until then. -/
structure TellCipher (E : Engine σ) (s : σ) (seen : Option Cipher) (l l' : Link σ) : Prop where
  /-- It is the same for both, for an engine that has a current cipher when its handshake is over –
  or else has shown none at all. -/
  same : (E.currentCipher s = none → seen = none) → l'.connection.cipher E = l.connection.cipher E
  /-- The connection that remembers nothing tells the engine's current cipher. -/
  blind : l'.connection.cipher E = .ok (E.currentCipher s)
  /-- The one that remembers tells it too, and what it had seen only if there was none. -/
  watching : l.connection.cipher E = .ok ((E.currentCipher s).or seen)

/-- **From the end of a handshake the mode does not show in the cipher either**, until a new
handshake is accepted and whatever happens to both connections meanwhile, if a cipher that was
pending at the end was none but the current one. -/
def SameCipher (E : Engine σ) (l l' : Link σ) : Prop :=
  Completes E l (.operation .advanceHandshake) →
    ∀ s, (l.step E (.operation .advanceHandshake)).2.connection.engine = .running s →
    (∀ c, E.pendingCipher s = some c → E.currentCipher s = some c) →
    ∀ later later', List.Forall₂ Event.Twin later later' →
    ¬(l.step E (.operation .advanceHandshake)).2.Happened E later (Renews E) →
    TellCipher E s l.connection.captured
      ((l.step E (.operation .advanceHandshake)).2.after E later)
      ((l'.step E (.operation .advanceHandshake)).2.after E later')

/-- **The capture mode makes no difference but to the cipher.** Take any engine that does not read
the mode off the configuration, and two connections made of configurations that differ in their mode
only. After any run of both they can only be told apart by their cipher; and where numbers determine
descriptions, not even by their cipher once a handshake is over. -/
theorem capture_mode_only_in_cipher (E : Engine σ) (hE : E.IgnoresCaptureMode) (config : Config)
    (pipe : Pipe) (objects : SessionObjects) (h : pipe.isReleased .engine = false)
    {es es' : List Event} (hes : List.Forall₂ Event.Twin es es') :
    let l := (fresh (config.recast .perStep) pipe objects).after E es
    let l' := (fresh (config.recast .disabled) pipe objects).after E es'
    SameButCipher E l l' ∧ (E.DescribesById → SameCipher E l l') := by
  intro l l'
  have htwins : Twins l l' :=
    (Twins.of_fresh config .perStep .disabled pipe objects).after hE hes
  refine ⟨htwins.sameButCipher hE, ?_⟩
  intro hid hc s hs hpending later later' hlater hno
  have hl : Watching E l := (Watching.of_fresh _ objects h).after es
  have hl' : Watching E l' := (Watching.of_fresh _ objects h).after es'
  obtain ⟨hreply, hstep⟩ := htwins.step hE (.same (.operation .advanceHandshake))
  -- the twin has come to the end of its handshake too, over the same state of the engine
  have hc' : Completes E l' (.operation .advanceHandshake) := (hreply (by nofun)).trans hc
  have hs' := hstep.common.2.1.trans hs
  have hblind : l'.connection.captured = none :=
    hl'.blind (after_captureMode E (.of_fresh _ pipe objects h) es')
  have hno' : ¬(l'.step E (.operation .advanceHandshake)).2.Happened E later' (Renews E) :=
    fun hr => hno (hstep.happened_renews hE hlater hr)
  obtain ⟨n, hi, hn⟩ := hc.cipher_eq hid hl hs hpending
  obtain ⟨n', hi', hn'⟩ := hc'.cipher_eq hid hl' hs' hpending
  rw [hblind, Option.or_none] at hn'
  have hcoh := (hl.step (.operation .advanceHandshake)).coherent
  have hcoh' := (hl'.step (.operation .advanceHandshake)).coherent
  have htold := (told_of_info (after_coherent E hcoh later) (after_info E hcoh hi hno)).cipher E
  have htold' :=
    (told_of_info (after_coherent E hcoh' later') (after_info E hcoh' hi' hno')).cipher E
  rw [hn] at htold
  rw [hn'] at htold'
  refine ⟨fun hcurrent => ?_, htold', htold⟩
  rw [htold, htold']
  rcases hcur : E.currentCipher s with _ | c
  · rw [hcurrent hcur, Option.or_none]
  · rw [Option.some_or]

/-! ### Engines that do not read the mode -/

/-- The engine of this library does not. -/
theorem transparent_ignoresCaptureMode : Transparent.engine.IgnoresCaptureMode :=
  ⟨fun _ _ => rfl, fun _ _ _ _ => rfl⟩

/-- An engine that ends its handshake at once and has settled on a cipher, and fails when it is to
be closed. -/
def resolute : Engine Unit :=
  { Engine.waiting () with
    handshake := fun _ => .done (.done (), ())
    shutdown := fun _ => .done (.failed ⟨ResultCode.protocol, none, []⟩, ())
    pendingCipher := fun _ => some someCipher
    currentCipher := fun _ => some someCipher }

/-- The cipher that it shows is always the same. -/
theorem resolute_describesById : resolute.DescribesById := by
  intro s s' c c' hc hc' _
  exact Option.some.inj (hc.symm.trans hc')

/-- Over it the mode makes no difference, even if another is set meanwhile, and not even after a
failure. -/
theorem resolute_same :
    resolute.IgnoresCaptureMode ∧ Pipe.default.isReleased .engine = false ∧
      List.Forall₂ Event.Twin [.operation (.configure .initial)]
        [.operation (.configure (Config.initial.recast .disabled))] ∧
      Completes resolute ((fresh (Config.initial.recast .perStep) .default .empty).after resolute
        [.operation (.configure .initial)]) (.operation .advanceHandshake) ∧
      (SameButCipher resolute
          ((fresh (Config.initial.recast .perStep) .default .empty).after resolute
            [.operation (.configure .initial)])
          ((fresh (Config.initial.recast .disabled) .default .empty).after resolute
            [.operation (.configure (Config.initial.recast .disabled))]) ∧
        SameCipher resolute
          ((fresh (Config.initial.recast .perStep) .default .empty).after resolute
            [.operation (.configure .initial)])
          ((fresh (Config.initial.recast .disabled) .default .empty).after resolute
            [.operation (.configure (Config.initial.recast .disabled))])) :=
  have hE : resolute.IgnoresCaptureMode := ⟨fun _ _ => rfl, fun _ _ _ _ => rfl⟩
  have hes : List.Forall₂ Event.Twin [.operation (.configure .initial)]
      [.operation (.configure (Config.initial.recast .disabled))] :=
    .cons (.configure .initial .disabled) .nil
  have hsame := capture_mode_only_in_cipher resolute hE .initial .default .empty rfl hes
  ⟨hE, rfl, hes, rfl, hsame.1, hsame.2 resolute_describesById⟩

/-! ### An engine without a cipher at the end -/

/-- An engine that shows a cipher while it waits for bytes, and none when its handshake is over. It
counts its calls. -/
def absentMinded : Engine Nat :=
  { Engine.waiting 0 with
    handshake := fun calls =>
      if calls = 0 then .done (.failed wantsBytes, 1) else .done (.done (), calls + 1)
    pendingCipher := fun calls => if calls = 1 then some someCipher else none }

/-- It never shows another cipher. -/
theorem absentMinded_observedCipher {calls : Nat} {c : Cipher}
    (h : absentMinded.observedCipher calls = some c) : c = someCipher := by
  have hseen : absentMinded.observedCipher calls = if calls = 1 then some someCipher else none :=
    Option.or_none
  rw [hseen] at h
  split at h
  · exact (Option.some.inj h).symm
  · cases h

/-- It has no pending cipher when its handshake is over. -/
theorem absentMinded_pendingCipher {calls calls' : Nat} {w w' : Call.World}
    (h : (absentMinded.handshake calls).run .engine w = ((.done (), calls'), w')) :
    absentMinded.pendingCipher calls' = none := by
  by_cases hfirst : calls = 0
  · have hrun : (absentMinded.handshake calls).run .engine w = ((.failed wantsBytes, 1), w) := by
      rw [hfirst]
      rfl
    cases hrun.symm.trans h
  · have hrun : (absentMinded.handshake calls).run .engine w = ((.done (), calls + 1), w) := by
      simp only [absentMinded, if_neg hfirst]
      rfl
    obtain rfl : calls + 1 = calls' := (Prod.mk.inj (Prod.mk.inj (hrun.symm.trans h)).1).2
    exact if_neg (by omega)

/-- **The mode can show in the cipher of a handshake that is over**, though no other cipher is
pending then: where the engine has none to show, the one connection tells the cipher that it has
seen, and the other tells none. -/
theorem absentMinded_differs :
    absentMinded.IgnoresCaptureMode ∧ absentMinded.DescribesById ∧
      (∀ calls calls' w w', (absentMinded.handshake calls).run .engine w =
          ((.done (), calls'), w') →
        ∀ c, absentMinded.pendingCipher calls' = some c →
          absentMinded.currentCipher calls' = some c) ∧
      Completes absentMinded ((fresh (Config.initial.recast .perStep) .default .empty).after
        absentMinded [.operation .advanceHandshake]) (.operation .advanceHandshake) ∧
      Completes absentMinded ((fresh (Config.initial.recast .disabled) .default .empty).after
        absentMinded [.operation .advanceHandshake]) (.operation .advanceHandshake) ∧
      ((fresh (Config.initial.recast .perStep) .default .empty).after absentMinded
        [.operation .advanceHandshake, .operation .advanceHandshake]).connection.cipher
          absentMinded = .ok (some someCipher) ∧
      ((fresh (Config.initial.recast .disabled) .default .empty).after absentMinded
        [.operation .advanceHandshake, .operation .advanceHandshake]).connection.cipher
          absentMinded = .ok none := by
  refine ⟨⟨fun _ _ => rfl, fun _ _ _ _ => rfl⟩, ?_, ?_, rfl, rfl, rfl, rfl⟩
  · intro calls calls' c c' hc hc' _
    rw [absentMinded_observedCipher hc, absentMinded_observedCipher hc']
  · intro calls calls' w w' h c hc
    cases (absentMinded_pendingCipher h).symm.trans hc

end Link

end SocketlessTls
