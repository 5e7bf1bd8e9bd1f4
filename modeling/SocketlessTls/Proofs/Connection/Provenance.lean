import SocketlessTls.Proofs.Connection.Course
import SocketlessTls.Proofs.Connection.Reachable

/-!
# Where the engine of a connection comes from

A configuration can be replaced as often as one likes before the handshake starts and never after,
and the engine is built at the start. So the engine that a connection is driving has been built for
the configuration that the connection has, however many there were before it, and what is known of
engines with such a configuration holds of it at any time.

* `SocketlessTls.Engine.StemsFrom` – the states that an engine gets into which has been built for
  a configuration, whatever is asked of it and in whatever world;
* `SocketlessTls.Link.Stems` – the engine of a connection stems from the configuration;
* `SocketlessTls.Link.after_stems` – it does so after every run.
-/

namespace SocketlessTls

/-- **The states of an engine that stem from a configuration**: those that it is built in, and those
that it gets into by being used. -/
inductive Engine.StemsFrom {σ : Type} (E : Engine σ) (config : Config) : σ → Prop
  | built {s : σ} (h : E.build? config = some s) : StemsFrom E config s
  | prepared {session : Option Session} {s s' : σ} (hs : StemsFrom E config s)
      (h : E.prepare? config session s = some s') : StemsFrom E config s'
  | attached {s s' : σ} (hs : StemsFrom E config s) (h : E.attach? s = some s') :
      StemsFrom E config s'
  | called {α : Type} {call : σ → Call (RawOutcome α × σ)} {raw : RawOutcome α} {s s' : σ}
      {w w' : Call.World} (hs : StemsFrom E config s) (hcall : E.IsCall call)
      (h : (call s).run .engine w = ((raw, s'), w')) : StemsFrom E config s'
  | renegotiated {accepts : Bool} {s s' : σ} (hs : StemsFrom E config s)
      (h : E.renegotiate s = (accepts, s')) : StemsFrom E config s'

namespace Link

variable {σ : Type}

/-- The engine of a connection, if it runs, stems from the configuration. -/
def Stems (E : Engine σ) (l : Link σ) : Prop :=
  ∀ s, l.connection.engine = .running s → E.StemsFrom l.connection.config s

section Steps

variable {E : Engine σ} {l l₁ : Link σ}

/-- A connection whose engine does not run has nothing to say. -/
theorem Stems.of_not_running (h : ∀ s, l.connection.engine ≠ .running s) : Stems E l :=
  fun s hs => absurd hs (h s)

/-- Only the engine and the configuration matter. -/
theorem Stems.of_running {s : σ} (hs : l.connection.engine = .running s)
    (h : E.StemsFrom l.connection.config s) : Stems E l := by
  intro s' hs'
  obtain rfl : s = s' := EngineSlot.running.inj (hs.symm.trans hs')
  exact h

/-- **An engine is started from the configuration that the connection has.** -/
theorem start_stems (hst : l.start E = (.ok (), l₁)) :
    l₁.connection.config = l.connection.config ∧ Stems E l₁ := by
  -- of the steps of a start, each must have gone well
  unfold start at hst
  split at hst
  case h_2 => cases (Prod.mk.inj hst).1
  split at hst
  case h_1 => cases (Prod.mk.inj hst).1
  rename_i built hbuilt
  split at hst
  case h_1 => cases (Prod.mk.inj hst).1
  split at hst
  case h_1 => cases (Prod.mk.inj hst).1
  rename_i prepared hprepared
  split at hst
  case h_1 => cases (Prod.mk.inj hst).1
  rename_i attached hattached
  obtain rfl := (Prod.mk.inj hst).2
  exact ⟨rfl, .of_running rfl (((Engine.StemsFrom.built hbuilt).prepared hprepared).attached
    hattached)⟩

theorem startIfConfigured_stems (h : Stems E l) (hst : l.startIfConfigured E = (.ok (), l₁)) :
    l₁.connection.config = l.connection.config ∧ Stems E l₁ := by
  unfold startIfConfigured at hst
  split at hst
  · exact start_stems hst
  · obtain rfl := (Prod.mk.inj hst).2
    exact ⟨rfl, h⟩

/-- An engine is called in a state that stems from the configuration. -/
theorem CalledIn.stemsFrom {s : σ} (hc : l.CalledIn E s) (h : Stems E l) :
    E.StemsFrom l.connection.config s := by
  rcases hc with hs | ⟨l₁, hst, hs⟩
  · exact h s hs
  · obtain ⟨hconfig, h₁⟩ := startIfConfigured_stems h hst
    rw [← hconfig]
    exact h₁ s hs

/-- **Every operation leaves an engine that stems from the configuration.** -/
theorem perform_stems (hc : Coherent l) (h : Stems E l) (op : Operation) :
    Stems E (l.perform E op).2 := by
  have hcourse := perform_course E hc op
  generalize (l.perform E op).1 = out, (l.perform E op).2 = l' at hcourse ⊢
  cases hcourse with
  | refused _ _ => exact h
  | idle _ => exact h
  | unprepared _ _ => exact h
  | told q => exact h
  | lost _ _ => exact .of_not_running nofun
  | configured hs =>
    -- there is no engine yet that could stem from the configuration before
    refine .of_not_running fun s hr => ?_
    rcases (hc.fresh hs).1 with hidle | hlost
    · cases hidle.symm.trans hr
    · cases hlost.symm.trans hr
  | declined hr hno => exact .of_running rfl ((h _ hr).renegotiated hno)
  | accepted hr hyes => exact .of_running rfl ((h _ hr).renegotiated hyes)
  | called _ hx =>
    obtain ⟨α, call, s, o, raw, s', w, hx⟩ := hx
    refine .of_running hx.engine ?_
    rw [hx.config]
    exact (hx.state.stemsFrom h).called hx.makes.isCall hx.run

/-- Every event leaves an engine that stems from the configuration. -/
theorem step_stems (hc : Coherent l) (h : Stems E l) (e : Event) : Stems E (l.step E e).2 := by
  cases e with
  | operation op => exact perform_stems hc h op
  | caller action => exact h
  | elsewhere objects => exact h

/-- **The engine of a connection stems from its configuration at any time.** -/
theorem after_stems (hc : Coherent l) (h : Stems E l) (es : List Event) :
    Stems E (l.after E es) :=
  (after_induct (P := fun l => Coherent l ∧ Stems E l) E
    (fun _ e h => ⟨step_coherent E h.1 e, step_stems h.1 h.2 e⟩) ⟨hc, h⟩ es).2

end Steps

end Link

end SocketlessTls
