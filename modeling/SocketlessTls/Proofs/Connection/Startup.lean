import SocketlessTls.Connection.Startup
import SocketlessTls.Engine.Waiting
import SocketlessTls.Proofs.Config.WellFormed
import SocketlessTls.Proofs.Connection.Configuring

/-!
# Texts that the engine cannot be given

A text with a NUL in it cannot be given to the engine, and a program that tries stops. There are two
occasions: when a text is set, and when an engine is started with it. A name of a server with a NUL
in it is refused when it is set. The three lists are screened by the engine itself, and so a list
with a NUL in it stops the program, if there is a context to screen it in. **These are the only
settings that do**
(`SocketlessTls.Setting.run_aborted_iff`).

What has been set has come through that, and so a start has nothing to fear from it: **whatever
settings have been made, no text of theirs stops the program when an engine is started**
(`SocketlessTls.Link.settings_start_safely`). The engine can still refuse a text that it has
accepted before, and a start that only fails because something is refused is a start in one piece
(`SocketlessTls.Link.startStepwise_eq`).

* `SocketlessTls.EngineList` – the lists that are screened by the engine;
* `SocketlessTls.Building.OnlyRefuses` – steps that end early only because the engine refuses;
* `SocketlessTls.Config.engineTexts` – the texts that the engine is given when it is started.
-/

namespace SocketlessTls

/-! ### Setting a list -/

/-- The lists that are screened by the engine. -/
inductive EngineList where
  | cipherList
  | cipherSuites
  | sigalgs
  deriving Repr, DecidableEq

namespace EngineList

/-- The setting of a list. -/
def setting : EngineList → String → Setting
  | cipherList => .cipherList
  | cipherSuites => .cipherSuites
  | sigalgs => .sigalgs

/-- What the engine accepts. -/
def accepts (sc : Screening) : EngineList → String → Bool
  | cipherList => sc.cipherList
  | cipherSuites => sc.cipherSuites
  | sigalgs => sc.sigalgs

/-- The error for a list that is not accepted. -/
def error : EngineList → String → ConfigError
  | cipherList => .invalidCipherList
  | cipherSuites => .invalidCipherSuites
  | sigalgs => .invalidSigalgs

/-- The configuration with a list set. -/
def put (c : Config) : EngineList → String → Config
  | cipherList, list => { c with cipherList := some list }
  | cipherSuites, list => { c with cipherSuites := some list }
  | sigalgs, list => { c with sigalgs := some list }

theorem apply_setting (sc : Screening) (c : Config) (k : EngineList) (list : String) :
    (k.setting list).apply sc c =
      screened sc (k.accepts sc) list (k.error list) (k.put c list) := by
  cases k <;> rfl

end EngineList

theorem isEngineText_iff (text : String) : isEngineText text = true ↔ '\x00' ∉ text.toList := by
  simp [isEngineText]

/-- **What becomes of a list**: it is refused without a look at it if there is no context to screen
it in; with a NUL in it, it stops the program; otherwise the engine decides whether it is set or
refused, each with an error of its own. -/
theorem EngineList.run_setting (sc : Screening) (c : Config) (k : EngineList) (list : String) :
    (k.setting list).run sc c =
      if sc.hasContext = false then (.error (.refused .engine), c)
      else if '\x00' ∈ list.toList then (.error .aborted, c)
      else if k.accepts sc list = true then (.ok (), k.put c list)
      else (.error (.refused (.configuration (k.error list))), c) := by
  rw [Setting.run_eq, k.apply_setting, screened]
  rcases sc.hasContext with _ | _
  · rfl
  rw [if_neg Bool.noConfusion]
  by_cases hnul : '\x00' ∈ list.toList
  · have htext : isEngineText list = false := by simpa [isEngineText] using hnul
    rw [if_pos hnul, htext]
    rfl
  · have htext : isEngineText list = true := (isEngineText_iff list).mpr hnul
    rw [if_neg hnul, htext]
    rcases k.accepts sc list with _ | _ <;> rfl

/-! ### All settings -/

/-- A check that fails is a refusal. -/
theorem Applied.checked_ne_aborted (p : Prop) [Decidable p] (c : Config) (e : ConfigError) :
    (if p then .accepted c else .invalid e : Applied) ≠ .aborted := by
  intro h
  split at h <;> cases h

theorem Config.withClientCertificate_ne_aborted (sc : Screening) (c : Config)
    (cert : X509.Certificate) (key : X509.PrivateKey) :
    c.withClientCertificate sc cert key ≠ .aborted := by
  intro h
  unfold withClientCertificate at h
  split at h
  · cases h
  · exact Applied.checked_ne_aborted _ _ _ h

/-- A setting that is not of a list never stops the program, whatever its texts. -/
theorem Setting.apply_ne_aborted (sc : Screening) (c : Config) {s : Setting}
    (h : ∀ k list, s ≠ EngineList.setting k list) : s.apply sc c ≠ .aborted := by
  intro ha
  cases s with
  | cipherList list => exact absurd rfl (h .cipherList list)
  | cipherSuites list => exact absurd rfl (h .cipherSuites list)
  | sigalgs list => exact absurd rfl (h .sigalgs list)
  | versionRange min max => exact Applied.checked_ne_aborted _ _ _ ha
  | serverName name => exact Applied.checked_ne_aborted _ _ _ ha
  | statusType type => exact Applied.checked_ne_aborted _ _ _ ha
  | verifyModeRaw raw =>
    rw [apply] at ha
    split at ha <;> cases ha
  | alpn protocols =>
    rw [apply] at ha
    split at ha <;> cases ha
  | clientCertificate cert key => exact c.withClientCertificate_ne_aborted sc cert key ha
  | clientCertificatePem text =>
    rw [apply] at ha
    split at ha
    · cases ha
    split at ha
    · cases ha
    · exact c.withClientCertificate_ne_aborted sc _ _ ha
  -- the other settings cannot fail
  | _ => cases ha

/-- **A setting stops the program exactly if it is of a list with a NUL in it**, and there is
a context to screen the list in. -/
theorem Setting.run_aborted_iff (sc : Screening) (c : Config) (s : Setting) :
    (s.run sc c).1 = .error .aborted ↔ sc.hasContext = true ∧
      ∃ k list, s = EngineList.setting k list ∧ '\x00' ∈ list.toList := by
  by_cases h : ∃ k list, s = EngineList.setting k list
  · obtain ⟨k, list, rfl⟩ := h
    rw [k.run_setting]
    rcases hcontext : sc.hasContext with _ | _
    · exact iff_of_false nofun nofun
    rw [if_neg Bool.noConfusion]
    by_cases hnul : '\x00' ∈ list.toList
    · rw [if_pos hnul]
      exact iff_of_true rfl ⟨rfl, k, list, rfl, hnul⟩
    · refine iff_of_false (fun hrun => ?_) ?_
      · rw [if_neg hnul] at hrun
        split at hrun <;> cases hrun
      · rintro ⟨-, k', list', hsame, hnul'⟩
        have hlist : list = list' := by
          cases k <;> cases k' <;> cases hsame <;> rfl
        exact hnul (hlist ▸ hnul')
  · have hother : ∀ k list, s ≠ EngineList.setting k list := fun k list hs => h ⟨k, list, hs⟩
    refine iff_of_false (fun hrun => ?_) fun ⟨_, k, list, hs, _⟩ => hother k list hs
    rw [run_eq] at hrun
    rcases ha : s.apply sc c with c' | e | _
    · rw [ha] at hrun
      cases hrun
    · rw [ha] at hrun
      cases hrun
    · exact apply_ne_aborted sc c hother ha

/-! ### Steps of a start -/

namespace Building

variable {σ α β : Type}

/-- **Steps that end early only because the engine refuses something.** -/
def OnlyRefuses (x : Building σ α) : Prop := ∀ s e, x.run s = .error e → e = .refused .engine

/-- Such steps come to their end, or the engine has refused something. -/
theorem OnlyRefuses.run_cases {x : Building σ Unit} (h : OnlyRefuses x) (s : σ) :
    (x.run s = .error (.refused .engine) ∧ x.run? s = none) ∨
      ∃ s', x.run s = .ok ((), s') ∧ x.run? s = some s' := by
  rcases hr : x.run s with e | ⟨⟨⟩, s'⟩
  · obtain rfl := h s e hr
    exact Or.inl ⟨rfl, by rw [run?, hr]⟩
  · exact Or.inr ⟨s', rfl, by rw [run?, hr]⟩

theorem onlyRefuses_pure (a : α) : OnlyRefuses (pure a : Building σ α) := nofun

theorem onlyRefuses_modify (f : σ → σ) : OnlyRefuses (modify f : Building σ Unit) := nofun

/-- One step after another. -/
theorem OnlyRefuses.bind {x : Building σ α} {f : α → Building σ β} (hx : OnlyRefuses x)
    (hf : ∀ a, OnlyRefuses (f a)) : OnlyRefuses (x >>= f) := by
  intro s e h
  rw [StateT.run_bind] at h
  rcases hr : x.run s with e' | ⟨a, s'⟩
  · rw [hr] at h
    obtain rfl := Except.error.inj h
    exact hx s e' hr
  · rw [hr] at h
    exact hf a s' e h

theorem onlyRefuses_tell (f : σ → Option σ) : OnlyRefuses (tell f) := by
  intro s e h
  have h : tell f s = .error e := h
  rw [tell] at h
  split at h
  · cases h
  · exact (Except.error.inj h).symm

/-- A text without a NUL reaches the engine, which may refuse it. -/
theorem onlyRefuses_hand (f : String → σ → Option σ) {text : String}
    (h : isEngineText text = true) : OnlyRefuses (hand f text) := by
  rw [hand, if_pos h]
  exact onlyRefuses_tell _

theorem onlyRefuses_ifSet {value : Option α} {act : α → Building σ Unit}
    (h : ∀ a ∈ value, OnlyRefuses (act a)) : OnlyRefuses (ifSet value act) := by
  rcases value with _ | a
  · exact onlyRefuses_pure ()
  · exact h a rfl

theorem onlyRefuses_inCase (holds : Bool) {act : Building σ Unit} (h : OnlyRefuses act) :
    OnlyRefuses (inCase holds act) := by
  rcases holds with _ | _
  · exact onlyRefuses_pure ()
  · exact h

/-- As many steps as a list is long. -/
theorem onlyRefuses_forM {act : α → Building σ PUnit} (h : ∀ a, OnlyRefuses (act a)) :
    ∀ list : List α, OnlyRefuses (list.forM act)
  | [] => onlyRefuses_pure ()
  | a :: list => (h a).bind fun _ => onlyRefuses_forM h list

end Building

/-- The texts that the engine is given when it is started. -/
def Config.engineTexts (c : Config) : List String :=
  c.cipherList.toList ++ c.cipherSuites.toList ++ c.sigalgs.toList ++ c.serverName.toList

theorem Config.mem_engineTexts {c : Config} {text : String} :
    text ∈ c.engineTexts ↔ c.cipherList = some text ∨ c.cipherSuites = some text ∨
      c.sigalgs = some text ∨ c.serverName = some text := by
  simp [engineTexts]

/-- **The texts of a well-formed configuration can be given to the engine.** -/
theorem Config.WellFormed.engineTexts {sc : Screening} {c : Config} (h : c.WellFormed sc) :
    ∀ text ∈ c.engineTexts, isEngineText text = true := by
  intro text hmem
  rcases mem_engineTexts.mp hmem with hset | hset | hset | hset
  · exact (h.cipherList text hset).1
  · exact (h.cipherSuites text hset).1
  · exact (h.sigalgs text hset).1
  · exact (isEngineText_iff text).mpr (h.serverName text hset).noNul

namespace Builder

open Building

variable {σ : Type} (B : Builder σ) {c : Config}

theorem onlyRefuses_presentCertificate (c : Config) : OnlyRefuses (B.presentCertificate c) := by
  unfold presentCertificate
  split
  · exact (onlyRefuses_tell _).bind fun _ => (onlyRefuses_tell _).bind fun _ => onlyRefuses_tell _
  · exact onlyRefuses_inCase _ (onlyRefuses_modify _)

/-- **While the engine is told what is shared, nothing goes wrong but that it refuses.** -/
theorem onlyRefuses_context (h : ∀ text ∈ c.engineTexts, isEngineText text = true) :
    OnlyRefuses (B.context c) := by
  have hcipherList : ∀ list ∈ c.cipherList, isEngineText list = true :=
    fun list hset => h list (Config.mem_engineTexts.mpr (Or.inl hset))
  have hcipherSuites : ∀ list ∈ c.cipherSuites, isEngineText list = true :=
    fun list hset => h list (Config.mem_engineTexts.mpr (Or.inr (Or.inl hset)))
  have hsigalgs : ∀ list ∈ c.sigalgs, isEngineText list = true :=
    fun list hset => h list (Config.mem_engineTexts.mpr (Or.inr (Or.inr (Or.inl hset))))
  refine (onlyRefuses_tell _).bind fun _ => (onlyRefuses_tell _).bind fun _ => ?_
  refine (onlyRefuses_modify _).bind fun _ => (onlyRefuses_modify _).bind fun _ => ?_
  refine (onlyRefuses_inCase _ (onlyRefuses_modify _)).bind fun _ => ?_
  -- the three lists
  refine (onlyRefuses_ifSet fun l hl => onlyRefuses_hand _ (hcipherList l hl)).bind fun _ => ?_
  refine (onlyRefuses_ifSet fun l hl => onlyRefuses_hand _ (hcipherSuites l hl)).bind fun _ => ?_
  refine (onlyRefuses_ifSet fun l hl => onlyRefuses_hand _ (hsigalgs l hl)).bind fun _ => ?_
  refine (onlyRefuses_inCase _ (onlyRefuses_tell _)).bind fun _ => ?_
  refine (onlyRefuses_forM (fun _ => onlyRefuses_tell _) c.trusted).bind fun _ => ?_
  exact (B.onlyRefuses_presentCertificate c).bind fun _ => onlyRefuses_tell _

/-- The same for what belongs to one connection. -/
theorem onlyRefuses_client (h : ∀ text ∈ c.engineTexts, isEngineText text = true) :
    OnlyRefuses (B.client c) := by
  have hname : ∀ name ∈ c.serverName, isEngineText name = true :=
    fun name hset => h name (Config.mem_engineTexts.mpr (Or.inr (Or.inr (Or.inr hset))))
  refine (onlyRefuses_ifSet fun name hset => onlyRefuses_hand _ (hname name hset)).bind fun _ => ?_
  exact onlyRefuses_inCase _ (onlyRefuses_tell _)

end Builder

/-! ### A start -/

namespace Builder

open Building

variable {σ : Type} (B : Builder σ) (E : Engine σ) {c : Config}

/-- What belongs to one connection, when its session has been copied, ends as one step does: with
the session objects, or because the engine has refused something. -/
theorem client_resume (h : ∀ text ∈ c.engineTexts, isEngineText text = true) (o : SessionObjects)
    (s : σ) :
    (do B.client c; B.resume c o : Building σ SessionObjects).run s =
      match Link.copySession? c.session o with
      | none => .error (.refused .engine)
      | some (session, o) =>
        match (E.builtBy B).prepare? c session s with
        | none => .error (.refused .engine)
        | some s => .ok (o, s) := by
  have hclient := B.onlyRefuses_client h
  rcases hcopy : Link.copySession? c.session o with _ | ⟨session, o'⟩
  · rcases hclient.run_cases s with ⟨hrun, -⟩ | ⟨s', hrun, -⟩
    all_goals
      rw [StateT.run_bind, hrun]
      simp only [resume, hcopy]
      rfl
  · -- one step that tells the engine all of it, and gives back the session objects
    have hresume : (do B.client c; B.resume c o : Building σ SessionObjects) =
        (do B.client c; ifSet session fun s => tell (B.session? s) : Building σ Unit) >>=
          fun _ => pure o' := by
      simp only [resume, hcopy, bind_assoc]
    have hstep : OnlyRefuses (do B.client c; ifSet session fun s => tell (B.session? s)) :=
      hclient.bind fun _ => onlyRefuses_ifSet fun _ _ => onlyRefuses_tell _
    rw [hresume, StateT.run_bind]
    rcases hstep.run_cases s with ⟨hrun, hrun?⟩ | ⟨s', hrun, hrun?⟩
    all_goals
      rw [hrun]
      simp only [Engine.builtBy, hrun?]
      rfl

/-- **An engine that is built in steps is built in one piece**, then given a copy of its session and
told what belongs to the connection. -/
theorem build_eq (h : ∀ text ∈ c.engineTexts, isEngineText text = true) (o : SessionObjects) :
    B.build c o =
      match (E.builtBy B).build? c with
      | none => .error (.refused .engine)
      | some s =>
        match Link.copySession? c.session o with
        | none => .error (.refused .engine)
        | some (session, o) =>
          match (E.builtBy B).prepare? c session s with
          | none => .error (.refused .engine)
          | some s => .ok (o, s) := by
  have hbuilt : (E.builtBy B).build? c = B.new?.bind (B.context c).run? := rfl
  rw [hbuilt, build]
  rcases B.new? with _ | s
  · rfl
  rw [Option.bind_some]
  rcases (B.onlyRefuses_context h).run_cases s with ⟨hrun, hrun?⟩ | ⟨s', hrun, hrun?⟩
  · rw [hrun?]
    simp only [StateT.run_bind, hrun]
    rfl
  · rw [hrun?]
    show ((B.context c).run s).bind _ = _
    rw [hrun]
    exact B.client_resume E h o s'

end Builder

namespace Link

variable {σ : Type}

/-- **A start in steps is a start in one piece**, if the texts can be given to the engine. -/
theorem startStepwise_eq (B : Builder σ) (E : Engine σ) {l : Link σ}
    (h : ∀ text ∈ l.connection.config.engineTexts, isEngineText text = true) :
    l.startStepwise B E =
      ((l.start (E.builtBy B)).1.mapError .refused, (l.start (E.builtBy B)).2) := by
  have hattach : (E.builtBy B).attach? = E.attach? := rfl
  rw [startStepwise, start, B.build_eq E h, hattach]
  rcases l.connection.engine with _ | s | _
  · rcases (E.builtBy B).build? l.connection.config with _ | s
    · rfl
    rcases copySession? l.connection.config.session l.objects with _ | ⟨session, objects⟩
    · rfl
    dsimp only
    rcases (E.builtBy B).prepare? l.connection.config session s with _ | s'
    · rfl
    dsimp only
    rcases E.attach? s' with _ | s'' <;> rfl
  · rfl
  · rfl

/-- **Settings start safely.** A setting stops the program exactly if it is of a list that the
engine screens, there is a context to screen it in, and the list has a NUL in it; and no setting
that fails changes the configuration, the program stopped or not. Whatever settings have been made,
with whatever success, no text of the configuration stops the program when a connection starts an
engine with it, and the steps of that start come to the same as a start in one piece, which cannot
be stopped by a text at all. -/
theorem settings_start_safely (sc : Screening) :
    (∀ (s : Setting) (c : Config), ((s.run sc c).1 = .error .aborted ↔ sc.hasContext = true ∧
        ∃ k list, s = EngineList.setting k list ∧ '\x00' ∈ list.toList) ∧
      ((s.run sc c).1 ≠ .ok () → (s.run sc c).2 = c)) ∧
    ∀ {σ : Type} (trials : List Trial) (B : Builder σ) (E : Engine σ) (l : Link σ),
      l.connection.config = Config.initial.afterTrials sc trials →
      (l.startStepwise B E).1 ≠ .error .aborted ∧
        l.startStepwise B E =
          ((l.start (E.builtBy B)).1.mapError .refused, (l.start (E.builtBy B)).2) := by
  refine ⟨fun s c => ⟨s.run_aborted_iff sc c, fun h => ?_⟩, fun trials B E l hconfig => ?_⟩
  · rcases hrun : (s.run sc c).1 with e | ⟨⟩
    · exact Setting.run_stopped hrun
    · exact absurd hrun h
  · have hwell := Config.afterTrials_wellFormed sc trials Config.initial_wellFormed
    rw [← hconfig] at hwell
    have hstart := l.startStepwise_eq B E hwell.engineTexts
    refine ⟨fun haborted => ?_, hstart⟩
    rw [hstart] at haborted
    rcases hone : (l.start (E.builtBy B)).1 with e | ⟨⟩
    · rw [hone] at haborted
      cases haborted
    · rw [hone] at haborted
      cases haborted

/-- A list with a NUL in it stops the program where a name with one is refused; and after both, and
a list that has been set, an engine is started. -/
theorem nul_in_list_stops :
    ((Setting.cipherList "AES128-SHA\x00").run Policy.screening .initial).1 = .error .aborted ∧
      ((Setting.serverName "a\x00").run Policy.screening .initial).1 ≠ .error .aborted ∧
      ((fresh (Config.initial.afterTrials Policy.screening
        [⟨.cipherList "AES128-SHA\x00", true⟩, ⟨.serverName "a\x00", true⟩,
          ⟨.cipherList "AES128-SHA", false⟩, ⟨.cipherList "AES128-SHA", true⟩])
        .default .empty).startStepwise (.willing ()) (.waiting ())).1 ≠ .error .aborted := by
  obtain ⟨hset, hstart⟩ := settings_start_safely Policy.screening
  refine ⟨(hset _ _).1.mpr ⟨rfl, .cipherList, _, rfl, by decide⟩, fun h => ?_,
    (hstart _ _ _ _ rfl).1⟩
  obtain ⟨-, k, list, hk, -⟩ := (hset _ _).1.mp h
  cases k <;> cases hk

end Link

end SocketlessTls
