import SocketlessTls.Policy.Side
import SocketlessTls.Proofs.Config.ProtocolList
import SocketlessTls.Proofs.Config.ServerName

/-!
# Well-formed configurations

An engine is started with a configuration as it stands, and takes for granted what the settings
have checked, one by one and long before. But fields are set by more than one setting, a range of
versions has two, and settings fail on the way. `SocketlessTls.Config.WellFormed` is what the engine
takes for granted. **It holds of every configuration that settings can lead to** from the initial
one: it holds at first, and each setting keeps it, whether it is accepted or not.

The checks that are the engine's are any checks at all, and a context for them may be there or not
whenever a setting is tried. What has passed them is what it says that
has passed them, and no more is said about it; only for the engine of this library they are known,
and then a list that has been set is one that can be read (`Config.WellFormed.lists_read`).

* `SocketlessTls.Config.WellFormed` – the invariant;
* `SocketlessTls.Setting.run_wellFormed` – one setting;
* `SocketlessTls.Config.afterTrials_wellFormed` – any sequence of them;
* `SocketlessTls.Config.settings_well_formed` – the same from the initial configuration.
-/

namespace SocketlessTls

/-- **A well-formed configuration**: what is taken for granted when an engine is started with it. -/
structure Config.WellFormed (sc : Screening) (c : Config) : Prop where
  /-- A range of versions has both ends, and they are in order. -/
  versions : (c.minVersion = none ∧ c.maxVersion = none) ∨
    ∃ min max, c.minVersion = some min ∧ c.maxVersion = some max ∧ min ≤ max
  serverName : ∀ name, c.serverName = some name → ServerName.Carriable name
  /-- The length of each protocol fits into a byte, and is not zero. -/
  alpn : ∀ p ∈ c.alpn, 1 ≤ p.utf8ByteSize ∧ p.utf8ByteSize ≤ 255
  /-- The key of a client certificate is its own. -/
  clientCertificate : ∀ cert key, c.clientCertificate = some (cert, key) →
    ∃ publicKey, sc.publicKey? cert = some publicKey ∧ sc.keysMatch key publicKey = true
  /-- Each list is one that the engine can be given, and has accepted. -/
  cipherList : ∀ list, c.cipherList = some list →
    isEngineText list = true ∧ sc.cipherList list = true
  cipherSuites : ∀ list, c.cipherSuites = some list →
    isEngineText list = true ∧ sc.cipherSuites list = true
  sigalgs : ∀ list, c.sigalgs = some list → isEngineText list = true ∧ sc.sigalgs list = true

/-! ### One setting -/

section Settings

variable {sc : Screening} {c c' : Config}

/-- The initial configuration has nothing set that could be wrong. -/
theorem Config.initial_wellFormed : Config.initial.WellFormed sc where
  versions := Or.inl ⟨rfl, rfl⟩
  serverName := nofun
  alpn := nofun
  clientCertificate := nofun
  cipherList := nofun
  cipherSuites := nofun
  sigalgs := nofun

/-- A client certificate is accepted with a key that belongs to it. -/
theorem Config.WellFormed.withClientCertificate (h : c.WellFormed sc) {cert : X509.Certificate}
    {key : X509.PrivateKey} (ha : c.withClientCertificate sc cert key = .accepted c') :
    c'.WellFormed sc := by
  obtain ⟨hmatch, rfl⟩ := Setting.withClientCertificate_accepted ha
  refine { h with clientCertificate := fun cert' key' hset => ?_ }
  obtain ⟨rfl, rfl⟩ := Prod.mk.inj (Option.some.inj hset)
  exact hmatch

/-- A list that has been set is the one that has been screened. -/
theorem Setting.screened_set {accepts : String → Bool} {list : String} {e : ConfigError}
    (ha : screened sc accepts list e c = .accepted c') :
    (∀ list', some list = some list' → isEngineText list' = true ∧ accepts list' = true) ∧
      c = c' := by
  obtain ⟨hscreened, hc⟩ := screened_accepted ha
  refine ⟨fun list' hset => ?_, hc⟩
  obtain rfl := Option.some.inj hset
  exact hscreened

/-- **A setting that is accepted keeps a configuration well formed.** It has checked what it sets,
and leaves the rest. -/
theorem Setting.apply_wellFormed (h : c.WellFormed sc) {s : Setting}
    (ha : s.apply sc c = .accepted c') : c'.WellFormed sc := by
  cases s with
  | version v =>
    obtain rfl := Applied.accepted.inj ha
    exact { h with versions := Or.inr ⟨v, v, rfl, rfl, Nat.le_refl v.rank⟩ }
  | versionRange min max =>
    obtain ⟨hle, rfl⟩ := checked_accepted ha
    exact { h with versions := Or.inr ⟨min, max, rfl, rfl, hle⟩ }
  | serverName name =>
    obtain ⟨hvalid, rfl⟩ := checked_accepted ha
    refine { h with serverName := fun name' hset => ?_ }
    obtain rfl := Option.some.inj hset
    exact (ServerName.isValid_iff name).mp hvalid
  | cipherList list =>
    obtain ⟨hscreened, rfl⟩ := screened_set ha
    exact { h with cipherList := hscreened }
  | cipherSuites list =>
    obtain ⟨hscreened, rfl⟩ := screened_set ha
    exact { h with cipherSuites := hscreened }
  | sigalgs list =>
    obtain ⟨hscreened, rfl⟩ := screened_set ha
    exact { h with sigalgs := hscreened }
  | alpn protocols =>
    rw [apply] at ha
    rcases hcheck : Alpn.check protocols with _ | e
    · rw [hcheck] at ha
      obtain rfl := Applied.accepted.inj ha
      exact { h with alpn := ((Alpn.check_eq_none_iff protocols).mp hcheck).2 }
    · rw [hcheck] at ha
      cases ha
  | clientCertificate cert key => exact h.withClientCertificate ha
  | clientCertificatePem text =>
    rcases hcert : sc.certificateOfPem? text with _ | cert
    · simp only [apply, hcert] at ha
      cases ha
    rcases hkey : sc.keyOfPem? text with _ | key
    · simp only [apply, hcert, hkey] at ha
      cases ha
    · simp only [apply, hcert, hkey] at ha
      exact h.withClientCertificate ha
  -- the other settings are about other fields
  | verifyModeRaw raw =>
    rw [apply] at ha
    rcases hmode : VerifyMode.ofRaw raw with e | mode
    · rw [hmode] at ha
      cases ha
    · rw [hmode] at ha
      obtain rfl := Applied.accepted.inj ha
      exact { h with }
  | statusType type =>
    obtain ⟨-, rfl⟩ := checked_accepted ha
    exact { h with }
  | _ =>
    obtain rfl := Applied.accepted.inj ha
    exact { h with }

/-- **Every setting keeps a configuration well formed**, whether it is accepted or not. -/
theorem Setting.run_wellFormed (h : c.WellFormed sc) (s : Setting) :
    (s.run sc c).2.WellFormed sc := by
  rw [run_eq]
  rcases ha : s.apply sc c with c' | e | _
  · exact apply_wellFormed h ha
  · exact h
  · exact h

/-- A setting leaves the list of protocols empty exactly if it was, and the setting does not succeed
in setting one. -/
theorem Setting.run_alpn_eq_nil_iff (s : Setting) :
    (s.run sc c).2.alpn = [] ↔
      c.alpn = [] ∧ ∀ protocols, (s.run sc c).1 = .ok () → s ≠ .alpn protocols := by
  by_cases hs : ∃ protocols, s = .alpn protocols
  · obtain ⟨protocols, rfl⟩ := hs
    rcases hrun : ((Setting.alpn protocols).run sc c).1 with e | ⟨⟩
    · rw [run_stopped hrun]
      refine (and_iff_left fun _ hok => ?_).symm
      cases hok
    · obtain ⟨hcheck, hset⟩ := (Alpn.run_alpn_iff sc c protocols).mp hrun
      rw [hset]
      -- an empty list is not accepted
      exact iff_of_false ((Alpn.check_eq_none_iff protocols).mp hcheck).1
        fun h => h.2 protocols rfl rfl
  · have hfield : Config.Field.alpn ∉ s.fields := by
      cases s with
      | alpn protocols => exact absurd ⟨protocols, rfl⟩ hs
      | _ => simp [fields]
    have hsame : (s.run sc c).2.alpn = c.alpn := get_run_of_notMem hfield
    rw [hsame]
    exact (and_iff_left fun protocols _ heq => hs ⟨protocols, heq⟩).symm

end Settings

/-! ### Sequences of trials -/

/-- **Every trial keeps a configuration well formed.** Whether there is a context for it has no part
in that. -/
theorem Trial.run_wellFormed {sc : Screening} {c : Config} (h : c.WellFormed sc) (t : Trial) :
    (t.run sc c).2.WellFormed sc := by
  have hcontext : c.WellFormed { sc with hasContext := t.hasContext } := { h with }
  have hrun : (t.run sc c).2.WellFormed { sc with hasContext := t.hasContext } :=
    Setting.run_wellFormed hcontext t.setting
  exact { hrun with }

namespace Config

variable (sc : Screening)

/-- **Every sequence of trials keeps a configuration well formed**, by induction on it. -/
theorem afterTrials_wellFormed (trials : List Trial) {c : Config} (h : c.WellFormed sc) :
    (c.afterTrials sc trials).WellFormed sc := by
  induction trials generalizing c with
  | nil => exact h
  | cons t trials ih => exact ih (t.run_wellFormed h)

/-- A list of protocols that was empty is so after a sequence of trials exactly if none has been
set. -/
theorem afterTrials_alpn_eq_nil_iff (trials : List Trial) (c : Config) :
    (c.afterTrials sc trials).alpn = [] ↔
      c.alpn = [] ∧ ∀ protocols, .alpn protocols ∉ c.succeeding sc trials := by
  induction trials generalizing c with
  | nil => exact (and_iff_left fun _ => List.not_mem_nil).symm
  | cons t trials ih =>
    show ((t.run sc c).2.afterTrials sc trials).alpn = [] ↔ _
    have hfirst : (t.run sc c).2.alpn = [] ↔
        c.alpn = [] ∧ ∀ protocols, (t.run sc c).1 = .ok () → t.setting ≠ .alpn protocols :=
      t.setting.run_alpn_eq_nil_iff
    rw [ih, hfirst, succeeding, and_assoc]
    refine and_congr_right fun _ => ?_
    -- the first setting is among those that succeed, or it is not
    rcases hrun : (t.run sc c).1 with e | ⟨⟩
    · refine and_iff_right fun _ hok => ?_
      cases hok
    · constructor
      · rintro ⟨hs, hrest⟩ protocols hmem
        rcases List.mem_cons.mp hmem with heq | hmem
        · exact hs protocols rfl heq.symm
        · exact hrest protocols hmem
      · intro hall
        refine ⟨fun protocols _ heq => hall protocols ?_, fun protocols hmem => hall protocols ?_⟩
        · rw [heq]
          exact List.mem_cons_self
        · exact List.mem_cons_of_mem t.setting hmem

/-- **Every configuration that settings lead to is well formed**, whatever the settings, in
whatever order, and whichever of them fail. Its list of protocols is empty only if none has ever
been set, and otherwise the length of each protocol is what its byte says. -/
theorem settings_well_formed (trials : List Trial) :
    (initial.afterTrials sc trials).WellFormed sc ∧
    ((initial.afterTrials sc trials).alpn = [] ↔
      ∀ protocols, .alpn protocols ∉ initial.succeeding sc trials) ∧
    ∀ p ∈ (initial.afterTrials sc trials).alpn,
      (UInt8.ofNat (Bytes.ofString p).length).toNat = (Bytes.ofString p).length := by
  have h := afterTrials_wellFormed sc trials initial_wellFormed
  refine ⟨h, ?_, fun p hp => Alpn.toNat_lengthByte (h.alpn p hp).2⟩
  rw [afterTrials_alpn_eq_nil_iff]
  exact and_iff_right rfl

/-- With the checks of this library, the lists of a well-formed configuration can be read: what is
used in place of a list is used only where none has been set. -/
theorem WellFormed.lists_read {c : Config} (h : c.WellFormed Policy.screening) :
    (∀ list, c.cipherList = some list → (Policy.ClassicList.parse? list).isSome = true) ∧
    (∀ list, c.cipherSuites = some list → (Policy.modernSuites? list).isSome = true) ∧
    ∀ list, c.sigalgs = some list → (Policy.Scheme.ofTextList? list).isSome = true :=
  ⟨fun list hset => (h.cipherList list hset).2, fun list hset => (h.cipherSuites list hset).2,
    fun list hset => (h.sigalgs list hset).2⟩

end Config

end SocketlessTls
