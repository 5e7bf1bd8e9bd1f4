import SocketlessTls.Config.Setter

/-!
# What settings do

A setter is a sequence of steps that can stop anywhere and takes nothing back. None stops after it
has begun to assign, so that it does all of what it is for or nothing; the two settings of
a client certificate, the longest, go through up to four checks first. What it does on success is
said by an account of its fields: each setting has *fields* of its own, and gives each of them one
value. A sequence of trials, some of which fail, then comes down to one field at a time. What
a field holds in the end is made of the values that it has been given, and nothing else.

* `SocketlessTls.Setting.run_eq` – what a setter comes to: it is as if its checks came in one piece
  and its assignments in another;
* `SocketlessTls.Config.Field`, `SocketlessTls.Config.get` – the fields of a configuration;
* `SocketlessTls.Setting.fields`, `SocketlessTls.Setting.entries` – the fields of a setting, and
  the values that it gives them;
* `SocketlessTls.Config.get_afterTrials` – what a field holds after a sequence of trials;
* `SocketlessTls.Config.afterTrials_eq_of_given` – settings of different fields in any order;
* `SocketlessTls.Config.settings_field_by_field` – a setting that fails changes nothing and one
  that succeeds changes fields of its own, so that after any sequence a field holds the last value
  that it has been given, the options are all that have been given, and so are the trusted
  certificates.
-/

namespace SocketlessTls

/-! ### Steps -/

namespace Setter

variable {α β : Type} (c : Config)

/-- **Steps go on from what the steps before have left**, unless these were stopped. -/
theorem on_bind (x : Setter α) (f : α → Setter β) :
    (x >>= f).on c = match x.on c with
      | (.ok a, c') => (f a).on c'
      | (.error e, c') => (.error e, c') := by
  simp only [on, ExceptT.run_bind, StateT.run_bind]
  rcases x.run.run c with ⟨_ | _, c'⟩ <;> rfl

/-- A check that holds lets the steps after it go on, and one that fails stops them. -/
theorem on_check_bind (holds : Bool) (e : ConfigError) (x : Setter Unit) :
    (check holds e >>= fun _ => x).on c =
      if holds then x.on c else (.error (.refused (.configuration e)), c) := by
  rw [on_bind]
  cases holds <;> rfl

end Setter

/-! ### Settings -/

/-- How a setter ends, and what it leaves, according to what becomes of its setting. -/
def Applied.outcome (c : Config) : Applied → Except Halted Unit × Config
  | .accepted c' => (.ok (), c')
  | .refused e => (.error (.refused e), c)
  | .aborted => (.error .aborted, c)

namespace Setter

variable (c : Config)

/-- An assignment after a check. -/
theorem on_check_assign (holds : Bool) (e : ConfigError) (f : Config → Config) :
    (check holds e >>= fun _ => assign f).on c =
      (if holds then .accepted (f c) else .invalid e : Applied).outcome c := by
  rw [on_check_bind]
  cases holds <;> rfl

/-- An assignment after a list has been screened. -/
theorem on_screen_assign (sc : Screening) (accepts : String → Bool) (list : String)
    (e : ConfigError) (f : Config → Config) :
    (screen sc accepts list e >>= fun _ => assign f).on c =
      (screened sc accepts list e (f c)).outcome c := by
  rcases hc : sc.hasContext with _ | _
  · simp only [screen, screened, hc]
    rfl
  rcases hn : isEngineText list with _ | _
  · simp only [screen, screened, hc, hn]
    rfl
  · simp only [screen, screened, hc, hn, if_true]
    exact on_check_assign c _ e f

theorem on_clientCertificate (sc : Screening) (cert : X509.Certificate) (key : X509.PrivateKey) :
    (clientCertificate sc cert key).on c = (c.withClientCertificate sc cert key).outcome c := by
  rcases hk : sc.publicKey? cert with _ | publicKey
  · simp only [clientCertificate, Config.withClientCertificate, hk]
    rfl
  · simp only [clientCertificate, Config.withClientCertificate, hk]
    exact on_check_assign c _ _ _

end Setter

/-- **What a setter comes to.** It goes through to its end and leaves the configuration in which the
setting has been made, or it stops and leaves the configuration that it found: no check comes after
an assignment. -/
theorem Setting.run_eq (sc : Screening) (s : Setting) (c : Config) :
    s.run sc c = (s.apply sc c).outcome c := by
  cases s with
  | versionRange min max =>
    simp only [run, setter, apply, Setter.on_check_bind, decide_eq_true_eq]
    by_cases h : min ≤ max
    · rw [if_pos h, if_pos h]
      rfl
    · rw [if_neg h, if_neg h]
      rfl
  | verifyModeRaw raw =>
    simp only [run, setter, apply]
    rcases VerifyMode.ofRaw raw with e | mode <;> rfl
  | serverName name => exact Setter.on_check_assign c _ _ _
  | cipherList list => exact Setter.on_screen_assign c sc _ _ _ _
  | cipherSuites list => exact Setter.on_screen_assign c sc _ _ _ _
  | sigalgs list => exact Setter.on_screen_assign c sc _ _ _ _
  | statusType type =>
    simp only [run, setter, apply, Setter.on_check_bind, decide_eq_true_eq]
    by_cases h : type = statusTypeOcsp
    · rw [if_pos h, if_pos h]
      rfl
    · rw [if_neg h, if_neg h]
      rfl
  | alpn protocols =>
    simp only [run, setter, apply]
    rcases Alpn.check protocols with _ | e <;> rfl
  | clientCertificate cert key => exact Setter.on_clientCertificate c sc cert key
  | clientCertificatePem text =>
    simp only [run, setter, apply]
    rcases sc.certificateOfPem? text with _ | cert
    · rfl
    rcases sc.keyOfPem? text with _ | key
    · rfl
    · exact Setter.on_clientCertificate c sc cert key
  | _ => rfl

/-! ### Fields -/

namespace Config

/-- The fields of a configuration. -/
inductive Field where
  | minVersion
  | maxVersion
  | verifyMode
  | serverName
  | cipherList
  | cipherSuites
  | sigalgs
  | options
  | session
  | requestOcsp
  | alpn
  | trusted
  | clientCertificate
  | reportCertificateRequest
  | captureMode
  deriving Repr, DecidableEq

/-- What a field holds. -/
def Field.Value : Field → Type
  | minVersion | maxVersion => Option Version
  | verifyMode => VerifyMode
  | serverName | cipherList | cipherSuites | sigalgs => Option String
  | options => Options
  | session => Option Session
  | requestOcsp | reportCertificateRequest => Bool
  | alpn => List String
  | trusted => List X509.Certificate
  | clientCertificate => Option (X509.Certificate × X509.PrivateKey)
  | captureMode => CaptureMode

/-- What a configuration holds in a field. -/
def get (c : Config) : (f : Field) → f.Value
  | .minVersion => c.minVersion
  | .maxVersion => c.maxVersion
  | .verifyMode => c.verifyMode
  | .serverName => c.serverName
  | .cipherList => c.cipherList
  | .cipherSuites => c.cipherSuites
  | .sigalgs => c.sigalgs
  | .options => c.options
  | .session => c.session
  | .requestOcsp => c.requestOcsp
  | .alpn => c.alpn
  | .trusted => c.trusted
  | .clientCertificate => c.clientCertificate
  | .reportCertificateRequest => c.reportCertificateRequest
  | .captureMode => c.captureMode

/-- A configuration is what it holds in its fields. -/
theorem eq_of_get {c d : Config} (h : ∀ f, c.get f = d.get f) : c = d := by
  obtain ⟨_, _, _, _, _, _, _, _, _, _, _, _, _, _, _⟩ := c
  obtain ⟨_, _, _, _, _, _, _, _, _, _, _, _, _, _, _⟩ := d
  rw [Config.mk.injEq]
  exact ⟨h .minVersion, h .maxVersion, h .verifyMode, h .serverName, h .cipherList,
    h .cipherSuites, h .sigalgs, h .options, h .session, h .requestOcsp, h .alpn, h .trusted,
    h .clientCertificate, h .reportCertificateRequest, h .captureMode⟩

/-- What a field holds once it has been given a value: options and trusted certificates are added to
those that are there, and any other value takes the place of the one before. -/
def Field.update : (f : Field) → f.Value → f.Value → f.Value
  | options => Options.union
  | trusted => List.append
  | _ => fun _ new => new

/-- A value for a field. -/
structure Entry where
  field : Field
  value : field.Value

/-- The value for a given field, if the entry is for that field. -/
def Entry.valueFor? (e : Entry) (f : Field) : Option f.Value :=
  if h : e.field = f then some (h ▸ e.value) else none

/-- The configuration in which a field has been given a value. -/
def enter (c : Config) : Entry → Config
  | ⟨.minVersion, v⟩ => { c with minVersion := v }
  | ⟨.maxVersion, v⟩ => { c with maxVersion := v }
  | ⟨.verifyMode, v⟩ => { c with verifyMode := v }
  | ⟨.serverName, v⟩ => { c with serverName := v }
  | ⟨.cipherList, v⟩ => { c with cipherList := v }
  | ⟨.cipherSuites, v⟩ => { c with cipherSuites := v }
  | ⟨.sigalgs, v⟩ => { c with sigalgs := v }
  | ⟨.options, v⟩ => { c with options := c.options.union v }
  | ⟨.session, v⟩ => { c with session := v }
  | ⟨.requestOcsp, v⟩ => { c with requestOcsp := v }
  | ⟨.alpn, v⟩ => { c with alpn := v }
  | ⟨.trusted, v⟩ => { c with trusted := c.trusted.append v }
  | ⟨.clientCertificate, v⟩ => { c with clientCertificate := v }
  | ⟨.reportCertificateRequest, v⟩ => { c with reportCertificateRequest := v }
  | ⟨.captureMode, v⟩ => { c with captureMode := v }

/-- **An entry is read back from its field, and from no other.** -/
theorem get_enter (c : Config) (e : Entry) (f : Field) :
    (c.enter e).get f = (e.valueFor? f).toList.foldl f.update (c.get f) := by
  obtain ⟨field, value⟩ := e
  by_cases h : field = f
  · subst h
    rw [Entry.valueFor?, dif_pos rfl]
    cases field <;> rfl
  -- of two different fields, one is not touched by an entry for the other
  · rw [Entry.valueFor?, dif_neg h]
    cases field <;> cases f <;> first | rfl | exact absurd rfl h

/-- **After any entries, a field has been given the values that are for it**, in their order. -/
theorem get_foldl_enter (f : Field) : ∀ (es : List Entry) (c : Config),
    (es.foldl enter c).get f = (es.filterMap (·.valueFor? f)).foldl f.update (c.get f)
  | [], _ => rfl
  | e :: es, c => by
    rw [List.foldl_cons, get_foldl_enter f es, get_enter]
    rcases h : e.valueFor? f with _ | v
    all_goals
      simp only [List.filterMap_cons, h]
      rfl

end Config

/-! ### What a setting gives -/

namespace Setting

open Config (Field Entry)

/-- The fields of a setting. -/
def fields : Setting → List Field
  | version _ | versionRange _ _ => [.minVersion, .maxVersion]
  | verifyMode _ | verifyModeRaw _ => [.verifyMode]
  | serverName _ => [.serverName]
  | cipherList _ => [.cipherList]
  | cipherSuites _ => [.cipherSuites]
  | sigalgs _ => [.sigalgs]
  | options _ | disableTickets => [.options]
  | session _ => [.session]
  | statusType _ | requestOcsp => [.requestOcsp]
  | alpn _ => [.alpn]
  | trust _ => [.trusted]
  | clientCertificate _ _ | clientCertificatePem _ => [.clientCertificate]
  | reportCertificateRequest _ => [.reportCertificateRequest]
  | captureMode _ => [.captureMode]

/-- What a setting gives if it is accepted; armoured text gives what is read from it. -/
def entries (sc : Screening) : Setting → List Entry
  | version v => [⟨.minVersion, some v⟩, ⟨.maxVersion, some v⟩]
  | versionRange min max => [⟨.minVersion, some min⟩, ⟨.maxVersion, some max⟩]
  | verifyMode mode => [⟨.verifyMode, mode⟩]
  | verifyModeRaw raw => (VerifyMode.ofRaw? raw).toList.map fun mode => ⟨.verifyMode, mode⟩
  | serverName name => [⟨.serverName, some name⟩]
  | cipherList list => [⟨.cipherList, some list⟩]
  | cipherSuites list => [⟨.cipherSuites, some list⟩]
  | sigalgs list => [⟨.sigalgs, some list⟩]
  | options o => [⟨.options, o⟩]
  | disableTickets => [⟨.options, Options.noTicket⟩]
  | session s => [⟨.session, some s⟩]
  | statusType _ | requestOcsp => [⟨.requestOcsp, true⟩]
  | alpn protocols => [⟨.alpn, protocols⟩]
  | trust cert => [⟨.trusted, [cert]⟩]
  | clientCertificate cert key => [⟨.clientCertificate, some (cert, key)⟩]
  | clientCertificatePem text =>
    (sc.certificateOfPem? text).toList.flatMap fun cert =>
      (sc.keyOfPem? text).toList.map fun key => ⟨.clientCertificate, some (cert, key)⟩
  | reportCertificateRequest on => [⟨.reportCertificateRequest, on⟩]
  | captureMode mode => [⟨.captureMode, mode⟩]

/-- What is accepted after a check is what would be without it, and the check holds. -/
theorem checked_accepted {p : Prop} [Decidable p] {e : ConfigError} {c c' : Config}
    (h : (if p then .accepted c else .invalid e : Applied) = .accepted c') : p ∧ c = c' := by
  split at h
  · exact ⟨‹p›, Applied.accepted.inj h⟩
  · cases h

theorem screened_accepted {sc : Screening} {accepts : String → Bool} {list : String}
    {e : ConfigError} {c c' : Config} (h : screened sc accepts list e c = .accepted c') :
    (isEngineText list = true ∧ accepts list = true) ∧ c = c' := by
  unfold screened at h
  rcases hcontext : sc.hasContext with _ | _
  · rw [hcontext] at h
    cases h
  rw [hcontext] at h
  rcases ht : isEngineText list with _ | _
  · rw [ht] at h
    cases h
  · rw [ht] at h
    obtain ⟨hacc, hc⟩ := checked_accepted h
    exact ⟨⟨rfl, hacc⟩, hc⟩

theorem withClientCertificate_accepted {sc : Screening} {c c' : Config} {cert : X509.Certificate}
    {key : X509.PrivateKey} (h : c.withClientCertificate sc cert key = .accepted c') :
    (∃ publicKey, sc.publicKey? cert = some publicKey ∧ sc.keysMatch key publicKey = true) ∧
      { c with clientCertificate := some (cert, key) } = c' := by
  unfold Config.withClientCertificate at h
  rcases hk : sc.publicKey? cert with _ | publicKey
  · rw [hk] at h
    cases h
  · rw [hk] at h
    obtain ⟨hmatch, hc⟩ := checked_accepted h
    exact ⟨⟨publicKey, rfl, hmatch⟩, hc⟩

/-- **An accepted setting gives each of its fields one value**, and does no more than that. -/
theorem apply_accepted {sc : Screening} {s : Setting} {c c' : Config}
    (h : s.apply sc c = .accepted c') :
    (s.entries sc).map (·.field) = s.fields ∧ (s.entries sc).foldl Config.enter c = c' := by
  cases s with
  -- what is checked is accepted as it would be without the check
  | versionRange min max => exact ⟨rfl, (checked_accepted h).2⟩
  -- what is read from a number or from armoured text is given only if it can be read
  | verifyModeRaw raw =>
    rcases hm : VerifyMode.ofRaw? raw with _ | mode
    · simp only [apply, VerifyMode.ofRaw, hm] at h
      cases h
    · simp only [apply, VerifyMode.ofRaw, hm] at h
      rw [entries, hm]
      exact ⟨rfl, Applied.accepted.inj h⟩
  | serverName name => exact ⟨rfl, (checked_accepted h).2⟩
  | cipherList list => exact ⟨rfl, (screened_accepted h).2⟩
  | cipherSuites list => exact ⟨rfl, (screened_accepted h).2⟩
  | sigalgs list => exact ⟨rfl, (screened_accepted h).2⟩
  | statusType type => exact ⟨rfl, (checked_accepted h).2⟩
  | alpn protocols =>
    rw [apply] at h
    split at h
    · cases h
    · exact ⟨rfl, Applied.accepted.inj h⟩
  | clientCertificate cert key => exact ⟨rfl, (withClientCertificate_accepted h).2⟩
  | clientCertificatePem text =>
    rcases hc : sc.certificateOfPem? text with _ | cert
    · simp only [apply, hc] at h
      cases h
    rcases hk : sc.keyOfPem? text with _ | key
    · simp only [apply, hc, hk] at h
      cases h
    · simp only [apply, hc, hk] at h
      rw [entries, hc, hk]
      exact ⟨rfl, (withClientCertificate_accepted h).2⟩
  | _ => exact ⟨rfl, Applied.accepted.inj h⟩

variable {sc : Screening} {s : Setting} {c : Config}

/-- **A setter that stops leaves every field as it was.** -/
theorem run_stopped {e : Halted} (h : (s.run sc c).1 = .error e) : (s.run sc c).2 = c := by
  rw [run_eq] at h ⊢
  rcases ha : s.apply sc c with c' | _ | _
  · rw [ha] at h
    cases h
  · rfl
  · rfl

/-- A setter that goes through to its end gives each field of its setting one value, and does no
more than that. -/
theorem run_through (h : (s.run sc c).1 = .ok ()) :
    (s.entries sc).map (·.field) = s.fields ∧
      (s.run sc c).2 = (s.entries sc).foldl Config.enter c := by
  rw [run_eq] at h ⊢
  rcases ha : s.apply sc c with c' | e | _
  · obtain ⟨hf, hc⟩ := apply_accepted ha
    exact ⟨hf, hc.symm⟩
  · rw [ha] at h
    cases h
  · rw [ha] at h
    cases h

/-- **A setting leaves every field alone that is not its own.** -/
theorem get_run_of_notMem {f : Field} (hf : f ∉ s.fields) : (s.run sc c).2.get f = c.get f := by
  rcases h : (s.run sc c).1 with e | ⟨⟩
  · rw [run_stopped h]
  · obtain ⟨hfields, hc⟩ := run_through h
    have none_for : (s.entries sc).filterMap (·.valueFor? f) = [] := by
      rw [List.filterMap_eq_nil_iff]
      intro e he
      refine dif_neg fun hef => hf ?_
      rw [← hef, ← hfields]
      exact List.mem_map_of_mem he
    rw [hc, Config.get_foldl_enter, none_for]
    rfl

end Setting

/-! ### Sequences of trials -/

namespace Config

variable (sc : Screening)

/-- The settings of a sequence of trials whose setters go through to their ends, each on the
configuration that those before it have left. -/
def succeeding (c : Config) : List Trial → List Setting
  | [] => []
  | t :: rest =>
    if (t.run sc c).1.isOk then t.setting :: succeeding (t.run sc c).2 rest
    else succeeding (t.run sc c).2 rest

/-- The values that the succeeding settings of a sequence give a field, in their order. -/
def given (c : Config) (trials : List Trial) (f : Field) : List f.Value :=
  ((c.succeeding sc trials).flatMap (·.entries sc)).filterMap (·.valueFor? f)

/-- A sequence of trials does what its succeeding settings give, and no more than that. -/
theorem afterTrials_eq : ∀ (trials : List Trial) (c : Config),
    c.afterTrials sc trials = ((c.succeeding sc trials).flatMap (·.entries sc)).foldl enter c
  | [], _ => rfl
  | t :: rest, c => by
    have ih := afterTrials_eq rest (t.run sc c).2
    rw [afterTrials] at ih ⊢
    rw [List.foldl_cons, ih, succeeding]
    rcases h : (t.run sc c).1 with e | ⟨⟩
    · have hsame : (t.run sc c).2 = c := Setting.run_stopped h
      rw [hsame]
      rfl
    · have hdone : (t.run sc c).2 = (t.setting.entries sc).foldl enter c :=
        (Setting.run_through h).2
      show _ = ((t.setting :: _).flatMap _).foldl enter c
      rw [List.flatMap_cons, List.foldl_append, ← hdone]

/-- **What a field holds after a sequence of trials** is made from what it held before and the
values that it has been given. -/
theorem get_afterTrials (trials : List Trial) (c : Config) (f : Field) :
    (c.afterTrials sc trials).get f = (c.given sc trials f).foldl f.update (c.get f) := by
  rw [afterTrials_eq, get_foldl_enter]
  rfl

/-- **Only the values that each field is given matter**, and their order in each: settings of one
field may be made before or after those of another. -/
theorem afterTrials_eq_of_given {c : Config} {trials trials' : List Trial}
    (h : ∀ f, c.given sc trials f = c.given sc trials' f) :
    c.afterTrials sc trials = c.afterTrials sc trials' :=
  eq_of_get fun f => by rw [get_afterTrials, get_afterTrials, h]

/-- Of values each of which takes the place of the one before, the last remains. -/
theorem foldl_replace {α : Type} : ∀ (values : List α) (a : α),
    values.foldl (fun _ new => new) a = values.getLastD a
  | [], _ => rfl
  | b :: values, a => by
    rw [List.foldl_cons, foldl_replace values b, List.getLastD_cons]

/-- A bit is set in a union of options if it is set in any of them. -/
theorem testBit_foldl_union (i : Nat) : ∀ (values : List Options) (o : Options),
    (values.foldl Options.union o).bits.toNat.testBit i =
      (o.bits.toNat.testBit i || values.any (·.bits.toNat.testBit i))
  | [], o => (Bool.or_false _).symm
  | v :: values, o => by
    rw [List.foldl_cons, testBit_foldl_union i values, Options.union, UInt64.toNat_or,
      Nat.testBit_or, List.any_cons, Bool.or_assoc]

/-- **Settings do all or nothing, and each its own.** A setting that fails leaves every field as it
was, and one that succeeds gives each of its fields one value and leaves the others. So after any
sequence of trials, failing and succeeding ones in any order, each field but two holds the last
value that a succeeding setting has given it, or what it held at first if there is none; an option
is set if it was set or has been given, whether it has a name or not; and the trusted certificates
are those there were and then those that have been given. -/
theorem settings_field_by_field :
    (∀ (s : Setting) (c : Config),
      (∀ e, (s.run sc c).1 = .error e → ∀ f, (s.run sc c).2.get f = c.get f) ∧
      ((s.run sc c).1 = .ok () → (s.entries sc).map (·.field) = s.fields) ∧
      ∀ f ∉ s.fields, (s.run sc c).2.get f = c.get f) ∧
    ∀ (c : Config) (trials : List Trial),
      (∀ f, f ≠ .options → f ≠ .trusted →
        (c.afterTrials sc trials).get f = (c.given sc trials f).getLastD (c.get f)) ∧
      (∀ i, (c.afterTrials sc trials).options.bits.toNat.testBit i =
        (c.options.bits.toNat.testBit i ||
          (c.given sc trials .options).any fun o : Options => o.bits.toNat.testBit i)) ∧
      (c.afterTrials sc trials).trusted = c.trusted ++ (c.given sc trials .trusted).flatten := by
  refine ⟨fun s c => ⟨fun e h f => by rw [Setting.run_stopped h],
    fun h => (Setting.run_through h).1, fun f => Setting.get_run_of_notMem⟩,
    fun c trials => ⟨fun f ho ht => ?_, fun i => ?_, ?_⟩⟩
  -- the options and the trusted certificates are the only fields that gather values
  · have replaced : f.update = fun _ new => new := by
      cases f <;> first | rfl | exact absurd rfl ho | exact absurd rfl ht
    rw [get_afterTrials, replaced, foldl_replace]
  · exact (congrArg (fun o : Options => o.bits.toNat.testBit i)
      (get_afterTrials sc trials c .options)).trans (testBit_foldl_union i _ _)
  · refine (get_afterTrials sc trials c .trusted).trans ?_
    refine (@List.foldl_append_eq_append _ _ (c.given sc trials .trusted) id c.trusted).trans ?_
    exact congrArg (fun certs => c.trusted ++ certs.flatten) (List.map_id _)

end Config

end SocketlessTls
