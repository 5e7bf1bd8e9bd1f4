import Mathlib.Tactic.SplitIfs
import SocketlessTls.Poll

/-!
# What the outcome of an engine call is taken for

The rules by which an outcome is classified stand in an order, and the order matters: a closed peer
goes before a released transport, and that goes before everything an engine may be waiting for. With
two rules swapped, a call that should be tried again ends the connection, or the other way round.

`SocketlessTls.EngineFailure.ComesTo` says the same with no order. Each of its rules names all of
the failures it is for, so that no two of them are for the same one, and it is **exactly what the
classification comes to** (`SocketlessTls.EngineFailure.comesTo_iff`). What holds of it can be read
off rule by rule.

* `SocketlessTls.ResultCode.known` – the result codes that mean something;
* `SocketlessTls.classify_map` – the value of a call is passed on and not looked at;
* `SocketlessTls.EngineFailure.comesTo_internal_iff` and its like – the failures an answer is for;
* `SocketlessTls.Classification` – all that is said of the classification;
* `SocketlessTls.outcomes_classified` – it holds of every outcome there can be.
-/

namespace SocketlessTls

/-- **The result codes that mean something.** -/
def ResultCode.known : List Int32 :=
  [protocol, wantRead, wantWrite, wantCertificate, transport, closed]

/-! ### Failures, rule by rule -/

namespace EngineFailure

variable {α : Type} {f : EngineFailure}

/-- **What a failure comes to**, over a transport that is there or has been released. -/
inductive ComesTo (f : EngineFailure) : TransportStatus → PollResult α → Prop
  | closed {t : TransportStatus} (h : f.code = ResultCode.closed) : ComesTo f t (.ok .peerClosed)
  | released (h : f.code ≠ ResultCode.closed) :
      ComesTo f .released (.error (f.fatal .transportClosed))
  | wantRead (h : f.code = ResultCode.wantRead) : ComesTo f .live (.ok (.wouldBlock .read))
  | wantWrite (h : f.code = ResultCode.wantWrite) : ComesTo f .live (.ok (.wouldBlock .write))
  | wantCertificate (h : f.code = ResultCode.wantCertificate) :
      ComesTo f .live (.error (.clientCertificateRequested []))
  | io {kind : IoKind} (h : f.code = ResultCode.transport) (hk : f.ioKind = some kind) :
      ComesTo f .live (.error (f.fatal (.io kind)))
  | unexpectedEof (h : f.code = ResultCode.transport) (hk : f.ioKind = none) :
      ComesTo f .live (.error (f.fatal .unexpectedEof))
  | protocol (h : f.code = ResultCode.protocol) : ComesTo f .live (.error (f.fatal .protocol))
  | internal (h : f.code ∉ ResultCode.known) :
      ComesTo f .live (.error (f.fatal (.internal f.code)))

/-- Some rule is for the failure, and it says what the classification says. -/
theorem comesTo_classify (f : EngineFailure) (t : TransportStatus) :
    f.ComesTo t (classify (.failed f : RawOutcome α) t) := by
  rw [classify]
  split_ifs with hclosed hgone hread hwrite hcertificate htransport hprotocol
  · exact .closed hclosed
  · rw [hgone]
    exact .released hclosed
  all_goals
    obtain rfl : t = .live := by
      cases t with
      | live => rfl
      | released => exact absurd rfl hgone
  · exact .wantRead hread
  · exact .wantWrite hwrite
  · exact .wantCertificate hcertificate
  · rcases hk : f.ioKind with _ | kind
    · exact .unexpectedEof htransport hk
    · exact .io htransport hk
  · exact .protocol hprotocol
  · refine .internal fun hknown => ?_
    simp only [ResultCode.known, List.mem_cons, List.not_mem_nil, or_false] at hknown
    rcases hknown with h | h | h | h | h | h
    · exact hprotocol h
    · exact hread h
    · exact hwrite h
    · exact hcertificate h
    · exact htransport h
    · exact hclosed h

/-- **A failure is classified as the rules say**, in whatever order they are tried. -/
theorem ComesTo.classify_eq {t : TransportStatus} {r : PollResult α} (h : f.ComesTo t r) :
    classify (.failed f) t = r := by
  cases h with
  | closed h => rw [classify, if_pos h]
  | released h => rw [classify, if_neg h, if_pos rfl]
  -- the codes are different numbers, so that no other rule comes before
  | wantRead h => simp only [classify, h]; rfl
  | wantWrite h => simp only [classify, h]; rfl
  | wantCertificate h => simp only [classify, h]; rfl
  | io h hk => simp only [classify, h, hk]; rfl
  | unexpectedEof h hk => simp only [classify, h, hk]; rfl
  | protocol h => simp only [classify, h]; rfl
  | internal h =>
    simp only [ResultCode.known, List.mem_cons, List.not_mem_nil, or_false, not_or] at h
    obtain ⟨hprotocol, hread, hwrite, hcertificate, htransport, hclosed⟩ := h
    rw [classify, if_neg hclosed, if_neg nofun, if_neg hread, if_neg hwrite,
      if_neg hcertificate, if_neg htransport, if_neg hprotocol]

/-- **The rules are what the classification comes to.** -/
theorem comesTo_iff {t : TransportStatus} {r : PollResult α} :
    f.ComesTo t r ↔ classify (.failed f) t = r :=
  ⟨ComesTo.classify_eq, fun h => h ▸ comesTo_classify f t⟩

/-- **A fatal error has the report of the failure**, whichever rule it comes from. -/
theorem ComesTo.diagnostics {t : TransportStatus} {cause : FatalError}
    (h : f.ComesTo (α := α) t (.error (.fatal cause))) : cause.diagnostics = f.diagnostics := by
  cases h <;> rfl

/-- No rule takes a failure for a success. -/
theorem ComesTo.ne_ready {t : TransportStatus} {a : α} : ¬f.ComesTo t (.ok (.ready a)) := nofun

/-- With the transport gone, the engine waits for nothing. -/
theorem ComesTo.ne_wouldBlock {d : Direction} :
    ¬f.ComesTo (α := α) .released (.ok (.wouldBlock d)) := nofun

/-- With the transport gone, no certificate is asked for. -/
theorem ComesTo.ne_clientCertificateRequested {issuers : List String} :
    ¬f.ComesTo (α := α) .released (.error (.clientCertificateRequested issuers)) := nofun

/-! ### Answers, and the failures they are for -/

section Answers

variable {diagnostics : List Diagnostic}

theorem comesTo_peerClosed_iff {t : TransportStatus} :
    f.ComesTo (α := α) t (.ok .peerClosed) ↔ f.code = ResultCode.closed := by
  refine ⟨fun h => ?_, .closed⟩
  cases h
  assumption

theorem comesTo_wantRead_iff :
    f.ComesTo (α := α) .live (.ok (.wouldBlock .read)) ↔ f.code = ResultCode.wantRead := by
  refine ⟨fun h => ?_, .wantRead⟩
  cases h
  assumption

theorem comesTo_wantWrite_iff :
    f.ComesTo (α := α) .live (.ok (.wouldBlock .write)) ↔ f.code = ResultCode.wantWrite := by
  refine ⟨fun h => ?_, .wantWrite⟩
  cases h
  assumption

/-- Who may issue the certificate is not known to the engine call. -/
theorem comesTo_clientCertificateRequested_iff {issuers : List String} :
    f.ComesTo (α := α) .live (.error (.clientCertificateRequested issuers)) ↔
      issuers = [] ∧ f.code = ResultCode.wantCertificate := by
  constructor
  · intro h
    cases h with
    | wantCertificate h => exact ⟨rfl, h⟩
  · rintro ⟨rfl, h⟩
    exact .wantCertificate h

theorem comesTo_io_iff {kind : IoKind} :
    f.ComesTo (α := α) .live (.error (.fatal ⟨.io kind, diagnostics⟩)) ↔
      f = ⟨ResultCode.transport, some kind, diagnostics⟩ := by
  constructor
  · obtain ⟨code, ioKind, report⟩ := f
    intro h
    cases h with
    | io h hk =>
      obtain rfl : code = ResultCode.transport := h
      obtain rfl : ioKind = some kind := hk
      rfl
  · rintro rfl
    exact .io rfl rfl

theorem comesTo_unexpectedEof_iff :
    f.ComesTo (α := α) .live (.error (.fatal ⟨.unexpectedEof, diagnostics⟩)) ↔
      f = ⟨ResultCode.transport, none, diagnostics⟩ := by
  constructor
  · obtain ⟨code, ioKind, report⟩ := f
    intro h
    cases h with
    | unexpectedEof h hk =>
      obtain rfl : code = ResultCode.transport := h
      obtain rfl : ioKind = none := hk
      rfl
  · rintro rfl
    exact .unexpectedEof rfl rfl

/-- The kind of a transport error is not looked at where the error is one of the protocol. -/
theorem comesTo_protocol_iff :
    f.ComesTo (α := α) .live (.error (.fatal ⟨.protocol, diagnostics⟩)) ↔
      ∃ kind, f = ⟨ResultCode.protocol, kind, diagnostics⟩ := by
  constructor
  · obtain ⟨code, ioKind, report⟩ := f
    intro h
    cases h with
    | protocol h =>
      obtain rfl : code = ResultCode.protocol := h
      exact ⟨ioKind, rfl⟩
  · rintro ⟨kind, rfl⟩
    exact .protocol rfl

theorem comesTo_internal_iff {code : Int32} :
    f.ComesTo (α := α) .live (.error (.fatal ⟨.internal code, diagnostics⟩)) ↔
      code ∉ ResultCode.known ∧ ∃ kind, f = ⟨code, kind, diagnostics⟩ := by
  constructor
  · obtain ⟨code', ioKind, report⟩ := f
    intro h
    cases h with
    | internal h => exact ⟨h, ioKind, rfl⟩
  · rintro ⟨h, kind, rfl⟩
    exact .internal h

end Answers

end EngineFailure

/-! ### Values -/

section Values

variable {α β : Type}

/-- **The value of a call is passed on**: changing it first and classifying then is the same as the
other way round. -/
theorem classify_map (g : α → β) (raw : RawOutcome α) (t : TransportStatus) :
    classify (raw.map g) t = (classify raw t).map (Poll.map g) := by
  rcases raw with a | f
  · rfl
  · refine EngineFailure.comesTo_iff.mp ?_
    -- the rules do not depend on what kind of value there would have been
    have h := EngineFailure.comesTo_classify (α := α) f t
    generalize classify (.failed f : RawOutcome α) t = r at h
    cases h with
    | closed h => exact .closed h
    | released h => exact .released h
    | wantRead h => exact .wantRead h
    | wantWrite h => exact .wantWrite h
    | wantCertificate h => exact .wantCertificate h
    | io h hk => exact .io h hk
    | unexpectedEof h hk => exact .unexpectedEof h hk
    | protocol h => exact .protocol h
    | internal h => exact .internal h

/-- **What is ready is what the call was done with**, over any transport. -/
theorem classify_eq_ready_iff {raw : RawOutcome α} {t : TransportStatus} {a : α} :
    classify raw t = .ok (.ready a) ↔ raw = .done a := by
  rcases raw with b | f
  · constructor
    · intro h
      obtain rfl := Poll.ready.inj (Except.ok.inj h)
      rfl
    · intro h
      obtain rfl := RawOutcome.done.inj h
      rfl
  · refine iff_of_false (fun h => ?_) nofun
    exact EngineFailure.ComesTo.ne_ready (EngineFailure.comesTo_iff.mpr h)

/-- **What is not ready has failed**, by one of the rules. -/
theorem classify_eq_iff_of_not_ready {raw : RawOutcome α} {t : TransportStatus}
    {r : PollResult α} (hr : ∀ a, r ≠ .ok (.ready a)) :
    classify raw t = r ↔ ∃ f, raw = .failed f ∧ f.ComesTo t r := by
  rcases raw with a | f
  · exact iff_of_false (fun h => hr a h.symm) fun ⟨f, h, _⟩ => nomatch h
  · rw [← EngineFailure.comesTo_iff]
    exact ⟨fun h => ⟨f, rfl, h⟩, fun ⟨f', h', h⟩ => RawOutcome.failed.inj h' ▸ h⟩

end Values

/-! ### All outcomes -/

/-- **What is said of the classification** of all outcomes of calls with values of some kind. -/
structure Classification (α : Type) : Prop where
  /-- The value is not looked at. -/
  map : ∀ {β : Type} (g : α → β) (raw : RawOutcome α) (t : TransportStatus),
    classify (raw.map g) t = (classify raw t).map (Poll.map g)
  /-- It is neither made up nor lost nor changed. -/
  ready : ∀ (raw : RawOutcome α) t a, classify raw t = .ok (.ready a) ↔ raw = .done a
  /-- A released transport makes no difference to a success, -/
  done : ∀ a : α, classify (.done a) .released = classify (.done a) .live
  /-- nor to a peer that has closed in order; -/
  closed : ∀ f : EngineFailure, f.code = ResultCode.closed → ∀ t,
    classify (.failed f : RawOutcome α) t = .ok .peerClosed
  /-- any other failure is then that of the transport, whatever it would have been; -/
  released : ∀ f : EngineFailure, f.code ≠ ResultCode.closed →
    classify (.failed f : RawOutcome α) .released =
      .error (.fatal ⟨.transportClosed, f.diagnostics⟩)
  /-- so that there is nothing to wait for, -/
  waits : ∀ (raw : RawOutcome α) d, classify raw .released ≠ .ok (.wouldBlock d)
  /-- no certificate is asked for, -/
  asks : ∀ (raw : RawOutcome α) issuers,
    classify raw .released ≠ .error (.clientCertificateRequested issuers)
  /-- and what would have been fatal still is. -/
  staysFatal : ∀ (raw : RawOutcome α) cause, classify raw .live = .error (.fatal cause) →
    classify raw .released = .error (.fatal ⟨.transportClosed, cause.diagnostics⟩)
  /-- Over a transport that is there, each code has an answer of its own. -/
  peerClosed : ∀ raw : RawOutcome α, classify raw .live = .ok .peerClosed ↔
    ∃ f, raw = .failed f ∧ f.code = 6
  wantRead : ∀ raw : RawOutcome α, classify raw .live = .ok (.wouldBlock .read) ↔
    ∃ f, raw = .failed f ∧ f.code = 2
  wantWrite : ∀ raw : RawOutcome α, classify raw .live = .ok (.wouldBlock .write) ↔
    ∃ f, raw = .failed f ∧ f.code = 3
  wantCertificate : ∀ (raw : RawOutcome α) issuers,
    classify raw .live = .error (.clientCertificateRequested issuers) ↔
      issuers = [] ∧ ∃ f, raw = .failed f ∧ f.code = 4
  /-- A transport error is told by its kind, and by the end of the stream where it has none. -/
  io : ∀ (raw : RawOutcome α) kind diagnostics,
    classify raw .live = .error (.fatal ⟨.io kind, diagnostics⟩) ↔
      raw = .failed ⟨5, some kind, diagnostics⟩
  unexpectedEof : ∀ (raw : RawOutcome α) diagnostics,
    classify raw .live = .error (.fatal ⟨.unexpectedEof, diagnostics⟩) ↔
      raw = .failed ⟨5, none, diagnostics⟩
  protocol : ∀ (raw : RawOutcome α) diagnostics,
    classify raw .live = .error (.fatal ⟨.protocol, diagnostics⟩) ↔
      ∃ kind, raw = .failed ⟨1, kind, diagnostics⟩
  /-- Any code without an answer is passed on, be it zero or negative. -/
  internal : ∀ (raw : RawOutcome α) code diagnostics,
    classify raw .live = .error (.fatal ⟨.internal code, diagnostics⟩) ↔
      code ∉ [1, 2, 3, 4, 5, 6] ∧ ∃ kind, raw = .failed ⟨code, kind, diagnostics⟩
  /-- A fatal error has the whole report of the failure, and its first entry is the first one. -/
  report : ∀ (raw : RawOutcome α) t cause, classify raw t = .error (.fatal cause) →
    ∃ f, raw = .failed f ∧ cause.diagnostics = f.diagnostics ∧
      cause.first = f.diagnostics.head?

/-- **Every outcome there can be is classified as it is said**, whatever its code, its kind and its
report. -/
theorem outcomes_classified (α : Type) : Classification α where
  map := classify_map
  ready _ _ _ := classify_eq_ready_iff
  done _ := rfl
  closed f h t := EngineFailure.comesTo_iff.mp (.closed h)
  released f h := EngineFailure.comesTo_iff.mp (.released h)
  waits raw d h := by
    obtain ⟨f, -, hc⟩ := (classify_eq_iff_of_not_ready nofun).mp h
    exact hc.ne_wouldBlock
  asks raw issuers h := by
    obtain ⟨f, -, hc⟩ := (classify_eq_iff_of_not_ready nofun).mp h
    exact hc.ne_clientCertificateRequested
  staysFatal raw cause h := by
    obtain ⟨f, rfl, hc⟩ := (classify_eq_iff_of_not_ready nofun).mp h
    rw [hc.diagnostics]
    refine EngineFailure.comesTo_iff.mp (.released fun hclosed => ?_)
    -- a peer that has closed in order is not fatal
    cases h.symm.trans (EngineFailure.comesTo_iff.mp (.closed hclosed))
  peerClosed raw := by
    rw [classify_eq_iff_of_not_ready nofun]
    exact exists_congr fun _ => and_congr_right fun _ => EngineFailure.comesTo_peerClosed_iff
  wantRead raw := by
    rw [classify_eq_iff_of_not_ready nofun]
    exact exists_congr fun _ => and_congr_right fun _ => EngineFailure.comesTo_wantRead_iff
  wantWrite raw := by
    rw [classify_eq_iff_of_not_ready nofun]
    exact exists_congr fun _ => and_congr_right fun _ => EngineFailure.comesTo_wantWrite_iff
  wantCertificate raw issuers := by
    rw [classify_eq_iff_of_not_ready nofun]
    simp only [EngineFailure.comesTo_clientCertificateRequested_iff, and_left_comm,
      exists_and_left]
    rfl
  io raw kind diagnostics := by
    rw [classify_eq_iff_of_not_ready nofun]
    simp only [EngineFailure.comesTo_io_iff, exists_eq_right]
    rfl
  unexpectedEof raw diagnostics := by
    rw [classify_eq_iff_of_not_ready nofun]
    simp only [EngineFailure.comesTo_unexpectedEof_iff, exists_eq_right]
    rfl
  protocol raw diagnostics := by
    rw [classify_eq_iff_of_not_ready nofun]
    constructor
    · rintro ⟨f, hf, hc⟩
      obtain ⟨kind, rfl⟩ := EngineFailure.comesTo_protocol_iff.mp hc
      exact ⟨kind, hf⟩
    · rintro ⟨kind, hf⟩
      exact ⟨_, hf, .protocol rfl⟩
  internal raw code diagnostics := by
    rw [classify_eq_iff_of_not_ready nofun]
    constructor
    · rintro ⟨f, hf, hc⟩
      obtain ⟨hcode, kind, rfl⟩ := EngineFailure.comesTo_internal_iff.mp hc
      exact ⟨hcode, kind, hf⟩
    · rintro ⟨hcode, kind, hf⟩
      exact ⟨_, hf, .internal hcode⟩
  report raw t cause h := by
    obtain ⟨f, hf, hc⟩ := (classify_eq_iff_of_not_ready nofun).mp h
    exact ⟨f, hf, hc.diagnostics, congrArg List.head? hc.diagnostics⟩

/-- A call that waits for bytes is tried again over a transport that is there, and is lost over one
that has been released, with its report in either case. -/
example : classify (.failed ⟨2, none, []⟩ : RawOutcome Nat) .live = .ok (.wouldBlock .read) ∧
    classify (.failed ⟨2, none, []⟩ : RawOutcome Nat) .released =
      .error (.fatal ⟨.transportClosed, []⟩) :=
  ⟨rfl, rfl⟩

end SocketlessTls
