import SocketlessTls.Connection.Startup
import SocketlessTls.Engine.Waiting
import SocketlessTls.Proofs.Connection.Provenance
import SocketlessTls.Proofs.Connection.Release
import SocketlessTls.Proofs.Connection.Standing

/-!
# When a client certificate is asked for

A server may ask for a client certificate, and a connection that has none to present may report
this instead of going on without one. The report is an error, and the only one that is neither
a refusal nor the end: the engine waits, the connection stands where it stood, and whoever has read
the names of the issuers may call again, and be told again.

It is reported only where it has been asked for. The engine hears of this when it is built, from
a configuration that may have been changed in any order before and will not change any more
(`SocketlessTls.Link.after_stems`). What the engine does with it is its own affair, and so it is
assumed that one which has not been told to ask does not (`SocketlessTls.Engine.AsksOnDemand`). An
engine that is built in steps is told in one of them, and in no other
(`SocketlessTls.Builder.presentCertificate_eq`).

* `SocketlessTls.Engine.builtBy_asksOnDemand` – engines that are built in steps ask on demand;
* `SocketlessTls.Link.Reports`, `SocketlessTls.Link.Wants` – an operation reports the request, and
  its engine call fails for want of a certificate;
* `SocketlessTls.Link.reports_iff` – the one comes of the other while the caller endpoint is there;
* `SocketlessTls.Link.sameStanding_of_reports`, `SocketlessTls.Link.after_sameStanding` – one
  report, and any number of them;
* `SocketlessTls.Link.Reported` – what holds when the request has been reported;
* `SocketlessTls.Link.certificate_requests` – it holds after every run.
-/

namespace SocketlessTls

/-- The engine is told to wait where requests are to be reported and there is no certificate. -/
theorem Config.defersClientCertificate_iff {c : Config} : c.defersClientCertificate = true ↔
    c.reportCertificateRequest = true ∧ c.clientCertificate = none := by
  simp only [defersClientCertificate, Bool.and_eq_true, Option.isNone_iff_eq_none]
  exact and_comm

/-- **An engine asks for a client certificate only if it has been told to**: where a call fails for
want of one, the engine has been built for a configuration that told it to wait. -/
def Engine.AsksOnDemand {σ : Type} (E : Engine σ) : Prop :=
  ∀ (config : Config) (s : σ), E.StemsFrom config s →
    ∀ (α : Type) (call : σ → Call (RawOutcome α × σ)), E.IsCall call →
      ∀ (w w' : Call.World) (f : EngineFailure) (s' : σ),
        (call s).run .engine w = ((.failed f, s'), w') → f.code = ResultCode.wantCertificate →
          config.defersClientCertificate = true

/-! ### Engines that are built in steps -/

section Building

open Building

variable {σ : Type} (B : Builder σ) {c : Config}

/-- The builder by which no engine is told to wait for a certificate. -/
def Builder.undeferring : Builder σ := { B with deferCertificate := id }

/-- **An engine is told to wait exactly for a configuration that defers the certificate**, after all
that it is told about the certificate otherwise. -/
theorem Builder.presentCertificate_eq (c : Config) :
    B.presentCertificate c = (do
      B.undeferring.presentCertificate c
      inCase c.defersClientCertificate (modify B.deferCertificate)) := by
  rcases hcert : c.clientCertificate with _ | ⟨cert, key⟩
  · have hdefers : c.defersClientCertificate = c.reportCertificateRequest := by
      rw [Config.defersClientCertificate, hcert]
      rfl
    simp only [presentCertificate, hcert, hdefers]
    rcases c.reportCertificateRequest with _ | _ <;> rfl
  · have hdefers : c.defersClientCertificate = false := by
      rw [Config.defersClientCertificate, hcert]
      rfl
    simp only [presentCertificate, hcert, hdefers]
    exact (bind_pure _).symm

/-- For any other configuration, telling an engine to wait has no part in its steps. -/
theorem Builder.context_of_not_defers (h : c.defersClientCertificate = false) :
    B.context c = B.undeferring.context c := by
  have hpresent : B.presentCertificate c = B.undeferring.presentCertificate c := by
    rw [presentCertificate_eq, h]
    exact bind_pure _
  rw [context, hpresent]
  rfl

variable {B} {E : Engine σ}

/-- How an engine is built makes no difference to how it takes its endpoint. -/
theorem Engine.builtBy_attach : (E.builtBy B).attach? = E.attach? := rfl

/-- Nor does it to whether the engine renegotiates. -/
theorem Engine.builtBy_renegotiate : (E.builtBy B).renegotiate = E.renegotiate := rfl

/-- Nor does it to the calls of the engine. -/
theorem Engine.isCall_builtBy {α : Type} {call : σ → Call (RawOutcome α × σ)} :
    (E.builtBy B).IsCall call ↔ E.IsCall call := by
  constructor
  all_goals
    intro hcall
    cases hcall with
    | handshake => exact .handshake
    | write data => exact .write data
    | writeEarlyData data => exact .writeEarlyData data
    | read max => exact .read max
    | shutdown => exact .shutdown

/-- The steps for one connection say nothing about certificates. -/
theorem Engine.builtBy_prepare :
    (E.builtBy B.undeferring).prepare? = (E.builtBy B).prepare? := rfl

/-- **An engine for a configuration that does not defer the certificate** stems from it just as if
there were no such step. -/
theorem Engine.builtBy_stemsFrom (h : c.defersClientCertificate = false) {s : σ}
    (hs : (E.builtBy B).StemsFrom c s) : (E.builtBy B.undeferring).StemsFrom c s := by
  induction hs with
  | built hbuild =>
    have hcontext : (E.builtBy B.undeferring).build? c = (E.builtBy B).build? c := by
      simp only [builtBy, B.context_of_not_defers h]
      rfl
    exact .built (hcontext.trans hbuild)
  | prepared _ hprepare ih =>
    rw [← builtBy_prepare] at hprepare
    exact .prepared ih hprepare
  | attached _ hattach ih =>
    apply StemsFrom.attached ih
    rw [builtBy_attach] at hattach ⊢
    exact hattach
  | called _ hcall hrun ih => exact .called ih (isCall_builtBy.mpr (isCall_builtBy.mp hcall)) hrun
  | renegotiated _ hrenegotiate ih =>
    apply StemsFrom.renegotiated ih
    rw [builtBy_renegotiate] at hrenegotiate ⊢
    exact hrenegotiate

/-- **An engine that is built in steps asks on demand**, if it does not ask where no step tells it
to. -/
theorem Engine.builtBy_asksOnDemand
    (h : ∀ (config : Config) (s : σ), (E.builtBy B.undeferring).StemsFrom config s →
      ∀ (α : Type) (call : σ → Call (RawOutcome α × σ)), (E.builtBy B).IsCall call →
        ∀ (w w' : Call.World) (f : EngineFailure) (s' : σ),
          (call s).run .engine w = ((.failed f, s'), w') → f.code ≠ ResultCode.wantCertificate) :
    (E.builtBy B).AsksOnDemand := by
  intro config s hs α call hcall w w' f s' hrun hf
  rcases hdefers : config.defersClientCertificate with _ | _
  · exact absurd hf (h config s (builtBy_stemsFrom hdefers hs) α call hcall w w' f s' hrun)
  · rfl

end Building

namespace Link

variable {σ : Type}

/-- An operation reports that a client certificate is asked for. -/
def Reports (E : Engine σ) (l : Link σ) (op : Operation) (issuers : List String) : Prop :=
  (l.perform E op).1.poll = .error (.clientCertificateRequested issuers)

/-- The engine call of an operation fails for want of a certificate. -/
def Wants (E : Engine σ) (l : Link σ) (op : Operation) : Prop :=
  ∃ (α : Type) (call : σ → Call (RawOutcome α × σ)) (s : σ) (o : SessionObjects)
    (f : EngineFailure) (s' : σ) (w : Call.World),
    Exchange E l op (l.perform E op).1 (l.perform E op).2 call s o (.failed f) s' w ∧
      f.code = ResultCode.wantCertificate

/-! ### Reports -/

section Reports

variable {E : Engine σ} {l : Link σ} {op : Operation} {issuers : List String}

/-- **A report leaves the connection where the engine call found it.** -/
theorem sameStanding_of_reports (h : Coherent l) (hask : Reports E l op issuers) :
    SameStanding (l.atCall E op) (l.perform E op).2 := by
  have hr := ((perform_course E h op).exchanges_of_saysEngine E (by rw [hask]; rfl)).1
  obtain ⟨hc, hne⟩ := atCall_coherent h hr
  obtain ⟨α, operation, call, -, hresult, hlink⟩ := perform_of_error h hr (by nofun) hask
  obtain ⟨s, hs⟩ := hc.running hne
  obtain ⟨raw, s', w, -, hd⟩ := drive_of_running E hs operation call
  rw [hd] at hresult hlink
  have hresult : resultOf E raw s' w = _ := hresult
  -- a result that is not fatal lets the call change the engine and the cipher, and no more
  rw [hlink, hresult]
  exact ⟨hne, rfl, rfl, rfl, rfl, rfl⟩

/-- A report comes from a call that fails for want of a certificate, over a pipe whose other end is
there, and names the issuers that the engine then tells. -/
theorem wants_of_reports (h : Coherent l) (hask : Reports E l op issuers) :
    Wants E l op ∧ l.pipe.isReleased .caller = false ∧
      ∃ s, (l.perform E op).2.connection.engine = .running s ∧
        issuers = (E.clientCaNames s).map X509.Name.oneLine := by
  obtain ⟨α, call, s, o, raw, s', w, hx, hpoll⟩ := perform_saysEngine E h (by rw [hask]; rfl)
  have hresult : resultOf E raw s' w = .error (.clientCertificateRequested issuers) :=
    error_of_forget (hpoll.symm.trans hask)
  have hmeaning := resultOf_meaning E raw s' w
  rw [hresult] at hmeaning
  cases hmeaning with
  | wantCertificate hf ht =>
    refine ⟨⟨α, call, s, o, _, s', w, hx, hf⟩, ?_, s', hx.engine, rfl⟩
    rcases hgone : l.pipe.isReleased .caller with _ | _
    · rfl
    · exact absurd (if_pos (hx.isSiblingReleased.trans hgone)) ht

/-- Such a call does not give up the caller endpoint. -/
theorem isReleased_of_wants (h : Wants E l op) :
    (l.perform E op).2.pipe.isReleased .caller = l.pipe.isReleased .caller := by
  obtain ⟨α, call, s, o, f, s', w, hx, -⟩ := h
  rw [hx.pipe]
  exact hx.isSiblingReleased

/-- What a call comes to that fails for want of a certificate. -/
theorem resultOf_wantCertificate {α : Type} (E : Engine σ) {f : EngineFailure}
    (hf : f.code = ResultCode.wantCertificate) (s : σ) {w : Call.World}
    (hw : w.pipe.isSiblingReleased .engine = false) :
    resultOf E (.failed f : RawOutcome α) s w =
      .error (.clientCertificateRequested ((E.clientCaNames s).map X509.Name.oneLine)) := by
  have hlive : transportStatus w.pipe = .live := if_neg (by rw [hw]; exact Bool.false_ne_true)
  simp only [resultOf, classify, hf, hlive]
  rfl

/-- **An operation reports the request exactly if its call fails for want of a certificate** while
the caller endpoint is there. -/
theorem reports_iff (h : Coherent l) :
    (∃ issuers, Reports E l op issuers) ↔ Wants E l op ∧ l.pipe.isReleased .caller = false := by
  constructor
  · rintro ⟨issuers, hask⟩
    obtain ⟨hwants, hlive, -⟩ := wants_of_reports h hask
    exact ⟨hwants, hlive⟩
  · rintro ⟨⟨α, call, s, o, f, s', w, hx, hf⟩, hlive⟩
    rcases hx.poll with hpoll | ⟨-, ⟨a, ha⟩, -, -⟩
    · rw [resultOf_wantCertificate E hf s' (hx.isSiblingReleased.trans hlive)] at hpoll
      exact ⟨_, hpoll⟩
    · cases ha

/-- An engine that asks on demand does so for a connection whose configuration tells it to. -/
theorem defers_of_wants (hE : E.AsksOnDemand) (hstems : Stems E l) (h : Wants E l op) :
    (l.perform E op).2.connection.config.defersClientCertificate = true := by
  obtain ⟨α, call, s, o, f, s', w, hx, hf⟩ := h
  rw [hx.config]
  exact hE _ s (hx.state.stemsFrom hstems) α call hx.makes.isCall _ _ f s' hx.run hf

end Reports

/-! ### Reports again and again -/

/-- An event that is an operation, and not the given one reporting the request. -/
def Interrupts (E : Engine σ) (op : Operation) (l : Link σ) (e : Event) : Prop :=
  ∃ op', e = .operation op' ∧ ¬(op' = op ∧ ∃ issuers, Reports E l op issuers)

section Again

variable {E : Engine σ} {l : Link σ} {op : Operation}

/-- What goes on around a connection leaves it where it stands, and so does one more report. -/
theorem step_sameStanding (h : Coherent l) (hs : l.connection.state ≠ .configured)
    (hw : op = .advanceHandshake → l.connection.earlyDataWindow = false) {e : Event}
    (he : ¬Interrupts E op l e) : SameStanding l (l.step E e).2 := by
  cases e with
  | operation op' =>
    -- it must be the operation at hand, whose call finds the link as it is by now
    obtain ⟨rfl, issuers, hask⟩ : op' = op ∧ ∃ issuers, Reports E l op issuers := by
      by_contra hno
      exact he ⟨op', rfl, hno⟩
    have hstanding := sameStanding_of_reports h hask
    rwa [atCall_of_started E hs hw] at hstanding
  | caller action => exact ⟨hs, rfl, rfl, rfl, rfl, rfl⟩
  | elsewhere objects => exact ⟨hs, rfl, rfl, rfl, rfl, rfl⟩

/-- **However often the request is reported, the connection stays where it stands.** -/
theorem after_sameStanding (h : Coherent l) (hs : l.connection.state ≠ .configured)
    (hw : op = .advanceHandshake → l.connection.earlyDataWindow = false) {later : List Event}
    (hno : ¬l.Happened E later (Interrupts E op)) : SameStanding l (l.after E later) := by
  refine (after_induct_of_not_happened (P := fun m => Coherent m ∧ SameStanding l m) E
    (fun m e hm he => ⟨step_coherent E hm.1 e, hm.2.trans ?_⟩) ⟨h, .refl hs⟩ hno).2
  refine step_sameStanding hm.1 hm.2.started' (fun ho => ?_) he
  rw [hm.2.window, hw ho]

end Again

/-! ### Reported requests -/

/-- **What holds when an operation has reported that a client certificate is asked for.** -/
structure Reported (E : Engine σ) (l : Link σ) (op : Operation) (issuers : List String)
    (l' : Link σ) : Prop where
  /-- The configuration asks for reports and has no certificate to present instead. -/
  onDemand : l'.connection.config.reportCertificateRequest = true ∧
    l'.connection.config.clientCertificate = none
  /-- It is the one for which the engine has been started, and will not change any more. -/
  frozen : ∀ later, (l'.after E later).connection.config = l'.connection.config
  /-- The caller endpoint is there. -/
  caller : l.pipe.isReleased .caller = false ∧ l'.pipe.isReleased .caller = false
  /-- Every name that the engine tells is passed on, in one line, in order. -/
  issuers : ∃ s, l'.connection.engine = .running s ∧
    issuers = (E.clientCaNames s).map X509.Name.oneLine
  /-- State, configuration, record, and window and count of early data are as the engine call found
  them. -/
  standing : SameStanding (l.atCall E op) l'
  /-- The connection has not failed. -/
  notErrored : l'.connection.state ≠ .errored
  /-- Operations belong where they belonged, and the same ones reach the engine, this one among
  them. -/
  belongs : ∀ op' : Operation,
    op'.Belongs l'.connection ↔ op'.Belongs (l.atCall E op).connection
  reaches : ∀ op' : Operation, op'.Reaches E l' ↔ op'.Reaches E (l.atCall E op)
  /-- Questions are refused for the reasons for which they were. -/
  answers : ∀ e, l'.connection.Unanswered e ↔ (l.atCall E op).connection.Unanswered e
  /-- The operation may be called again, as often as the request is reported and whatever goes on
  meanwhile around the connection, and reports it whenever the engine does. -/
  again : ∀ later, ¬l'.Happened E later (Interrupts E op) →
    SameStanding l' (l'.after E later) ∧ op.Reaches E (l'.after E later) ∧
      ((∃ issuers, Reports E (l'.after E later) op issuers) ↔
        Wants E (l'.after E later) op ∧ (l'.after E later).pipe.isReleased .caller = false)

/-- **A request for a client certificate is reported on demand and changes nothing.** Take any
engine that asks only if it has been told to, any connection, any run, whatever has been done to the
configuration in it, and any operation that reports the request after it. Then the report and the
connection are as `SocketlessTls.Link.Reported` says. -/
theorem certificate_requests (E : Engine σ) (hE : E.AsksOnDemand) (config : Config) (pipe : Pipe)
    (objects : SessionObjects) (h : pipe.isReleased .engine = false) (es : List Event)
    (op : Operation) (issuers : List String)
    (hask : Reports E ((fresh config pipe objects).after E es) op issuers) :
    Reported E ((fresh config pipe objects).after E es) op issuers
      (((fresh config pipe objects).after E es).perform E op).2 := by
  have hstart : Coherent (fresh config pipe objects : Link σ) := .of_fresh config pipe objects h
  have hc := after_coherent E hstart es
  have hstems : Stems E ((fresh config pipe objects : Link σ).after E es) :=
    after_stems hstart (.of_not_running nofun) es
  generalize (fresh config pipe objects : Link σ).after E es = l at hask hc hstems ⊢
  have hr := ((perform_course E hc op).exchanges_of_saysEngine E (by rw [hask]; rfl)).1
  have hc' := (perform_keeps E hc op).coherent
  have hstanding := sameStanding_of_reports hc hask
  have hreaches := reaches_atCall hc hr
  obtain ⟨hwants, hlive, s, hs, hissuers⟩ := wants_of_reports hc hask
  have hdefers := Config.defersClientCertificate_iff.mp (defers_of_wants hE hstems hwants)
  have hwindow : op = .advanceHandshake →
      (l.perform E op).2.connection.earlyDataWindow = false := by
    rintro rfl
    exact hstanding.window
  exact {
    onDemand := hdefers
    frozen := after_config E hc' hstanding.started'
    caller := ⟨hlive, (isReleased_of_wants hwants).trans hlive⟩
    issuers := ⟨s, hs, hissuers⟩
    standing := hstanding
    notErrored := by
      rw [hstanding.state]
      exact ne_errored_of_reaches hreaches
    belongs := hstanding.belongs_iff
    reaches := hstanding.reaches_iff E
    answers := hstanding.unanswered_iff ((atCall_coherent hc hr).1.running hstanding.started)
      ⟨s, hs⟩
    again := fun later hno => by
      have hlater := after_sameStanding hc' hstanding.started' hwindow hno
      exact ⟨hlater, (hlater.reaches_iff E op).mpr ((hstanding.reaches_iff E op).mpr hreaches),
        reports_iff (after_coherent E hc' later)⟩ }

/-! ### An engine that asks -/

/-- The name of an authority. -/
def rootAuthority : X509.Name :=
  ⟨[⟨X509.ObjectId.commonName, ⟨.latin1, [82, 111, 111, 116]⟩⟩]⟩

example : rootAuthority.oneLine = "/CN=Root" := by decide +kernel

/-- How far a handshake has come in which a certificate is asked for. -/
inductive Asking where
  | before
  | greeted
  /-- The server has asked. -/
  | asked
  deriving Repr, DecidableEq

/-- An engine in such a handshake, which may have been told to ask for the certificate. -/
structure Asker where
  told : Bool
  place : Asking
  deriving Repr, DecidableEq

namespace Asker

/-- What is reported of a server that asks. -/
def report (s : Asker) : EngineFailure :=
  if s.told then ⟨ResultCode.wantCertificate, none, []⟩ else wantsBytes

/-- Waits for the server, which asks at once. -/
def listen (s : Asker) : Call (RawOutcome Unit × Asker) :=
  .read 5 fun
    | .ok (_ :: _) => .done (.failed s.report, { s with place := .asked })
    | _ => .done (.failed wantsBytes, { s with place := .greeted })

/-- Greets, and then goes on from where the handshake is. -/
def handshake (s : Asker) : Call (RawOutcome Unit × Asker) :=
  match s.place with
  | .before => .write [22, 3, 1] fun _ => s.listen
  | .greeted => s.listen
  | .asked => .done (.failed s.report, s)

theorem told_of_report {s : Asker} (h : s.report.code = ResultCode.wantCertificate) :
    s.told = true := by
  unfold report at h
  split at h
  · assumption
  · exact absurd h (by decide)

theorem listen_run (s : Asker) (w : Call.World) :
    ∃ f s', (s.listen.run .engine w).1 = (.failed f, s') ∧ s'.told = s.told ∧
      (f.code = ResultCode.wantCertificate → s.told = true) := by
  rw [listen, Call.run]
  dsimp only
  split
  · exact ⟨_, _, rfl, rfl, told_of_report⟩
  · exact ⟨_, _, rfl, rfl, fun h => absurd h (by decide)⟩

/-- A handshake call remembers what the engine has been told, and asks only if it has been told. -/
theorem handshake_run (s : Asker) (w : Call.World) :
    ∃ f s', (s.handshake.run .engine w).1 = (.failed f, s') ∧ s'.told = s.told ∧
      (f.code = ResultCode.wantCertificate → s.told = true) := by
  unfold handshake
  split
  · exact s.listen_run _
  · exact s.listen_run w
  · exact ⟨_, s, rfl, rfl, told_of_report⟩

end Asker

/-- An engine that asks for a client certificate, as often as it is called, if it has been told
to. -/
def asker : Engine Asker :=
  { Engine.waiting ⟨false, .before⟩ with
    build? := fun config => some ⟨config.defersClientCertificate, .before⟩
    handshake := Asker.handshake
    clientCaNames := fun _ => [rootAuthority] }

/-- It remembers what it has been told. -/
theorem asker_stemsFrom {config : Config} {s : Asker} (h : asker.StemsFrom config s) :
    s.told = config.defersClientCertificate := by
  induction h with
  | built h =>
    obtain rfl := Option.some.inj h
    rfl
  | prepared _ h ih => exact (congrArg Asker.told (Option.some.inj h)).symm.trans ih
  | attached _ h ih => exact (congrArg Asker.told (Option.some.inj h)).symm.trans ih
  | @called _ _ _ s _ w _ _ hcall h ih =>
    rw [← ih]
    cases hcall with
    | handshake =>
      obtain ⟨f, s', hrun, htold, -⟩ := s.handshake_run w
      have hs' := (Prod.mk.inj (hrun.symm.trans (congrArg Prod.fst h))).2
      exact (congrArg Asker.told hs').symm.trans htold
    | _ => exact congrArg Asker.told (Prod.mk.inj (Prod.mk.inj h).1).2.symm
  | renegotiated _ h ih => exact (congrArg Asker.told (Prod.mk.inj h).2).symm.trans ih

theorem asker_asksOnDemand : asker.AsksOnDemand := by
  intro config s hstems α call hcall w w' f s' hrun hf
  rw [← asker_stemsFrom hstems]
  cases hcall with
  | handshake =>
    obtain ⟨f', s'', hrun', -, hask⟩ := s.handshake_run w
    have hfail := (Prod.mk.inj (hrun'.symm.trans (congrArg Prod.fst hrun))).1
    obtain rfl := RawOutcome.failed.inj hfail
    exact hask hf
  | _ =>
    obtain rfl := RawOutcome.failed.inj (Prod.mk.inj (Prod.mk.inj hrun).1).1
    exact absurd hf (by decide)

/-- A connection is configured to report requests, greets, and reports the request that comes
back. -/
def askerRun : List Event :=
  [.operation (.configure { Config.initial with reportCertificateRequest := true }),
    .operation .advanceHandshake, .caller (.read 3), .caller (.write [22, 3, 3]),
    .operation .advanceHandshake]

/-- After that the request is reported a second time. -/
theorem asker_reports :
    asker.AsksOnDemand ∧ Pipe.default.isReleased .engine = false ∧
      Reports asker ((fresh .initial .default .empty).after asker askerRun) .advanceHandshake
        [rootAuthority.oneLine] ∧
      Reported asker ((fresh .initial .default .empty).after asker askerRun) .advanceHandshake
        [rootAuthority.oneLine]
        (((fresh .initial .default .empty).after asker askerRun).perform asker
          .advanceHandshake).2 :=
  ⟨asker_asksOnDemand, rfl, rfl, certificate_requests asker asker_asksOnDemand .initial .default
    .empty rfl askerRun .advanceHandshake [rootAuthority.oneLine] rfl⟩

end Link

end SocketlessTls
