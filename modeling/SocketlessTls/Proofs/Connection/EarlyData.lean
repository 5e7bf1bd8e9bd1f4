import SocketlessTls.Proofs.Connection.Configuring
import SocketlessTls.Proofs.Connection.Course
import SocketlessTls.Proofs.Connection.Reachable

/-!
# Early data keeps to its budget

A session to resume says how much early data the server will take, and a connection adds up what it
has sent. This file shows that the sum never exceeds the limit, over any run: writes that are cut
short, blocked, refused or tried again, among any other operations and events.

The limit is part of the configuration, which may still change as long as nothing has been sent, and
is fixed from then on. So the invariant is only that the sum is *within the limit that holds now*:
before the handshake starts there is nothing to compare, and afterwards only a write of early data
moves either side, and it hands the engine no more than what is left.

Of the engine one thing is assumed, `SocketlessTls.Engine.CountsEarlyData`: it does not report to
have taken more than it was given.

* `SocketlessTls.Link.earlyDataLimit`, `SocketlessTls.Link.earlyDataReported` – what the session
  allows, and what the writes of a run have reported;
* `SocketlessTls.Link.early_data_within_budget` – the two never part in the wrong direction.
-/

namespace SocketlessTls

/-- An engine that reports to have taken no more early data than it was given. -/
def Engine.CountsEarlyData {σ : Type} (E : Engine σ) : Prop :=
  ∀ data s w n s' w', (E.writeEarlyData data s).run .engine w = ((.done n, s'), w') →
    n ≤ data.length

namespace Link

variable {σ : Type}

/-- How much early data the session to resume allows; none without a session. -/
def earlyDataLimit (c : Connection σ) : Nat :=
  match c.config.session with
  | some s => s.maxEarlyData.toNat
  | none => 0

theorem earlyDataLimit_lt (c : Connection σ) : earlyDataLimit c < UInt32.size := by
  unfold earlyDataLimit
  split
  · exact UInt32.toNat_lt_size _
  · exact Nat.zero_lt_succ _

theorem earlyDataBudget_eq (c : Connection σ) :
    earlyDataBudget c = earlyDataLimit c - c.earlyDataSent.toNat := rfl

/-- The early data that a write reports as sent. -/
def reported : PollResult Nat → Nat
  | .ok (.ready n) => n
  | _ => 0

/-- The early data that an event reports as sent. -/
def Event.earlyData : Event → Reply → Nat
  | .operation (.writeEarlyData _), .outcome (.written result) => reported result
  | _, _ => 0

/-- All the early data that is reported as sent in the course of a run. -/
def earlyDataReported (E : Engine σ) (l : Link σ) : List Event → Nat
  | [] => 0
  | e :: es => e.earlyData (l.step E e).1 + (l.step E e).2.earlyDataReported E es

/-- **What has been sent is within the limit.** -/
def WithinBudget (l : Link σ) : Prop :=
  l.connection.earlyDataSent.toNat ≤ earlyDataLimit l.connection

/-! ### One write -/

section Writing

variable (E : Engine σ) {l l₁ : Link σ}

/-- **The engine is handed a front part of the data, within the budget.** What it would do with any
other data makes no difference. -/
theorem writeEarlyData_hands (data : Bytes) {f : Bytes → σ → Call (RawOutcome Nat × σ)}
    (hf : ∀ chunk, chunk <+: data → chunk.length ≤ earlyDataBudget l.connection →
      f chunk = E.writeEarlyData chunk) :
    l.writeEarlyData { E with writeEarlyData := f } data = l.writeEarlyData E data := by
  have hchunk := hf (data.take (earlyDataBudget l.connection)) (List.take_prefix _ _)
    (List.length_take_le _ _)
  unfold writeEarlyData
  simp only [hchunk]
  rfl

/-- A write with no budget, or of no data, has nothing to do. -/
theorem writeEarlyData_idle (hadm : admitsEarlyData l.connection = true) {data : Bytes}
    (hnone : earlyDataBudget l.connection = 0 ∨ data = []) :
    l.writeEarlyData E data = (.ok (.ready 0), l) := by
  rcases writeEarlyData_cases E l data with ⟨-, -, hno, -⟩ | ⟨-, -, hw⟩ | ⟨-, hb, hd, -⟩
  · exact Bool.noConfusion (hno.symm.trans hadm)
  · exact hw
  · exact absurd hnone (not_or.mpr ⟨hb, hd⟩)

/-- A start that fails leaves the configuration and the count as they were. -/
theorem startIfConfigured_error_frame {e : TlsError}
    (hst : l.startIfConfigured E = (.error e, l₁)) :
    l₁.connection.config = l.connection.config ∧
      l₁.connection.earlyDataSent = l.connection.earlyDataSent := by
  unfold startIfConfigured at hst
  split_ifs at hst
  · rcases start_cases E l with ⟨e', -, -, hc⟩ | ⟨-, -, o, hc⟩ | ⟨-, s, o, hc⟩
    · obtain rfl := (Prod.mk.inj (hst.symm.trans hc)).2
      exact ⟨rfl, rfl⟩
    · obtain rfl := (Prod.mk.inj (hst.symm.trans hc)).2
      exact ⟨rfl, rfl⟩
    · cases (Prod.mk.inj (hst.symm.trans hc)).1
  · cases (Prod.mk.inj hst).1

theorem count_sent (x : PollResult Nat × Link σ) :
    (count x).2.connection.earlyDataSent =
      x.2.connection.earlyDataSent + UInt32.ofNat (reported x.1) := by
  obtain ⟨result, l⟩ := x
  rcases result with e | n | d | _
  · exact (UInt32.add_zero _).symm
  · rfl
  · exact (UInt32.add_zero _).symm
  · exact (UInt32.add_zero _).symm

/-- A call reports no more early data than it was given, and leaves the adding up to the write. -/
theorem drive_earlyData (hE : E.CountsEarlyData) (hr : ∃ s, l.connection.engine = .running s)
    (operation : String) (chunk : Bytes) :
    reported (l.drive E operation (E.writeEarlyData chunk)).1 ≤ chunk.length ∧
    (l.drive E operation (E.writeEarlyData chunk)).2.connection.earlyDataSent =
      l.connection.earlyDataSent ∧
    (l.drive E operation (E.writeEarlyData chunk)).2.connection.config = l.connection.config := by
  obtain ⟨s, hs⟩ := hr
  obtain ⟨raw, s', w, hrun, hd⟩ := drive_of_running E hs operation (E.writeEarlyData chunk)
  rw [hd]
  refine ⟨?_, rfl, rfl⟩
  rcases hres : resultOf E raw s' w with e | n | d | _
  · exact Nat.zero_le _
  · obtain rfl := done_of_resultOf E raw s' w hres
    exact hE chunk s _ n s' w hrun
  · exact Nat.zero_le _
  · exact Nat.zero_le _

/-- **A write adds what it reports to the count**, and reports no more than the budget. -/
theorem writeEarlyData_reported (hE : E.CountsEarlyData) (h : Coherent l) (data : Bytes) :
    reported (l.writeEarlyData E data).1 ≤ earlyDataBudget l.connection ∧
    (l.writeEarlyData E data).2.connection.earlyDataSent =
      l.connection.earlyDataSent + UInt32.ofNat (reported (l.writeEarlyData E data).1) ∧
    (l.writeEarlyData E data).2.connection.config = l.connection.config := by
  rcases writeEarlyData_cases E l data with
    ⟨e, -, -, hw⟩ | ⟨-, -, hw⟩ | ⟨hadm, -, -, ⟨e, l₁, hst, hw⟩ | ⟨l₁, hst, hw⟩⟩
  · rw [hw]
    exact ⟨Nat.zero_le _, (UInt32.add_zero _).symm, rfl⟩
  · rw [hw]
    exact ⟨Nat.zero_le _, (UInt32.add_zero _).symm, rfl⟩
  · obtain ⟨hconfig, hsent⟩ := startIfConfigured_error_frame E hst
    rw [hw]
    exact ⟨Nat.zero_le _, hsent.trans (UInt32.add_zero _).symm, hconfig⟩
  · have hs := state_of_admitsEarlyData hadm
    have hstart := startIfConfigured_started h hs hst
    have hframe := startIfConfigured_frame E hs hst
    obtain ⟨hle, hsent, hconfig⟩ := drive_earlyData E hE hstart.running "write_early_data"
      (data.take (earlyDataBudget l.connection))
    rw [hw, (count_frame _).1, (count_frame _).2.2, count_sent, hsent, hconfig]
    exact ⟨Nat.le_trans hle (List.length_take_le _ _), by rw [hframe.sent], hframe.config⟩

/-- **Neither the cast nor the sum wraps**: what a write reports is less than the numbers that the
count can hold, and so is the new count. -/
theorem writeEarlyData_exact (hE : E.CountsEarlyData) (h : Coherent l) (hw : WithinBudget l)
    (data : Bytes) :
    (UInt32.ofNat (reported (l.writeEarlyData E data).1)).toNat =
      reported (l.writeEarlyData E data).1 ∧
    l.connection.earlyDataSent.toNat + reported (l.writeEarlyData E data).1 < UInt32.size ∧
    (l.writeEarlyData E data).2.connection.earlyDataSent.toNat =
      l.connection.earlyDataSent.toNat + reported (l.writeEarlyData E data).1 ∧
    WithinBudget (l.writeEarlyData E data).2 := by
  obtain ⟨hle, hsent, hconfig⟩ := writeEarlyData_reported E hE h data
  have hlimit := earlyDataLimit_lt l.connection
  rw [earlyDataBudget_eq] at hle
  rw [WithinBudget] at hw
  have hfits : l.connection.earlyDataSent.toNat + reported (l.writeEarlyData E data).1 ≤
      earlyDataLimit l.connection := by omega
  have hcast : (UInt32.ofNat (reported (l.writeEarlyData E data).1)).toNat =
      reported (l.writeEarlyData E data).1 := UInt32.toNat_ofNat_of_lt' (by omega)
  have hsum : (l.writeEarlyData E data).2.connection.earlyDataSent.toNat =
      l.connection.earlyDataSent.toNat + reported (l.writeEarlyData E data).1 := by
    rw [hsent, UInt32.toNat_add, hcast]
    exact Nat.mod_eq_of_lt (Nat.lt_of_le_of_lt hfits hlimit)
  refine ⟨hcast, by omega, hsum, ?_⟩
  rw [WithinBudget, hsum, earlyDataLimit, hconfig]
  exact hfits

end Writing

/-! ### Any event, any run -/

section Runs

variable (E : Engine σ) {l : Link σ}

/-- An operation other than a write of early data reports none. -/
theorem Event.earlyData_of_ne {op : Operation} (ho : ∀ data, op ≠ .writeEarlyData data)
    (r : Reply) : (Event.operation op).earlyData r = 0 := by
  cases op with
  | writeEarlyData data => exact absurd rfl (ho data)
  | _ => rfl

/-- An operation other than a write of early data leaves the count as it was. -/
theorem perform_sent (h : Coherent l) {op : Operation} (ho : ∀ data, op ≠ .writeEarlyData data) :
    (l.perform E op).2.connection.earlyDataSent = l.connection.earlyDataSent := by
  have hcourse := perform_course E h op
  generalize (l.perform E op).1 = out, (l.perform E op).2 = l' at hcourse ⊢
  cases hcourse with
  | called _ hx =>
    obtain ⟨α, call, s, o, raw, s', w, hx⟩ := hx
    exact hx.sent ho
  | _ => rfl

/-- **An event adds to the count what it reports, and keeps it within the limit.** -/
theorem step_earlyData (hE : E.CountsEarlyData) (h : Coherent l) (hw : WithinBudget l)
    (e : Event) :
    (l.step E e).2.connection.earlyDataSent.toNat =
      l.connection.earlyDataSent.toNat + e.earlyData (l.step E e).1 ∧
    WithinBudget (l.step E e).2 := by
  cases e with
  | operation op =>
    by_cases ho : ∃ data, op = .writeEarlyData data
    · obtain ⟨data, rfl⟩ := ho
      exact (writeEarlyData_exact E hE h hw data).2.2
    · replace ho := not_exists.mp ho
      have hsent : (l.step E (.operation op)).2.connection.earlyDataSent =
        l.connection.earlyDataSent := perform_sent E h ho
      rw [Event.earlyData_of_ne ho, hsent]
      refine ⟨rfl, ?_⟩
      rw [WithinBudget, hsent]
      -- the limit may move before the handshake starts, when nothing has been sent
      by_cases hs : l.connection.state = .configured
      · rw [(h.fresh hs).2.2.1]
        exact Nat.zero_le _
      · rw [earlyDataLimit, step_config E h hs]
        exact hw
  | caller action => exact ⟨rfl, hw⟩
  | elsewhere objects => exact ⟨rfl, hw⟩

/-- **Along any run the count grows by what is reported, and stays within the limit.** -/
theorem after_earlyData (hE : E.CountsEarlyData) (h : Coherent l) (hw : WithinBudget l)
    (es : List Event) :
    (l.after E es).connection.earlyDataSent.toNat =
      l.connection.earlyDataSent.toNat + l.earlyDataReported E es ∧
    WithinBudget (l.after E es) := by
  induction es generalizing l with
  | nil => exact ⟨rfl, hw⟩
  | cons e es ih =>
    obtain ⟨hsum, hw'⟩ := step_earlyData E hE h hw e
    obtain ⟨hsums, hwithin⟩ := ih (step_coherent E h e) hw'
    rw [after_cons, hsums, hsum, earlyDataReported, Nat.add_assoc]
    exact ⟨rfl, hwithin⟩

end Runs

/-! ### The whole story -/

/-- **What holds of early data after a run `es`** from a link that had just been made. -/
structure KeepsBudget (E : Engine σ) (start : Link σ) (es : List Event) (l : Link σ) : Prop where
  /-- The count is the sum of all that was reported. -/
  sum : l.connection.earlyDataSent.toNat = start.earlyDataReported E es
  within : start.earlyDataReported E es ≤ earlyDataLimit l.connection
  /-- A write hands the engine only front parts of its data that fit into what is left: an engine
  that would do anything else with any other data makes no difference. -/
  hands : ∀ (data : Bytes) (f : Bytes → σ → Call (RawOutcome Nat × σ)),
    (∀ chunk, chunk <+: data →
      start.earlyDataReported E es + chunk.length ≤ earlyDataLimit l.connection →
      f chunk = E.writeEarlyData chunk) →
    l.writeEarlyData { E with writeEarlyData := f } data = l.writeEarlyData E data
  /-- What a write reports is the same after the cast to the count, and adding it does not wrap. -/
  exact : ∀ (data : Bytes) (n : Nat), (l.writeEarlyData E data).1 = .ok (.ready n) →
    (UInt32.ofNat n).toNat = n ∧ start.earlyDataReported E es + n < UInt32.size ∧
    (l.writeEarlyData E data).2.connection.earlyDataSent.toNat =
      start.earlyDataReported E es + n
  /-- Without a session, a limit, a budget or data an admitted write does nothing at all. -/
  idle : ∀ data : Bytes, admitsEarlyData l.connection = true →
    l.connection.config.session = none ∨ earlyDataLimit l.connection = 0 ∨
      start.earlyDataReported E es = earlyDataLimit l.connection ∨ data = [] →
    l.writeEarlyData E data = (.ok (.ready 0), l)

/-- **Early data keeps to the budget of the session**, over any engine that reports no more early
data than it was given and after any run from a fresh connection. -/
theorem early_data_within_budget (E : Engine σ) (hE : E.CountsEarlyData) (config : Config)
    (pipe : Pipe) (objects : SessionObjects) (hp : pipe.isReleased .engine = false)
    (es : List Event) :
    KeepsBudget E (fresh config pipe objects) es ((fresh config pipe objects).after E es) := by
  have hstart : Coherent (fresh config pipe objects : Link σ) := .of_fresh config pipe objects hp
  have hl := after_coherent E hstart es
  obtain ⟨hsum, hw⟩ := after_earlyData E hE hstart (Nat.zero_le _) es
  rw [show (fresh config pipe objects : Link σ).connection.earlyDataSent.toNat = 0 from rfl,
    Nat.zero_add] at hsum
  generalize (fresh config pipe objects).after E es = l at hl hsum hw ⊢
  have hle := hw
  rw [WithinBudget, hsum] at hle
  have hbudget := earlyDataBudget_eq l.connection
  rw [hsum] at hbudget
  refine ⟨hsum, hle, fun data f hf => ?_, fun data n hn => ?_, fun data hadm hnone => ?_⟩
  · refine writeEarlyData_hands E data (fun chunk hpre hlen => hf chunk hpre ?_)
    omega
  · have hexact := writeEarlyData_exact E hE hl hw data
    rw [hn, hsum] at hexact
    exact ⟨hexact.1, hexact.2.1, hexact.2.2.1⟩
  · refine writeEarlyData_idle E hadm ?_
    rcases hnone with hnone | hzero | hspent | hnil
    · have hlimit : earlyDataLimit l.connection = 0 := by rw [earlyDataLimit, hnone]
      exact Or.inl (by omega)
    · exact Or.inl (by omega)
    · exact Or.inl (by omega)
    · exact Or.inr hnil

/-! ### Five bytes -/

/-- An engine that takes all the early data that it is given. -/
def greedy : Engine Unit :=
  { undecided someCipher with writeEarlyData := fun data _ => .done (.done data.length, ()) }

theorem greedy_countsEarlyData : greedy.CountsEarlyData := by
  intro data s w n s' w' hrun
  obtain ⟨hraw, -⟩ := Prod.mk.inj (Prod.mk.inj hrun).1
  exact Nat.le_of_eq (RawOutcome.done.inj hraw).symm

/-- A session that allows five bytes of early data. -/
def fiveBytes : Session :=
  ⟨0, { SessionContent.blank 0x304 0x1301 [] [] with maxEarlyData := 5 }⟩

/-- Seven bytes are offered in two writes, and later the session is to be taken away. -/
def sevenOffered : List Event :=
  [.operation (.configure { Config.initial with session := some fiveBytes }),
    .operation (.writeEarlyData [1, 2, 3]), .operation (.configure .initial),
    .operation (.writeEarlyData [4, 5, 6, 7])]

/-- Of seven bytes five are sent. -/
theorem early_data_of_five_bytes :
    greedy.CountsEarlyData ∧ Pipe.default.isReleased .engine = false ∧
      (fresh .initial .default .empty).earlyDataReported greedy sevenOffered = 5 ∧
      KeepsBudget greedy (fresh .initial .default .empty) sevenOffered
        ((fresh .initial .default .empty).after greedy sevenOffered) :=
  ⟨greedy_countsEarlyData, rfl, by decide +kernel,
    early_data_within_budget greedy greedy_countsEarlyData .initial .default .empty rfl _⟩

end Link

end SocketlessTls
