import Mathlib.Logic.Relation
import SocketlessTls.Engine.Waiting
import SocketlessTls.Policy.Side
import SocketlessTls.Proofs.Session.Confinement

/-!
# Sessions among many connections

A program has any number of connections at a time. It takes sessions from some of them, keeps these
for as long as it likes, and puts them into the configurations of others. Meanwhile every engine may
spoil the session objects that it holds, or write into them, whenever it likes. A session that is
kept must not feel any of that.

It does not, because a session changes hands as a copy. A *fleet* is all there is in such a program:
the connections, the handles and the configurations that there have been, the session objects, and
what each of them holds at present. A step of a fleet is something that the program does, or
something that an engine does behind its back. The invariant (`SocketlessTls.Fleet.Sound`) says
that the objects fall into disjoint parts: those that a handle leads to, and for each connection
those that its engine holds. A step moves objects between these parts only by making new ones.

* `SocketlessTls.Fleet.Step` – everything that can happen;
* `SocketlessTls.Fleet.Sound.withClient`, `SocketlessTls.Fleet.Sound.give` – the two ways in which
  a step touches the objects: through one engine, or by handing out a new one;
* `SocketlessTls.Fleet.sessions_isolated` – handles and engines never meet, and so a handle reads
  the same for ever and can always be resumed.
-/

namespace SocketlessTls

/-! ### Where sessions and connections come from -/

/-- A setting leaves the session to resume as it is, or is that of a session. -/
theorem Setting.apply_session {sc : Screening} {c c' : Config} {setting : Setting}
    (h : setting.apply sc c = .accepted c') :
    c'.session = c.session ∨ ∃ s, setting = .session s ∧ c'.session = some s := by
  cases setting with
  | session s =>
    obtain rfl := Applied.accepted.inj h
    exact Or.inr ⟨s, rfl, rfl⟩
  | _ =>
    refine Or.inl ?_
    simp only [Setting.apply, screened, Config.withClientCertificate, Applied.invalid] at h
    grind

/-- A connection that is made is a fresh one. -/
theorem Connection.eq_fresh_of_ofConfig {σ : Type} {config : Config} {side : Side}
    {c : Connection σ} (h : Connection.ofConfig config side = .ok c) : c = .fresh config := by
  unfold Connection.ofConfig at h
  split at h
  · cases h
  · exact (Except.ok.inj h).symm

/-! ### Fleets -/

/-- All there is in a program. -/
structure Fleet (σ : Type) where
  objects : SessionObjects
  /-- What an object holds at present. -/
  contents : ObjectId → SessionContent
  /-- The handles that there have been. -/
  handles : List Session
  /-- The configurations that there have been. -/
  configs : List Config
  /-- The connections that there are, each over its pipe. -/
  clients : ℕ → Option (Connection σ × Pipe)

namespace Fleet

variable {σ : Type}

/-- A program before it does anything. -/
def start (contents : ObjectId → SessionContent) : Fleet σ where
  objects := .empty
  contents := contents
  handles := []
  configs := []
  clients := fun _ => none

/-- A handle as it reads at present. -/
def now (f : Fleet σ) (h : Session) : Session := ⟨h.object, f.contents h.object⟩

/-- The objects that the engine of a client holds, if there is a client. -/
def heldBy (holds : σ → Set ObjectId) : Option (Connection σ × Pipe) → Set ObjectId
  | some (c, _) => c.held holds
  | none => ∅

/-- The objects that an engine holds. -/
def held (holds : σ → Set ObjectId) (f : Fleet σ) (i : ℕ) : Set ObjectId :=
  heldBy holds (f.clients i)

/-- A configuration that is about: one of its own, or that of a connection. -/
def HasConfig (f : Fleet σ) (config : Config) : Prop :=
  config ∈ f.configs ∨ ∃ i c p, f.clients i = some (c, p) ∧ c.config = config

/-- The objects that a handle or a configuration leads to. -/
def reachable (f : Fleet σ) : Set ObjectId :=
  {id | (∃ h ∈ f.handles, h.object = id) ∨
    ∃ config, f.HasConfig config ∧ id ∈ objectOf config.session}

/-! ### Steps -/

/-- A fleet with a client made, changed or dropped. -/
def withClient (f : Fleet σ) (i : ℕ) (client : Option (Connection σ × Pipe))
    (objects : SessionObjects) : Fleet σ :=
  { f with objects, clients := Function.update f.clients i client }

/-- A fleet in which a session has been handed out. -/
def give (f : Fleet σ) (s : Session) : Fleet σ :=
  { f with
    handles := s :: f.handles
    contents := Function.update f.contents s.object s.content }

/-- A fleet after an operation of a client. A session that the operation hands out is a handle. -/
def operated (E : Engine σ) (f : Fleet σ) (i : ℕ) (op : Link.Operation) : Fleet σ :=
  match f.clients i with
  | none => f
  | some (c, p) =>
    let (outcome, l) := Link.perform E ⟨c, p, f.objects⟩ op
    let f := f.withClient i (some (l.connection, l.pipe)) l.objects
    match outcome.session? with
    | some s => f.give s
    | none => f

/-- A fleet after the owner of the other end has acted on the pipe of a client. -/
def pumped (f : Fleet σ) (i : ℕ) (action : Pipe.Action) : Fleet σ :=
  match f.clients i with
  | none => f
  | some (c, p) => f.withClient i (some (c, (p.step ⟨.caller, action⟩).2)) f.objects

/-- A fleet after a client has been dropped, however far it had come. -/
def dropped (E : Engine σ) (f : Fleet σ) (i : ℕ) : Fleet σ :=
  match f.clients i with
  | none => f
  | some (c, p) => f.withClient i none (Link.discard E ⟨c, p, f.objects⟩).2

/-- **Everything that can happen.** Each connection has an engine of its own, so that no two need
behave alike. The last two are what an engine does behind the program's back. -/
inductive Step (E : ℕ → Engine σ) (holds : σ → Set ObjectId) (f : Fleet σ) : Fleet σ → Prop
  /-- A handle is cloned; the clone shares the object. -/
  | clone (h : Session) (hh : h ∈ f.handles) : Step E holds f { f with handles := h :: f.handles }
  /-- A handle is read from its written form. -/
  | decode (der : Bytes) (s : Session) (objects : SessionObjects)
      (hd : Session.ofDer? der f.objects = some (s, objects)) :
      Step E holds f (give { f with objects } s)
  /-- A configuration is begun. -/
  | draft : Step E holds f { f with configs := .initial :: f.configs }
  /-- A setting is made; a session to resume comes from a handle. -/
  | set (sc : Screening) (setting : Setting) (config config' : Config) (hc : config ∈ f.configs)
      (hs : ∀ s, setting = .session s → s ∈ f.handles)
      (ha : setting.apply sc config = .accepted config') :
      Step E holds f { f with configs := config' :: f.configs }
  /-- A connection is made. -/
  | connect (i : ℕ) (config : Config) (side : Side) (c : Connection σ) (p : Pipe)
      (hi : f.clients i = none) (hc : config ∈ f.configs)
      (hk : Connection.ofConfig config side = .ok c) :
      Step E holds f (f.withClient i (some (c, p)) f.objects)
  | operate (i : ℕ) (op : Link.Operation)
      (hop : ∀ config, op = .configure config → config ∈ f.configs) :
      Step E holds f (f.operated (E i) i op)
  | pump (i : ℕ) (action : Pipe.Action) : Step E holds f (f.pumped i action)
  | drop (i : ℕ) : Step E holds f (f.dropped (E i) i)
  /-- An engine declares an object that it holds unfit for resumption. -/
  | spoil (i : ℕ) (id : ObjectId) (h : id ∈ f.held holds i) :
      Step E holds f { f with objects := f.objects.retire id }
  /-- An engine writes into an object that it holds. -/
  | rewrite (i : ℕ) (id : ObjectId) (content : SessionContent) (h : id ∈ f.held holds i) :
      Step E holds f { f with contents := Function.update f.contents id content }

/-- **A run**, of any length. -/
def Run (E : ℕ → Engine σ) (holds : σ → Set ObjectId) : Fleet σ → Fleet σ → Prop :=
  Relation.ReflTransGen (Step E holds)

/-! ### The invariant -/

/-- **A fleet in order.** -/
structure Sound (holds : σ → Set ObjectId) (f : Fleet σ) : Prop where
  /-- The objects of handles have been made. -/
  handle_lt : ∀ h ∈ f.handles, h.object < f.objects.next
  /-- So have those that engines hold. -/
  held_lt : ∀ i, ∀ id ∈ f.held holds i, id < f.objects.next
  /-- So have those that are spoilt. -/
  retired_lt : ∀ id ∈ f.objects.retired, id < f.objects.next
  /-- No engine holds an object of a handle. -/
  apart : ∀ h ∈ f.handles, ∀ i, h.object ∉ f.held holds i
  /-- No two engines hold the same object. -/
  pairwise : ∀ i j, i ≠ j → ∀ id ∈ f.held holds i, id ∉ f.held holds j
  /-- No object of a handle is spoilt. -/
  unspoilt : ∀ h ∈ f.handles, h.object ∉ f.objects.retired
  /-- A handle reads as it did when it was made. -/
  now : ∀ h ∈ f.handles, f.now h = h
  /-- A session to resume is one of the handles. -/
  session : ∀ config ∈ f.configs, ∀ s, config.session = some s → s ∈ f.handles
  /-- The configuration of a connection is one of the configurations. -/
  config : ∀ i c p, f.clients i = some (c, p) → c.config ∈ f.configs

section Updates

variable {holds : σ → Set ObjectId} {f : Fleet σ} {i j : ℕ}
  {client : Option (Connection σ × Pipe)} {objects : SessionObjects}

theorem held_of_client {c : Connection σ} {p : Pipe} (hi : f.clients i = some (c, p)) :
    f.held holds i = c.held holds := by
  rw [held, hi, heldBy]

theorem held_withClient_self :
    (f.withClient i client objects).held holds i = heldBy holds client := by
  simp only [held, withClient, Function.update_self]

theorem held_withClient_of_ne (h : j ≠ i) :
    (f.withClient i client objects).held holds j = f.held holds j := by
  simp only [held, withClient, Function.update_of_ne h]

/-- Putting the client that there is in its place changes the objects alone. -/
theorem withClient_eq_self : f.withClient i (f.clients i) objects = { f with objects } := by
  rw [withClient, Function.update_eq_self]

end Updates

namespace Sound

variable {holds : σ → Set ObjectId} {f : Fleet σ} {i : ℕ}

theorem start (contents : ObjectId → SessionContent) : Sound holds (start contents) where
  handle_lt _ hh := absurd hh List.not_mem_nil
  held_lt _ _ hid := absurd hid (Set.notMem_empty _)
  retired_lt _ hid := absurd hid List.not_mem_nil
  apart _ hh := absurd hh List.not_mem_nil
  pairwise _ _ _ _ hid := absurd hid (Set.notMem_empty _)
  unspoilt _ hh := absurd hh List.not_mem_nil
  now _ hh := absurd hh List.not_mem_nil
  session _ hc := absurd hc List.not_mem_nil
  config _ _ _ hi := by cases hi

/-- **What one engine does leaves a fleet in order** if it keeps to its estate: what it comes to
hold is new, and so held by nobody else. -/
theorem withClient (hf : f.Sound holds) {client : Option (Connection σ × Pipe)}
    {objects : SessionObjects}
    (hy : Estate.Yields ⟨f.held holds i, f.objects⟩ ⟨heldBy holds client, objects⟩)
    (hc : ∀ c p, client = some (c, p) → c.config ∈ f.configs) :
    (f.withClient i client objects).Sound holds := by
  -- an engine holds what it held, and new objects if it is the one that acts
  have hheld {j : ℕ} {id : ObjectId} (hid : id ∈ (f.withClient i client objects).held holds j) :
      id ∈ f.held holds j ∨ (j = i ∧ id ∈ Set.Ico f.objects.next objects.next) := by
    rcases eq_or_ne j i with rfl | hne
    · rw [held_withClient_self] at hid
      exact (hy.holds id hid).imp_right fun h => ⟨rfl, h⟩
    · rw [held_withClient_of_ne hne] at hid
      exact Or.inl hid
  refine ⟨fun h hh => (hf.handle_lt h hh).trans_le hy.next, fun j id hid => ?_, fun id hid => ?_,
    fun h hh j hid => ?_, fun j k hjk id hj hk => ?_, fun h hh hid => ?_, hf.now, hf.session,
    fun j c p hj => ?_⟩
  · rcases hheld hid with hid | ⟨-, hid⟩
    · exact (hf.held_lt j id hid).trans_le hy.next
    · exact hid.2
  · rcases hy.retired id hid with hid | hid | hid
    · exact (hf.retired_lt id hid).trans_le hy.next
    · exact (hf.held_lt i id hid).trans_le hy.next
    · exact hid.2
  · rcases hheld hid with hid | ⟨-, hid⟩
    · exact hf.apart h hh j hid
    · exact (hf.handle_lt h hh).not_ge hid.1
  · rcases hheld hj with oldj | ⟨hji, newj⟩ <;> rcases hheld hk with oldk | ⟨hki, newk⟩
    · exact hf.pairwise j k hjk id oldj oldk
    · exact (hf.held_lt j id oldj).not_ge newk.1
    · exact (hf.held_lt k id oldk).not_ge newj.1
    · exact hjk (hji.trans hki.symm)
  · rcases hy.retired _ hid with hid | hid | hid
    · exact hf.unspoilt h hh hid
    · exact hf.apart h hh i hid
    · exact (hf.handle_lt h hh).not_ge hid.1
  · rcases eq_or_ne j i with rfl | hne
    · exact hc c p (by simpa [Fleet.withClient] using hj)
    · exact hf.config j c p (by simpa [Fleet.withClient, hne] using hj)

/-- What happens to the objects alone, within the estate of one engine. -/
theorem withObjects (hf : f.Sound holds) {objects : SessionObjects}
    (hy : Estate.Yields ⟨f.held holds i, f.objects⟩ ⟨f.held holds i, objects⟩) :
    Sound holds { f with objects } := by
  rw [← withClient_eq_self (i := i)]
  exact hf.withClient hy (hf.config i)

/-- **Handing out a new object leaves a fleet in order.** -/
theorem give (hf : f.Sound holds) {s : Session} (hs : s.object = f.objects.next) :
    Sound holds (Fleet.give { f with objects := f.objects.fresh.2 } s) := by
  -- the object is new, so nobody has it
  have hne {h : Session} (hh : h ∈ f.handles) : h.object ≠ s.object :=
    hs ▸ (hf.handle_lt h hh).ne
  have hlt {id : ObjectId} (h : id < f.objects.next) : id < f.objects.next + 1 :=
    Nat.lt_succ_of_lt h
  refine ⟨fun h hh => ?_, fun i id hid => hlt (hf.held_lt i id hid),
    fun id hid => hlt (hf.retired_lt id hid), fun h hh i hid => ?_, hf.pairwise, fun h hh hid => ?_,
    fun h hh => ?_, fun config hc s' hs' => List.mem_cons_of_mem s (hf.session config hc s' hs'),
    hf.config⟩
  all_goals rcases List.mem_cons.mp hh with rfl | hh
  · exact hs ▸ Nat.lt_succ_self _
  · exact hlt (hf.handle_lt h hh)
  · exact (hf.held_lt i _ hid).ne hs
  · exact hf.apart h hh i hid
  · exact (hf.retired_lt _ hid).ne hs
  · exact hf.unspoilt h hh hid
  · simp [Fleet.now, Fleet.give]
  · have hnow := hf.now h hh
    simpa [Fleet.now, Fleet.give, hne hh] using hnow

/-- Writing into an object that an engine holds does not touch a handle. -/
theorem rewrite (hf : f.Sound holds) {id : ObjectId} (hid : id ∈ f.held holds i)
    (content : SessionContent) :
    Sound holds { f with contents := Function.update f.contents id content } := by
  refine { hf with now := fun h hh => ?_ }
  have hne : h.object ≠ id := fun he => hf.apart h hh i (he ▸ hid)
  have hnow := hf.now h hh
  simpa [Fleet.now, hne] using hnow

/-- A clone of a handle is a handle like it. -/
theorem clone (hf : f.Sound holds) {h : Session} (hh : h ∈ f.handles) :
    Sound holds { f with handles := h :: f.handles } := by
  have hmem {h' : Session} (h : h' ∈ h :: f.handles) : h' ∈ f.handles :=
    (List.mem_cons.mp h).elim (fun he => he ▸ hh) fun h => h
  exact { hf with
    handle_lt := fun h' hh' => hf.handle_lt h' (hmem hh')
    apart := fun h' hh' => hf.apart h' (hmem hh')
    unspoilt := fun h' hh' => hf.unspoilt h' (hmem hh')
    now := fun h' hh' => hf.now h' (hmem hh')
    session := fun config hc s hs => List.mem_cons_of_mem h (hf.session config hc s hs) }

/-- One more configuration does no harm if its session is one of the handles. -/
theorem addConfig (hf : f.Sound holds) {config : Config}
    (hc : ∀ s, config.session = some s → s ∈ f.handles) :
    Sound holds { f with configs := config :: f.configs } := by
  refine { hf with
    session := fun config' hc' s hs => ?_
    config := fun i c p hi => List.mem_cons_of_mem config (hf.config i c p hi) }
  rcases List.mem_cons.mp hc' with rfl | hc'
  · exact hc s hs
  · exact hf.session config' hc' s hs

section Operations

variable {E : Engine σ} (hE : E.Confined holds)
include hE

/-- An operation leaves a fleet in order: it acts through the engine of its client, or hands out a
session. -/
theorem operated (hf : f.Sound holds) {op : Link.Operation}
    (hop : ∀ config, op = .configure config → config ∈ f.configs) :
    (f.operated E i op).Sound holds := by
  rcases hi : f.clients i with _ | ⟨c, p⟩
  · simpa only [Fleet.operated, hi] using hf
  set l : Link σ := ⟨c, p, f.objects⟩ with hl
  rcases hs : (l.perform E op).1.session? with _ | s
  · simp only [Fleet.operated, hi, ← hl, hs]
    refine hf.withClient ?_ fun c' p' hc' => ?_
    · rw [held_of_client hi]
      exact Link.perform_yields hE l op
    · obtain ⟨rfl, rfl⟩ := Prod.mk.inj (Option.some.inj hc')
      rcases Link.perform_config hE l op with hsame | hput
      · rw [hsame]
        exact hf.config i c p hi
      · exact hop _ hput
  · -- the client is left as it was, so the session is all that changes
    obtain ⟨hlink, hobject⟩ := Link.perform_of_session hs
    simp only [Fleet.operated, hi, ← hl, hs, hlink]
    rw [hl, ← hi, withClient_eq_self]
    exact hf.give hobject

omit hE in
/-- The owner of the other end touches no object. -/
theorem pumped (hf : f.Sound holds) (action : Pipe.Action) : (f.pumped i action).Sound holds := by
  rcases hi : f.clients i with _ | ⟨c, p⟩
  · simpa only [Fleet.pumped, hi] using hf
  simp only [Fleet.pumped, hi]
  refine hf.withClient (.shrink ?_) fun c' p' h => ?_
  · rw [held_of_client hi]
    exact subset_rfl
  · obtain ⟨rfl, rfl⟩ := Prod.mk.inj (Option.some.inj h)
    exact hf.config i c p hi

/-- Dropping a connection spoils what its engine held and nothing else. -/
theorem dropped (hf : f.Sound holds) : (f.dropped E i).Sound holds := by
  rcases hi : f.clients i with _ | ⟨c, p⟩
  · simpa only [Fleet.dropped, hi] using hf
  simp only [Fleet.dropped, hi]
  refine hf.withClient ?_ fun c' p' h => by cases h
  rw [held_of_client hi]
  exact Link.discard_yields hE ⟨c, p, f.objects⟩

end Operations

section Runs

variable {E : ℕ → Engine σ} (hE : ∀ i, (E i).Confined holds) {f' : Fleet σ}
include hE

/-- **Every step leaves a fleet in order.** -/
theorem step (hf : f.Sound holds) (h : Step E holds f f') : f'.Sound holds := by
  cases h with
  | clone h hh => exact hf.clone hh
  | decode der s objects hd =>
    obtain ⟨hobject, rfl⟩ := Session.ofDer?_eq hd
    exact hf.give hobject
  | draft => exact hf.addConfig fun s hs => by cases hs
  | set sc setting config config' hc hs ha =>
    refine hf.addConfig fun s hs' => ?_
    rcases Setting.apply_session ha with hsame | ⟨s', rfl, hsome⟩
    · exact hf.session config hc s (hsame.symm.trans hs')
    · obtain rfl := Option.some.inj (hsome.symm.trans hs')
      exact hs _ rfl
  | connect i config side c p hi hc hk =>
    obtain rfl := Connection.eq_fresh_of_ofConfig hk
    refine hf.withClient (.shrink (Set.empty_subset _)) fun c' p' h => ?_
    obtain ⟨rfl, rfl⟩ := Prod.mk.inj (Option.some.inj h)
    exact hc
  | operate i op hop => exact hf.operated (hE i) hop
  | pump i action => exact hf.pumped action
  | drop i => exact hf.dropped (hE i)
  | spoil i id h => exact hf.withObjects (.retire h)
  | rewrite i id content h => exact hf.rewrite h content

/-- **Every run leaves a fleet in order.** -/
theorem run (hf : f.Sound holds) (h : Run E holds f f') : f'.Sound holds := by
  induction h with
  | refl => exact hf
  | tail _ hstep ih => exact ih.step hE hstep

end Runs

end Sound

/-! ### Isolation -/

section Isolation

variable {holds : σ → Set ObjectId} {E : ℕ → Engine σ} {f f' : Fleet σ}

/-- A step takes no handle away. -/
theorem Step.handles_subset (h : Step E holds f f') : f.handles ⊆ f'.handles := by
  have hgive (f : Fleet σ) (s : Session) : f.handles ⊆ (f.give s).handles :=
    List.subset_cons_self s f.handles
  cases h with
  | clone h _ => exact List.subset_cons_self h f.handles
  | decode _ s objects _ => exact hgive { f with objects } s
  | operate i op _ =>
    unfold operated
    split
    · exact List.Subset.refl _
    · simp only
      split
      · exact hgive _ _
      · exact List.Subset.refl _
  | pump i _ =>
    unfold pumped
    split <;> exact List.Subset.refl _
  | drop i =>
    unfold dropped
    split <;> exact List.Subset.refl _
  | _ => exact List.Subset.refl _

theorem Run.handles_subset (h : Run E holds f f') : f.handles ⊆ f'.handles := by
  induction h with
  | refl => exact List.Subset.refl _
  | tail _ hstep ih => exact List.Subset.trans ih hstep.handles_subset

/-- **Handles and engines do not meet.** -/
structure Isolated (holds : σ → Set ObjectId) (f : Fleet σ) : Prop where
  /-- No engine holds an object that a handle or a configuration leads to. -/
  apart : ∀ id ∈ f.reachable, ∀ i, id ∉ f.held holds i
  /-- No two engines hold the same object. -/
  pairwise : ∀ i j, i ≠ j → ∀ id ∈ f.held holds i, id ∉ f.held holds j

theorem Sound.isolated (hf : f.Sound holds) : f.Isolated holds := by
  refine ⟨fun id hid i hheld => ?_, hf.pairwise⟩
  have hconfig (config : Config) (hc : f.HasConfig config) : config ∈ f.configs := by
    rcases hc with hc | ⟨i, c, p, hi, rfl⟩
    · exact hc
    · exact hf.config i c p hi
  rcases hid with ⟨h, hh, rfl⟩ | ⟨config, hc, hid⟩
  · exact hf.apart h hh i hheld
  · obtain ⟨s, hs, rfl⟩ := Option.map_eq_some_iff.mp hid
    exact hf.apart s (hf.session config (hconfig config hc) s hs) i hheld

/-- **A handle is as it was** in another fleet: it is there, can be resumed, and reads the same. -/
structure Keeps (f f' : Fleet σ) (h : Session) : Prop where
  mem : h ∈ f'.handles
  resumable : f'.objects.isResumable h.object = true
  toDer : (f'.now h).toDer = (f.now h).toDer
  id : (f'.now h).id = (f.now h).id
  maxEarlyData : (f'.now h).maxEarlyData = (f.now h).maxEarlyData
  version : (f'.now h).version? = (f.now h).version?

theorem Sound.keeps (hf : f.Sound holds) (hf' : f'.Sound holds) (hsub : f.handles ⊆ f'.handles)
    {h : Session} (hh : h ∈ f.handles) : f.Keeps f' h := by
  have hnow : f'.now h = f.now h := (hf'.now h (hsub hh)).trans (hf.now h hh).symm
  refine ⟨hsub hh, ?_, by rw [hnow], by rw [hnow], by rw [hnow], by rw [hnow]⟩
  simpa [SessionObjects.isResumable] using hf'.unspoilt h (hsub hh)

/-- **Sessions are isolated from engines.** Over any engines that reach no other objects than those
they make and are handed, and in any run of any number of connections: no engine holds an object
that a handle or a configuration leads to, and no two engines hold the same one. Therefore a handle,
once there, reads the same for ever and can always be resumed, whatever becomes of the
connections. -/
theorem sessions_isolated (E : ℕ → Engine σ) (hE : ∀ i, (E i).Confined holds)
    (contents : ObjectId → SessionContent) (hf : Run E holds (start contents) f) :
    f.Isolated holds ∧ ∀ f', Run E holds f f' → ∀ h ∈ f.handles, f.Keeps f' h := by
  have hsound := (Sound.start contents).run hE hf
  exact ⟨hsound.isolated, fun f' hf' h hh =>
    hsound.keeps (hsound.run hE hf') hf'.handles_subset hh⟩

end Isolation

/-! ### An engine that spoils its session -/

/-- An engine that has shaken hands at once. It has the session that it is given or makes one, and
spoils it when it is given up. -/
def keeper (content : SessionContent) : Engine (Option Session) :=
  { Engine.waiting none with
    prepare? := fun _ session _ => some session
    handshake := fun
      | some s => .done (.done (), some s)
      | none => .makeObject fun id => .done (.done (), some ⟨id, content⟩)
    session := fun session => session
    discard := fun
      | some s => .retireObject s.object (.done ())
      | none => .done () }

theorem keeper_confined (content : SessionContent) : (keeper content).Confined objectOf where
  build _ _ h := by
    obtain rfl := Option.some.inj h
    exact Set.eq_empty_of_forall_notMem fun id hid => by cases hid
  prepare _ _ _ _ h := by
    obtain rfl := Option.some.inj h
    exact Set.subset_union_right
  attach _ _ h := by
    obtain rfl := Option.some.inj h
    exact subset_rfl
  call _ hcall s := by
    cases hcall with
    | handshake =>
      rcases s with _ | s
      · intro id id' hid
        obtain rfl : id = id' := Option.some.inj hid
        exact Or.inl rfl
      · exact fun _ hid => hid
    | _ => exact fun _ hid => hid
  renegotiate _ := subset_rfl
  discard s := by
    rcases s with _ | s
    · exact Set.empty_subset _
    · exact ⟨rfl, Set.empty_subset _⟩

/-- What the sessions of the engine hold. -/
def keptContent : SessionContent :=
  { SessionContent.blank 0x0304 0x1301 [7] [9] with
    time := SessionContent.unknownTime
    timeout := 3 }

/-- The first session that is taken from the engine, when the engine has made one object. -/
def kept : Session := ⟨1, keptContent⟩

/-- A connection has shaken hands, and its session has been taken. -/
def taken : Fleet (Option Session) :=
  let f : Fleet (Option Session) := { start fun _ => keptContent with configs := [.initial] }
  let f := f.withClient 0 (some (.fresh .initial, .default)) f.objects
  (f.operated (keeper keptContent) 0 .advanceHandshake).operated (keeper keptContent) 0
    (.ask .session)

theorem kept_mem : kept ∈ taken.handles := by decide +kernel

theorem run_taken :
    Run (fun _ => keeper keptContent) objectOf (start fun _ => keptContent) taken :=
  (((Relation.ReflTransGen.refl.tail .draft).tail
    (.connect 0 .initial .engine (.fresh .initial) .default rfl List.mem_cons_self rfl)).tail
      (.operate 0 .advanceHandshake fun _ h => by cases h)).tail
        (.operate 0 (.ask .session) fun _ h => by cases h)

/-- A configuration with this session to resume. -/
def resuming : Config := { Config.initial with session := some kept }

/-- Another connection has resumed the session, and both have been dropped without being closed. -/
def resumed : Fleet (Option Session) :=
  let f := { taken with configs := resuming :: taken.configs }
  let f := f.withClient 1 (some (.fresh resuming, .default)) f.objects
  let f := f.operated (keeper keptContent) 1 .advanceHandshake
  (f.dropped (keeper keptContent) 0).dropped (keeper keptContent) 1

theorem run_resumed : Run (fun _ => keeper keptContent) objectOf taken resumed := by
  have hset : Step (fun _ => keeper keptContent) objectOf taken
      { taken with configs := resuming :: taken.configs } :=
    .set Policy.screening (.session kept) .initial resuming List.mem_cons_self
      (fun s hs => Setting.session.inj hs ▸ kept_mem) rfl
  exact ((((Relation.ReflTransGen.single hset).tail
    (.connect 1 resuming .engine (.fresh resuming) .default rfl List.mem_cons_self rfl)).tail
      (.operate 1 .advanceHandshake fun _ h => by cases h)).tail (.drop 0)).tail (.drop 1)

/-- Dropping them spoils the session object of each, and the handle is as it was. -/
theorem keeper_keeps :
    (keeper keptContent).Confined objectOf ∧
      Run (fun _ => keeper keptContent) objectOf (start fun _ => keptContent) taken ∧
      Run (fun _ => keeper keptContent) objectOf taken resumed ∧ resumed.objects.retired = [2, 0] ∧
      taken.Isolated objectOf ∧ taken.Keeps resumed kept := by
  have hE := keeper_confined keptContent
  obtain ⟨hisolated, hkeeps⟩ := sessions_isolated _ (fun _ => hE) _ run_taken
  exact ⟨hE, run_taken, run_resumed, by decide +kernel, hisolated,
    hkeeps resumed run_resumed kept kept_mem⟩

end Fleet

end SocketlessTls
