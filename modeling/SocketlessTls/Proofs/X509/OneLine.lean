import Mathlib.Data.List.Basic
import SocketlessTls.X509.OneLine

/-!
# What attribute types are called

The line of a name names the type of every attribute and falls back to the figures of the object
where the type has no short name. At least it is written that way. A registry that follows its
documentation, `SocketlessTls.X509.Registry.Documents`, gives all objects without a registration the
number that stands for no object, and *that number has a short name*, `UNDEF`. So **the figures are
never used** (`SocketlessTls.X509.Registry.line_keys`): all types without a registration are called
`UNDEF`, and names that differ in such types alone cannot be told apart.

Everything else is as it should be: no attribute is lost, they stand in their order, and a value
that is not text is read leniently.

* `SocketlessTls.X509.Name.lineWith` – the line of a name, with given names of the types;
* `SocketlessTls.X509.Name.lineWith_eq_iff` – how two ways to name the types are told apart;
* `SocketlessTls.X509.Registry.Documents.key_eq` – what a registry calls a type;
* `SocketlessTls.X509.Name.oneLine_eq` – the registry of this library.
-/

namespace SocketlessTls.X509

/-! ### Lines with given names of types -/

/-- **One attribute as it stands in a line**: the name of its type, and its text or else the lenient
reading of its bytes. -/
def Attribute.lineWith (key : ObjectId → String) (a : Attribute) : String :=
  "/" ++ key a.type ++ "=" ++ a.value.text?.getD (Text.utf8Lossy a.value.bytes)

/-- **All attributes in their order.** -/
def Name.lineWith (key : ObjectId → String) (n : Name) : String :=
  String.join (n.attributes.map (Attribute.lineWith key))

/-- The line of a name in a registry is the line with the names that the registry has. -/
theorem Name.lineIn_eq {ν : Type} (r : Registry ν) (n : Name) : n.lineIn r = n.lineWith r.key := by
  have hfold : ∀ (as : List Attribute) (line : String),
      as.foldl (fun line a => line ++ "/" ++ r.key a.type ++ "=" ++ a.value.display) line =
        line ++ String.join (as.map (Attribute.lineWith r.key)) := by
    intro as
    induction as with
    | nil => exact fun line => by simp [String.join]
    | cons a as ih =>
      intro line
      rw [List.foldl_cons, ih, List.map_cons, String.join_cons, Attribute.lineWith,
        StringValue.display]
      simp only [String.append_assoc]
  rw [Name.lineIn, hfold, String.empty_append, Name.lineWith]

/-- **Names of one attribute each, with the same value**, are told apart by the names of their types
and by nothing else. -/
theorem Name.lineWith_single_eq_iff (key : ObjectId → String) (s t : ObjectId) (v : StringValue) :
    Name.lineWith key ⟨[⟨s, v⟩]⟩ = Name.lineWith key ⟨[⟨t, v⟩]⟩ ↔ key s = key t := by
  simp only [Name.lineWith, List.map_cons, List.map_nil, String.join_cons, Attribute.lineWith,
    String.append_left_inj, String.append_right_inj]

/-- **Two ways to name the types give the same line exactly if they give the types in it the same
names**, if where the names differ they differ so that no continuation makes them the same. -/
theorem Name.lineWith_eq_iff {key key' : ObjectId → String} {n : Name}
    (hkeys : ∀ a ∈ n.attributes, key a.type = key' a.type ∨
      ∀ s t, key a.type ++ "=" ++ s ≠ key' a.type ++ "=" ++ t) :
    n.lineWith key = n.lineWith key' ↔ ∀ a ∈ n.attributes, key a.type = key' a.type := by
  obtain ⟨as⟩ := n
  simp only [Name.lineWith]
  induction as with
  | nil => exact iff_of_true rfl nofun
  | cons a as ih =>
    obtain ⟨ha, has⟩ := List.forall_mem_cons.mp hkeys
    rw [List.forall_mem_cons, ← ih has, List.map_cons, List.map_cons, String.join_cons,
      String.join_cons]
    rcases ha with heq | hne
    · rw [Attribute.lineWith, Attribute.lineWith, heq, String.append_right_inj]
      exact (and_iff_right rfl).symm
    · refine iff_of_false (fun h => ?_) fun h => hne "" "" (by rw [h.1])
      simp only [Attribute.lineWith, String.append_assoc, String.append_right_inj] at h
      exact hne _ _ (by simpa only [String.append_assoc] using h)

/-! ### What registries document -/

/-- **What a registry documents**, with the short names that it has for objects: an object has a
number of its own exactly if it is registered, and the number for no object has the short name
`UNDEF`. -/
structure Registry.Documents {ν : Type} (r : Registry ν) (registered? : ObjectId → Option String) :
    Prop where
  shortName : ∀ {object s}, registered? object = some s → r.shortName? (r.number object) = some s
  number_eq_iff : ∀ {object}, r.number object = r.undefined ↔ registered? object = none
  undefined : r.shortName? r.undefined = some "UNDEF"

namespace Registry

section Keys

variable {ν : Type} {r : Registry ν} {registered? : ObjectId → Option String}
  (h : r.Documents registered?)
include h

/-- **What a registry calls a type**: by its short name, or `UNDEF`. -/
theorem Documents.key_eq (object : ObjectId) :
    r.key object = (registered? object).getD "UNDEF" := by
  rcases hr : registered? object with _ | s
  · rw [key, h.number_eq_iff.mpr hr, h.undefined]
    rfl
  · rw [key, h.shortName hr]
    rfl

end Keys

/-- The registry of this library documents the short names that it has. -/
theorem builtin_documents : builtin.Documents ObjectId.shortName? where
  shortName {object s} hs := by
    have hnumber : builtin.number object = some object := if_pos (Option.isSome_of_eq_some hs)
    rw [hnumber]
    exact hs
  number_eq_iff {object} := by
    rcases hs : ObjectId.shortName? object with _ | s
    · exact iff_of_true (if_neg (by simp [hs])) rfl
    · have hnumber : builtin.number object = some object := if_pos (Option.isSome_of_eq_some hs)
      rw [hnumber]
      exact iff_of_false nofun nofun
  undefined := rfl

end Registry

/-- **The line of a name is the line in the registry of this library.** -/
theorem Name.oneLine_eq (n : Name) : n.oneLine = n.lineIn Registry.builtin := by
  have hkey : Registry.builtin.key = ObjectId.shortName :=
    funext fun object => Registry.builtin_documents.key_eq object
  rw [Name.lineIn_eq, hkey]
  rfl

/-! ### Figures -/

/-- Figures start with a figure, if there are any. -/
theorem ObjectId.dotted_cases (object : ObjectId) :
    object.dotted = "" ∨ ∃ c s, c.isDigit = true ∧ object.dotted.toList = c :: s := by
  cases object with
  | nil => exact Or.inl rfl
  | cons n arcs =>
    have hlist : (ObjectId.dotted (n :: arcs)).toList =
        ['.'].intercalate (Nat.toDigits 10 n :: arcs.map fun n => Nat.toDigits 10 n) := by
      simp [ObjectId.dotted, String.toList_intercalate, Nat.toList_repr, Function.comp_def]
    obtain ⟨c, cs, hc⟩ := List.exists_cons_of_ne_nil (Nat.toDigits_ne_nil (n := n) (b := 10))
    have hdigit : c.isDigit = true :=
      Nat.isDigit_of_mem_toDigits (by decide) (by decide) (hc ▸ List.mem_cons_self)
    rw [hc] at hlist
    cases arcs with
    | nil =>
      rw [List.map_nil, List.intercalate_singleton] at hlist
      exact Or.inr ⟨c, cs, hdigit, hlist⟩
    | cons m arcs =>
      rw [List.map_cons, List.intercalate_cons_cons] at hlist
      exact Or.inr ⟨c, _, hdigit, hlist⟩

/-- **Figures are never the name `UNDEF`**, whatever follows. -/
theorem ObjectId.undef_ne_dotted (object : ObjectId) (s t : String) :
    "UNDEF" ++ "=" ++ s ≠ object.dotted ++ "=" ++ t := by
  intro h
  replace h := congrArg (fun s : String => s.toList.head?) h
  rcases object.dotted_cases with he | ⟨c, cs, hdigit, hc⟩
  · rw [he] at h
    simp at h
  · obtain rfl : 'U' = c := by simpa [hc] using h
    cases hdigit

/-! ### The line of a name -/

/-- **In a line, all types without a registration are called `UNDEF`.** So the line is the one with
their figures only if there is no such type in it, and names of one attribute each are told apart by
the short names of their types, where `UNDEF` is the short name of all that have none. -/
theorem Registry.line_keys {ν : Type} (r : Registry ν) {registered? : ObjectId → Option String}
    (h : r.Documents registered?) :
    (∀ n : Name, n.lineIn r = n.lineWith fun object => (registered? object).getD "UNDEF") ∧
    (∀ n : Name, n.lineIn r = n.lineWith (fun object => (registered? object).getD object.dotted) ↔
      ∀ a ∈ n.attributes, registered? a.type ≠ none) ∧
    (∀ s t v, Name.lineIn r ⟨[⟨s, v⟩]⟩ = Name.lineIn r ⟨[⟨t, v⟩]⟩ ↔
      (registered? s).getD "UNDEF" = (registered? t).getD "UNDEF") := by
  have hkey : r.key = fun object => (registered? object).getD "UNDEF" := funext h.key_eq
  have hline : ∀ n : Name,
      n.lineIn r = n.lineWith fun object => (registered? object).getD "UNDEF" :=
    fun n => hkey ▸ n.lineIn_eq r
  refine ⟨hline, fun n => ?_, fun s t v => ?_⟩
  · rw [hline, Name.lineWith_eq_iff]
    · refine forall₂_congr fun a _ => ?_
      rcases registered? a.type with _ | s
      · refine iff_of_false (fun he => ObjectId.undef_ne_dotted a.type "" "" ?_) (fun hn => hn rfl)
        exact congrArg (fun s => s ++ "=" ++ "") he
      · exact iff_of_true rfl nofun
    · intro a _
      rcases registered? a.type with _ | s
      · exact Or.inr (ObjectId.undef_ne_dotted a.type)
      · exact Or.inl rfl
  · rw [hline, hline]
    exact Name.lineWith_single_eq_iff _ s t v

/-- Two types without a registration, and the same value for both. -/
theorem Registry.unregistered_types_alike :
    builtin.Documents ObjectId.shortName? ∧
    Name.oneLine ⟨[⟨[1, 2, 3], ⟨.utf8, [111, 100, 100]⟩⟩]⟩ = "/UNDEF=odd" ∧
    Name.oneLine ⟨[⟨[1, 2, 3], ⟨.utf8, [111, 100, 100]⟩⟩]⟩ =
      Name.oneLine ⟨[⟨[1, 2, 4], ⟨.utf8, [111, 100, 100]⟩⟩]⟩ ∧
    Name.oneLine ⟨[⟨[1, 2, 3], ⟨.utf8, [111, 100, 100]⟩⟩]⟩ ≠
      Name.lineWith (fun object => (ObjectId.shortName? object).getD object.dotted)
        ⟨[⟨[1, 2, 3], ⟨.utf8, [111, 100, 100]⟩⟩]⟩ := by
  obtain ⟨-, hfigures, hsingle⟩ := line_keys builtin builtin_documents
  refine ⟨builtin_documents, by decide +kernel, ?_, fun h => ?_⟩
  · rw [Name.oneLine_eq, Name.oneLine_eq]
    exact (hsingle [1, 2, 3] [1, 2, 4] _).mpr rfl
  · rw [Name.oneLine_eq] at h
    exact (hfigures _).mp h _ List.mem_cons_self rfl

end SocketlessTls.X509
