import Mathlib.Data.List.Forall2
import SocketlessTls.Proofs.Config.Setting
import SocketlessTls.Proofs.Net.Written
import SocketlessTls.Proofs.Text.Utf8
import SocketlessTls.X509.Certificate

/-!
# What is shown of alternative names

The alternative names of a certificate are shown as texts, with a word in front that says what kind
of name it is. Whoever looks at the texts looks at nothing else, so nothing may be lost in them and
nothing confused. **A text stands for one name only, and a row of texts for one row of names**
(`SocketlessTls.X509.altNames_shown`): names of a host are told apart by what they say, addresses by
their bytes, and the two kinds by the word in front.

Names of which nothing is shown are left out: a host name that is no text, an address of another
size than the two there are, and all other kinds.

* `SocketlessTls.X509.AltName.IsShown`, `Shows` – which names are shown, and how;
* `SocketlessTls.X509.AltName.text?_eq_some_iff` – what the text of a name says;
* `SocketlessTls.X509.AltName.Shows.unique` – what a text says of the name.
-/

namespace SocketlessTls.X509

namespace AltName

/-- **The names that are shown**: host names that are texts, and addresses of four or sixteen
bytes. -/
def IsShown : AltName → Prop
  | .dns bytes => ∃ s, Bytes.ofString s = bytes
  | .ip bytes => bytes.length = 4 ∨ bytes.length = 16
  | .other => False

/-- **How a name is shown.** -/
inductive Shows : AltName → String → Prop
  | dns (s : String) : Shows (.dns (Bytes.ofString s)) ("DNS:" ++ s)
  | ip {a : Net.Address} (h : a.IsComplete) : Shows (.ip a.bytes) ("IP:" ++ a.text)

/-- **The text of a name is what shows it.** -/
theorem text?_eq_some_iff (name : AltName) (t : String) : name.text? = some t ↔ name.Shows t := by
  cases name with
  | dns bytes =>
    simp only [text?, Option.map_eq_some_iff, Text.utf8?_eq_some_iff]
    constructor
    · rintro ⟨s, rfl, rfl⟩
      exact .dns s
    · rintro ⟨s⟩
      exact ⟨s, rfl, rfl⟩
  | ip bytes =>
    simp only [text?, Option.map_eq_some_iff, Net.Address.ofBytes?_eq_some_iff]
    constructor
    · rintro ⟨a, ⟨hcomplete, rfl⟩, rfl⟩
      exact .ip hcomplete
    · rintro (_ | hcomplete)
      exact ⟨_, ⟨hcomplete, rfl⟩, rfl⟩
  | other => exact iff_of_false nofun nofun

/-- The names that are shown are those that have a text. -/
theorem isSome_text?_iff (name : AltName) : name.text?.isSome = true ↔ name.IsShown := by
  cases name with
  | dns bytes =>
    simp only [text?, Option.isSome_map, Option.isSome_iff_exists, Text.utf8?_eq_some_iff, IsShown]
  | ip bytes =>
    rw [text?, Option.isSome_map, Net.Address.isSome_ofBytes?_iff]
    rfl
  | other => exact iff_of_false Bool.false_ne_true id

instance (name : AltName) : Decidable name.IsShown := decidable_of_iff _ name.isSome_text?_iff

/-- The words in front tell the kinds apart. -/
theorem dns_ne_ip (s t : String) : "DNS:" ++ s ≠ "IP:" ++ t := by
  intro h
  have hfirst := congrArg (fun s : String => s.toList.head?) h
  simp at hfirst

/-- **A text shows one name only.** -/
theorem Shows.unique {name name' : AltName} {t : String} (h : name.Shows t) (h' : name'.Shows t) :
    name = name' := by
  cases h with
  | dns s =>
    generalize ht : "DNS:" ++ s = t at h'
    cases h' with
    | dns s' => rw [(String.append_right_inj _).mp ht]
    | ip hcomplete => exact absurd ht (dns_ne_ip _ _)
  | @ip a hcomplete =>
    generalize ht : "IP:" ++ a.text = t at h'
    cases h' with
    | dns s => exact absurd ht.symm (dns_ne_ip _ _)
    | ip hcomplete' =>
      rw [Net.Address.text_injective hcomplete hcomplete' ((String.append_right_inj _).mp ht)]

end AltName

/-! ### Rows of names -/

/-- **Every name that is shown has its text**, in the order of the names, and no other name has
one. -/
theorem altNameTexts_shows (names : List AltName) :
    List.Forall₂ AltName.Shows (names.filter fun name => name.IsShown) (altNameTexts names) := by
  induction names with
  | nil => exact .nil
  | cons name names ih =>
    rw [altNameTexts, List.filterMap_cons]
    rcases ht : name.text? with _ | t
    · have hno : ¬name.IsShown := by
        rw [← name.isSome_text?_iff, ht]
        exact Bool.false_ne_true
      rwa [List.filter_cons_of_neg (by simpa using hno)]
    · have hshown : name.IsShown := by
        rw [← name.isSome_text?_iff, ht]
        rfl
      rw [List.filter_cons_of_pos (by simpa using hshown)]
      exact .cons ((name.text?_eq_some_iff t).mp ht) ih

/-- **A row of texts shows one row of names only.** -/
theorem forall₂_shows_unique {names names' : List AltName} {texts : List String}
    (h : List.Forall₂ AltName.Shows names texts) (h' : List.Forall₂ AltName.Shows names' texts) :
    names = names' := by
  induction h generalizing names' with
  | nil =>
    cases h'
    rfl
  | cons hshows _ ih =>
    cases h' with
    | cons hshows' hrest' => rw [hshows.unique hshows', ih hrest']

/-- An address is refused as the name of a server. -/
theorem refused_of_parse? {s : String} {a : Net.Address} (h : Net.Address.parse? s = some a)
    (sc : Screening) (c : Config) :
    (Setting.serverName s).run sc c =
      (.error (.refused (.configuration (.invalidServerName s))), c) := by
  have hinvalid : ¬ServerName.isValid s = true := by
    simp [ServerName.isValid, h]
  rw [Setting.run_eq, Setting.apply, if_neg hinvalid]
  rfl

/-- **What is shown of alternative names says what they are.** Every name that is shown has one
text, in the order of the names, and rows of such names have different texts if they are different.
And the text of an address is read as that address again, so that it is no name by which a server
can be asked for. -/
theorem altNames_shown :
    (∀ names : List AltName,
      List.Forall₂ AltName.Shows (names.filter fun name => name.IsShown) (altNameTexts names)) ∧
    (∀ names names' : List AltName, (∀ name ∈ names, name.IsShown) →
      (∀ name ∈ names', name.IsShown) → altNameTexts names = altNameTexts names' →
      names = names') ∧
    ∀ bytes : Bytes, (AltName.ip bytes).IsShown → ∃ a : Net.Address, a.bytes = bytes ∧
      (AltName.ip bytes).text? = some ("IP:" ++ a.text) ∧ Net.Address.parse? a.text = some a ∧
      ∀ (sc : Screening) (c : Config), (Setting.serverName a.text).run sc c =
        (.error (.refused (.configuration (.invalidServerName a.text))), c) := by
  refine ⟨altNameTexts_shows, fun names names' hnames hnames' h => ?_, fun bytes h => ?_⟩
  · have hall : ∀ {names : List AltName}, (∀ name ∈ names, name.IsShown) →
        names.filter (fun name => name.IsShown) = names := fun hshown =>
      List.filter_eq_self.mpr fun name hmem => by simpa using hshown name hmem
    have hshows := altNameTexts_shows names
    have hshows' := altNameTexts_shows names'
    rw [hall hnames, h] at hshows
    rw [hall hnames'] at hshows'
    exact forall₂_shows_unique hshows hshows'
  · obtain ⟨a, ha⟩ := Option.isSome_iff_exists.mp ((Net.Address.isSome_ofBytes?_iff bytes).mpr h)
    obtain ⟨hcomplete, hbytes⟩ := Net.Address.ofBytes?_eq_some_iff.mp ha
    have hread := Net.Address.parse?_text hcomplete
    have htext : (AltName.ip bytes).text? = some ("IP:" ++ a.text) := by
      rw [AltName.text?, ha]
      rfl
    exact ⟨a, hbytes, htext, hread, refused_of_parse? hread⟩

/-- An IPv4 address, and the IPv6 address that maps it. -/
theorem loopback_shown :
    altNameTexts [.dns [97], .ip [127, 0, 0, 1]] = ["DNS:a", "IP:127.0.0.1"] ∧
    altNameTexts [.ip [127, 0, 0, 1]] ≠
      altNameTexts [.ip [0, 0, 0, 0, 0, 0, 0, 0, 0, 0, 255, 255, 127, 0, 0, 1]] ∧
    ∃ a : Net.Address, a.bytes = [127, 0, 0, 1] ∧ Net.Address.parse? a.text = some a := by
  have hv4 : AltName.IsShown (.ip [127, 0, 0, 1]) := Or.inl rfl
  have hv6 : AltName.IsShown (.ip [0, 0, 0, 0, 0, 0, 0, 0, 0, 0, 255, 255, 127, 0, 0, 1]) :=
    Or.inr rfl
  obtain ⟨-, hinjective, haddress⟩ := altNames_shown
  refine ⟨by decide +kernel, fun h => ?_, ?_⟩
  · have hsame := hinjective _ _ (List.forall_mem_singleton.mpr hv4)
      (List.forall_mem_singleton.mpr hv6) h
    simp at hsame
  · obtain ⟨a, hbytes, -, hread, -⟩ := haddress _ hv4
    exact ⟨a, hbytes, hread⟩

end SocketlessTls.X509
