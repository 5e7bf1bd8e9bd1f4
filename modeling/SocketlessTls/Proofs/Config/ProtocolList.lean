import SocketlessTls.Policy.Side
import SocketlessTls.Proofs.Config.Setting

/-!
# Lists of protocols on the wire

A client offers its protocols in one string of bytes: each protocol after a byte with its length,
and nothing between them. There is no mark where a protocol ends, so the string can be read only
because each length is right. It is, since a protocol that is accepted has at most 255 bytes. These
are bytes and not characters: the limit is on the length in UTF-8, which is what stands on the wire.

The reader `SocketlessTls.Alpn.decode?` fails where a length promises more than there is.
**It succeeds on the encodings of lists and on nothing else**
(`SocketlessTls.Alpn.decode?_eq_some_iff`), and returns the list that has been encoded.

* `SocketlessTls.Alpn.check_eq_none_iff` – which lists are accepted;
* `SocketlessTls.Alpn.decode?_append_encodeItems` – what has been read does not depend on what
  follows;
* `SocketlessTls.Alpn.encoding_uniquely_decodable` – accepted lists are read back, and different
  ones have different encodings.
-/

namespace SocketlessTls.Alpn

/-! ### Accepted lists -/

theorem isValid_iff (p : String) :
    isValid p = true ↔ 1 ≤ p.utf8ByteSize ∧ p.utf8ByteSize ≤ 255 := by
  rw [isValid, Bool.and_eq_true, decide_eq_true_eq, decide_eq_true_eq]

/-- **A list is accepted if there is something in it and each protocol has one to 255 bytes.** -/
theorem check_eq_none_iff (protocols : List String) :
    check protocols = none ↔ protocols ≠ [] ∧
      ∀ p ∈ protocols, 1 ≤ p.utf8ByteSize ∧ p.utf8ByteSize ≤ 255 := by
  have hfind : (protocols.find? fun p => !isValid p) = none ↔
      ∀ p ∈ protocols, 1 ≤ p.utf8ByteSize ∧ p.utf8ByteSize ≤ 255 := by
    simp only [List.find?_eq_none, Bool.not_eq_true', Bool.not_eq_false, isValid_iff]
  rcases protocols with _ | ⟨p, protocols⟩
  · exact iff_of_false nofun fun h => h.1 rfl
  · rw [check, List.isEmpty_cons, if_neg Bool.false_ne_true, Option.map_eq_none_iff, hfind]
    exact (and_iff_right (List.cons_ne_nil p protocols)).symm

/-- Setting a list of protocols succeeds if the list is accepted, and then it is the one that is
configured. -/
theorem run_alpn_iff (sc : Screening) (c : Config) (protocols : List String) :
    ((Setting.alpn protocols).run sc c).1 = .ok () ↔ check protocols = none ∧
      ((Setting.alpn protocols).run sc c).2 = { c with alpn := protocols } := by
  rw [Setting.run_eq, Setting.apply]
  rcases check protocols with _ | e
  · exact iff_of_true rfl ⟨rfl, rfl⟩
  · refine iff_of_false (fun hrun => ?_) (fun hrun => ?_)
    · cases hrun
    · cases hrun.1

/-- **The length byte of a protocol is its length**: the cast loses nothing. -/
theorem toNat_lengthByte {p : String} (h : p.utf8ByteSize ≤ 255) :
    (UInt8.ofNat (Bytes.ofString p).length).toNat = (Bytes.ofString p).length := by
  rw [Bytes.ofString_length]
  exact UInt8.toNat_ofNat_of_lt' (Nat.lt_succ_of_le h)

/-! ### Reading back -/

/-- One item is read, and then what follows it. -/
theorem decode?_item {p : Bytes} (hp : p.length ≤ 255) (rest : Bytes) :
    decode? (UInt8.ofNat p.length :: (p ++ rest)) = (decode? rest).map (p :: ·) := by
  have hlength : (UInt8.ofNat p.length).toNat = p.length :=
    UInt8.toNat_ofNat_of_lt' (Nat.lt_succ_of_le hp)
  have hfits : p.length ≤ (p ++ rest).length := by
    rw [List.length_append]
    exact Nat.le_add_right _ _
  rw [decode?, hlength, if_pos hfits, List.take_left, List.drop_left]

/-- **What has been read does not depend on what follows**, by induction on the list. -/
theorem decode?_append_encodeItems {items : List Bytes} (h : ∀ p ∈ items, p.length ≤ 255)
    (rest : Bytes) : decode? (encodeItems items ++ rest) = (decode? rest).map (items ++ ·) := by
  induction items with
  | nil => exact Option.map_id'.symm
  | cons p items ih =>
    obtain ⟨hp, hitems⟩ := List.forall_mem_cons.mp h
    have htext : encodeItems (p :: items) ++ rest =
        UInt8.ofNat p.length :: (p ++ (encodeItems items ++ rest)) := by
      simp [encodeItems]
    rw [htext, decode?_item hp, ih hitems, Option.map_map]
    rfl

/-- **The strings that can be read are the encodings of lists** of items of up to 255 bytes, and
what is read is the list. -/
theorem decode?_eq_some_iff (bs : Bytes) (items : List Bytes) :
    decode? bs = some items ↔ bs = encodeItems items ∧ ∀ p ∈ items, p.length ≤ 255 := by
  constructor
  · intro h
    -- along the reader: the end of the string, an item that is there, an item that is cut short
    induction bs using decode?.induct generalizing items with
    | case1 =>
      rw [decode?] at h
      obtain rfl := Option.some.inj h
      exact ⟨rfl, nofun⟩
    | case2 n rest hfits ih =>
      rw [decode?, if_pos hfits] at h
      obtain ⟨later, hlater, rfl⟩ := Option.map_eq_some_iff.mp h
      obtain ⟨hrest, hall⟩ := ih later hlater
      have hlength : (rest.take n.toNat).length = n.toNat := List.length_take_of_le hfits
      refine ⟨?_, List.forall_mem_cons.mpr ⟨?_, hall⟩⟩
      · rw [encodeItems, List.flatMap_cons, ← encodeItems, ← hrest, hlength, UInt8.ofNat_toNat,
          List.cons_append, List.take_append_drop]
      · have hlt := n.toNat_lt_size
        rw [hlength]
        exact Nat.le_of_lt_succ hlt
    | case3 n rest hno =>
      rw [decode?, if_neg hno] at h
      cases h
  · rintro ⟨rfl, hall⟩
    have hread := decode?_append_encodeItems hall []
    rw [List.append_nil, decode?] at hread
    rw [hread, Option.map_some, List.append_nil]

/-! ### Lists of protocols -/

/-- The encoding of two lists, one after the other, is that of the one and then that of the
other. -/
theorem encode_append (p q : List String) : encode (p ++ q) = encode p ++ encode q := by
  rw [encode, List.map_append, encodeItems, List.flatMap_append]
  rfl

/-- An accepted list is read back as it was. -/
theorem decode?_encode {protocols : List String} (h : check protocols = none) :
    decode? (encode protocols) = some (protocols.map Bytes.ofString) := by
  refine (decode?_eq_some_iff _ _).mpr ⟨rfl, fun bytes hbytes => ?_⟩
  obtain ⟨p, hp, rfl⟩ := List.mem_map.mp hbytes
  rw [Bytes.ofString_length]
  exact (((check_eq_none_iff protocols).mp h).2 p hp).2

/-- **The encoding of a list of protocols is uniquely decodable.** Whatever is configured by
a setting that succeeds is read back protocol by protocol, to the end of the string and not beyond
it; two such lists have the same encoding only if they are the same; and the encoding of two lists
that are appended is that of the one and then that of the other. -/
theorem encoding_uniquely_decodable (sc : Screening) (c : Config) :
    (∀ protocols, ((Setting.alpn protocols).run sc c).1 = .ok () →
      ((Setting.alpn protocols).run sc c).2.alpn = protocols ∧
      (∀ items, decode? (encode ((Setting.alpn protocols).run sc c).2.alpn) = some items ↔
        items = protocols.map Bytes.ofString) ∧
      ∀ rest, decode? (encode ((Setting.alpn protocols).run sc c).2.alpn ++ rest) =
        (decode? rest).map (protocols.map Bytes.ofString ++ ·)) ∧
    (∀ p q, ((Setting.alpn p).run sc c).1 = .ok () → ((Setting.alpn q).run sc c).1 = .ok () →
      (encode p = encode q ↔ p = q)) ∧
    ∀ p q, encode (p ++ q) = encode p ++ encode q := by
  refine ⟨fun protocols h => ?_, fun p q hp hq => ?_, encode_append⟩
  · obtain ⟨hcheck, hrun⟩ := (run_alpn_iff sc c protocols).mp h
    have hread := decode?_encode hcheck
    rw [hrun]
    refine ⟨rfl, fun items => ?_, ?_⟩
    · show decode? (encode protocols) = some items ↔ _
      rw [hread, Option.some.injEq]
      exact eq_comm
    · exact decode?_append_encodeItems ((decode?_eq_some_iff _ _).mp hread).2
  · obtain ⟨hp, -⟩ := (run_alpn_iff sc c p).mp hp
    obtain ⟨hq, -⟩ := (run_alpn_iff sc c q).mp hq
    refine ⟨fun h => ?_, congrArg encode⟩
    have hsame := (decode?_encode hp).symm.trans ((congrArg decode? h).trans (decode?_encode hq))
    exact (List.map_inj_right fun _ _ => Bytes.ofString_injective).mp (Option.some.inj hsame)

/-- Two protocols, as they go on the wire and as they are read there. -/
theorem two_protocols_read_back :
    ((Setting.alpn ["h2", "http/1.1"]).run Policy.screening .initial).1 = .ok () ∧
      encode ["h2", "http/1.1"] =
        [2, 0x68, 0x32, 8, 0x68, 0x74, 0x74, 0x70, 0x2f, 0x31, 0x2e, 0x31] ∧
      decode? (encode ((Setting.alpn ["h2", "http/1.1"]).run Policy.screening .initial).2.alpn) =
        some (["h2", "http/1.1"].map Bytes.ofString) := by
  have hset : ((Setting.alpn ["h2", "http/1.1"]).run Policy.screening .initial).1 = .ok () := rfl
  obtain ⟨-, hread, -⟩ := (encoding_uniquely_decodable Policy.screening .initial).1 _ hset
  exact ⟨hset, by decide +kernel, (hread _).mpr rfl⟩

end SocketlessTls.Alpn
