import SocketlessTls.Proofs.Config.Setting
import SocketlessTls.Proofs.Net.Literal

/-!
# Which server names are accepted

The name of a server travels in the first message of the handshake, and not every text can travel
there. `SocketlessTls.ServerName.Carriable` says which texts can, and says it of the text alone:
where it must not be an address, it means the grammar of addresses and not the reader. **A server
name is accepted exactly if it can be carried** (`SocketlessTls.ServerName.accepted_iff_carriable`),
and any other is named in the error.
-/

namespace SocketlessTls.ServerName

/-- **A text that can be carried as the name of a server.** -/
structure Carriable (s : String) : Prop where
  nonempty : s ≠ ""
  short : s.utf8ByteSize ≤ 255
  ascii : ∀ c ∈ s.toList, c.toNat < 128
  noNul : '\x00' ∉ s.toList
  noLeadingDot : s.toList.head? ≠ some '.'
  noAddress : ¬Net.IsLiteral s.toList

/-- The check of a server name finds out whether it can be carried. -/
theorem isValid_iff (s : String) : isValid s = true ↔ Carriable s := by
  have haddress : (Net.Address.parse? s).isNone = true ↔ ¬Net.IsLiteral s.toList := by
    rw [← Net.parse?_isSome_iff, Option.isNone_iff_eq_none, Option.isSome_iff_ne_none, not_not]
  have hchecks : isValid s = true ↔ s ≠ "" ∧ s.utf8ByteSize ≤ maxLength ∧
      (∀ c ∈ s.toList, c.toNat < 128) ∧ '\x00' ∉ s.toList ∧ s.toList.head? ≠ some '.' ∧
      ¬Net.IsLiteral s.toList := by
    rw [← haddress]
    simp [isValid, and_assoc]
  rw [hchecks]
  constructor
  · rintro ⟨hne, hshort, hascii, hnul, hdot, haddr⟩
    exact ⟨hne, hshort, hascii, hnul, hdot, haddr⟩
  · rintro ⟨hne, hshort, hascii, hnul, hdot, haddr⟩
    exact ⟨hne, hshort, hascii, hnul, hdot, haddr⟩

/-- **A server name is set exactly if it can be carried**, and is refused as invalid exactly if it
cannot. -/
theorem accepted_iff_carriable (sc : Screening) (c : Config) (s : String) :
    ((Setting.serverName s).run sc c = (.ok (), { c with serverName := some s }) ↔
      Carriable s) ∧
    ((Setting.serverName s).run sc c =
        (.error (.refused (.configuration (.invalidServerName s))), c) ↔ ¬Carriable s) := by
  rw [Setting.run_eq, Setting.apply, ← isValid_iff]
  by_cases h : isValid s = true
  · rw [if_pos h]
    refine ⟨iff_of_true rfl h, iff_of_false (fun hrun => ?_) (not_not.mpr h)⟩
    cases congrArg Prod.fst hrun
  · rw [if_neg h]
    refine ⟨iff_of_false (fun hrun => ?_) h, iff_of_true rfl h⟩
    cases congrArg Prod.fst hrun

end SocketlessTls.ServerName
