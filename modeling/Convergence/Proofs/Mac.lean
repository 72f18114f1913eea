import Convergence.Mac
import Convergence.Proofs.Text.Split

/-!
# `Convergence.Proofs.Mac`: link-layer addresses as text

An address reads back from its written form (`Mac.parse_text`).  The groups hold no colon, so the
text falls apart at the colons into the groups again (`Text.splitAt_joinWith`), and each group is
read as the octet that it writes.
-/

set_option autoImplicit false

namespace Convergence

namespace Mac

/-- An octet reads back from its two digits, among which is no colon. -/
theorem ofGroup?_group (o : UInt8) : ofGroup? (group o) = some o ∧ ':' ∉ group o := by
  have hall : ∀ n < 256, ofGroup? (paddedDigits 16 2 n) = some (UInt8.ofNat n) ∧
      ':' ∉ paddedDigits 16 2 n := by decide +kernel
  have ho := hall o.toNat o.toNat_lt
  rwa [UInt8.ofNat_toNat] at ho

/-- **Reading back.**  The written form of an address is read as the address. -/
theorem parse_text (m : Mac) : parse m.text = .ok m := by
  have hparts : Text.splitAt ':' (Text.joinWith ':' (m.octets.map group)) = m.octets.map group := by
    refine Text.splitAt_joinWith (by simp [octets]) ?_
    rw [List.forall_mem_map]
    exact fun o _ => (ofGroup?_group o).2
  have hsep : separator? (Text.joinWith ':' (m.octets.map group)) = some ':' := by
    refine if_pos ?_
    simp [octets, Text.joinWith]
  have hoctets : (m.octets.map group).mapM ofGroup? = some m.octets := by
    simp [octets, (ofGroup?_group _).1]
  have hchars : ofChars? m.text.toList = some m := by
    rw [text, String.toList_ofList, ofChars?, hsep]
    show (do ofOctets? (← (Text.splitAt ':' _).mapM ofGroup?)) = some m
    rw [hparts, hoctets]
    rfl
  rw [parse, hchars]

end Mac

end Convergence
