import WalletPolicy.Proofs.Abi.Words
import WalletPolicy.Swap

namespace WalletPolicy

theorem Address.ofBytes?_toBytes (address : Address) : ofBytes? address.toBytes = some address :=
  ofBytes?_eq_some_iff.2 rfl

theorem Address.length_toBytes (address : Address) : address.toBytes.length = 20 :=
  address.bytes.length_eq

namespace Route

variable {tokens : List Address} {fees : List UInt32} {tokenIn tokenOut : Address} {fee : UInt32}

theorem length_writePath (tokens : List Address) (fees : List UInt32) :
    (writePath tokens fees).length = 20 * tokens.length + 3 * min tokens.length fees.length := by
  induction tokens, fees using writePath.induct with
  | case1 fees => simp [writePath]
  | case2 token tokens ih =>
      simp only [writePath, List.length_append, List.length_cons, List.length_nil,
        Address.length_toBytes, ih]
      omega
  | case3 token tokens fee fees ih =>
      simp only [writePath, List.length_append, List.length_cons, Address.length_toBytes,
        Bytes.length_ofNat, ih]
      omega

theorem writePath_eq_append (first : tokens.head? = some tokenIn) (firstFee : fees.head? = some fee) :
    writePath tokens fees =
      tokenIn.toBytes ++ (Bytes.ofNat 3 fee.toNat ++ writePath tokens.tail fees.tail) := by
  obtain ⟨tokens, rfl⟩ := List.head?_eq_some_iff.1 first
  obtain ⟨fees, rfl⟩ := List.head?_eq_some_iff.1 firstFee
  rw [writePath, List.append_assoc]
  rfl

theorem isSuffix_writePath (hops : tokens.length = fees.length + 1)
    (last : tokens.getLast? = some tokenOut) : tokenOut.toBytes <:+ writePath tokens fees := by
  induction tokens, fees using writePath.induct with
  | case1 fees => cases last
  | case2 token tokens ih =>
      obtain rfl : tokens = [] := List.length_eq_zero_iff.1 (Nat.succ.inj hops)
      obtain rfl : token = tokenOut := Option.some.inj last
      simp [writePath]
  | case3 token tokens fee fees ih =>
      obtain ⟨next, others, rfl⟩ := List.exists_cons_of_length_eq_add_one (Nat.succ.inj hops)
      rw [List.getLast?_cons_cons] at last
      rw [writePath]
      exact (ih (Nat.succ.inj hops) last).trans (List.suffix_append _ _)

theorem ofNat_toNat_feeBytes (small : fee.toNat < 2 ^ 24) :
    UInt32.ofNat (Bytes.toNat (Bytes.ofNat 3 fee.toNat)) = fee := by
  rw [Bytes.toNat_ofNat, Nat.mod_eq_of_lt (show fee.toNat < 256 ^ 3 by omega), UInt32.ofNat_toNat]

theorem ofPath?_writePath (hops : tokens.length = fees.length + 1)
    (first : tokens.head? = some tokenIn) (last : tokens.getLast? = some tokenOut)
    (firstFee : fees.head? = some fee) (small : fee.toNat < 2 ^ 24) :
    ofPath? (writePath tokens fees) = some ⟨tokenIn, fee, tokenOut, decide (1 < fees.length)⟩ := by
  have size : (writePath tokens fees).length = 20 + 23 * fees.length := by
    rw [length_writePath]
    omega
  have pools : 0 < fees.length := List.length_pos_of_mem (List.mem_of_mem_head? firstFee)
  have ends : (writePath tokens fees).drop ((writePath tokens fees).length - 20) =
      tokenOut.toBytes := by
    have suffix := List.suffix_iff_eq_drop.1 (isSuffix_writePath hops last)
    rw [Address.length_toBytes] at suffix
    exact suffix.symm
  have starts : (writePath tokens fees).take 20 = tokenIn.toBytes := by
    rw [writePath_eq_append first firstFee, List.take_left' (Address.length_toBytes _)]
  have feeAt : ((writePath tokens fees).drop 20).take 3 = Bytes.ofNat 3 fee.toNat := by
    rw [writePath_eq_append first firstFee, List.drop_left' (Address.length_toBytes _),
      List.take_left' (Bytes.length_ofNat _ _)]
  have whole : ¬ ((writePath tokens fees).length < singleHopLength ∨
      ((writePath tokens fees).length - singleHopLength) % hopLength ≠ 0) := by
    rw [size, singleHopLength, hopLength]
    omega
  have multiHop : singleHopLength < (writePath tokens fees).length ↔ 1 < fees.length := by
    rw [size, singleHopLength]
    omega
  rw [ofPath?, if_neg whole]
  simp only [ends, starts, feeAt, multiHop, Address.ofBytes?_toBytes, ofNat_toNat_feeBytes small,
    Option.bind_eq_bind, Option.bind_some]

theorem fee_lt_of_ofPath? {path : Bytes} {route : Route} (read : ofPath? path = some route) :
    route.fee.toNat < 2 ^ 24 := by
  unfold ofPath? at read
  split at read
  · cases read
  · simp only [Option.bind_eq_bind, Option.bind_eq_some_iff] at read
    obtain ⟨tokenIn, -, tokenOut, -, made⟩ := read
    rw [← Option.some.inj made]
    have small := Bytes.toNat_lt ((path.drop 20).take 3)
    have width : ((path.drop 20).take 3).length ≤ 3 := List.length_take_le _ _
    have bound := Nat.lt_of_lt_of_le small (Nat.pow_le_pow_right (by decide) width)
    rw [UInt32.toNat_ofNat_of_lt' (Nat.lt_trans bound (by decide))]
    exact bound

end Route

end WalletPolicy
