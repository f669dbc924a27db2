import Meshctl.Node.ClientCommands

/-! # The format of opcodes

An opcode takes one, two or three bytes, and its first byte tells how many. Writing an
opcode and reading it again are inverse to each other.
-/

namespace Meshctl.Node

open Bytes

/-! ## The format -/

/-- The bytes that stand for an opcode. A first byte of `0x7f` is reserved. -/
inductive OpcodeBytes : List Byte → U32 → Prop
  | one {first : Byte} {opcode : U32} (range : first.toNat ≤ 0x7e)
      (value : opcode.toNat = first.toNat) : OpcodeBytes [first] opcode
  | two {first second : Byte} {opcode : U32} (low : 0x80 ≤ first.toNat)
      (high : first.toNat ≤ 0xbf)
      (value : opcode.toNat = 0x100 * first.toNat + second.toNat) :
      OpcodeBytes [first, second] opcode
  | three {first second third : Byte} {opcode : U32} (low : 0xc0 ≤ first.toNat)
      (value : opcode.toNat =
        0x10000 * first.toNat + 0x100 * second.toNat + third.toNat) :
      OpcodeBytes [first, second, third] opcode

/-! ## Writing -/

theorem be16_setWidth (opcode : U32) :
    be16 (opcode.setWidth 16) = [opcode.extractLsb' 8 8, opcode.extractLsb' 0 8] := by
  rw [be16]
  congr 1
  · ext index inside
    simp
    omega
  · congr 1
    ext index inside
    simp
    omega

theorem meshOpcodeSet_format {opcode : U32} (written : meshOpcodeSet opcode ≠ []) :
    OpcodeBytes (meshOpcodeSet opcode) opcode := by
  have bound := opcode.isLt
  unfold meshOpcodeSet at written ⊢
  split
  next small =>
    refine OpcodeBytes.one ?_ ?_ <;> rw [BitVec.toNat_setWidth] <;> omega
  next notOne =>
    rw [if_neg notOne] at written
    split
    next two =>
      rw [be16_setWidth]
      refine OpcodeBytes.two ?_ ?_ ?_ <;>
        simp only [BitVec.extractLsb'_toNat, Nat.shiftRight_eq_div_pow] <;> omega
    next notTwo =>
      rw [if_neg notTwo] at written
      split
      next three =>
        rw [be16_setWidth]
        refine OpcodeBytes.three ?_ ?_ <;>
          simp only [BitVec.extractLsb'_toNat, BitVec.toNat_setWidth,
            BitVec.toNat_ushiftRight, Nat.shiftRight_eq_div_pow] <;> omega
      next notThree =>
        rw [if_neg notThree] at written
        exact absurd rfl written

/-- An opcode has no other bytes. -/
theorem OpcodeBytes.written {bytes : List Byte} {opcode : U32}
    (format : OpcodeBytes bytes opcode) : meshOpcodeSet opcode = bytes := by
  cases format with
  | @one first opcode range value =>
      rw [meshOpcodeSet, if_pos (by omega)]
      congr 1
      apply BitVec.eq_of_toNat_eq
      rw [BitVec.toNat_setWidth]
      omega
  | @two first second opcode low high value =>
      have bound := second.isLt
      rw [meshOpcodeSet, if_neg (by omega), if_pos (by omega), be16_setWidth]
      congr 1
      · apply BitVec.eq_of_toNat_eq
        rw [BitVec.extractLsb'_toNat, Nat.shiftRight_eq_div_pow]
        omega
      · congr 1
        apply BitVec.eq_of_toNat_eq
        rw [BitVec.extractLsb'_toNat, Nat.shiftRight_eq_div_pow]
        omega
  | @three first second third opcode low value =>
      have firstBound := first.isLt
      have secondBound := second.isLt
      have thirdBound := third.isLt
      rw [meshOpcodeSet, if_neg (by omega), if_neg (by omega), if_pos (by omega),
        be16_setWidth]
      congr 1
      · apply BitVec.eq_of_toNat_eq
        rw [BitVec.toNat_setWidth, BitVec.toNat_ushiftRight, Nat.shiftRight_eq_div_pow]
        omega
      · congr 1
        · apply BitVec.eq_of_toNat_eq
          rw [BitVec.extractLsb'_toNat, Nat.shiftRight_eq_div_pow]
          omega
        · congr 1
          apply BitVec.eq_of_toNat_eq
          rw [BitVec.extractLsb'_toNat, Nat.shiftRight_eq_div_pow]
          omega

/-! ## Reading -/

/-- The upper two bits of the first byte as a range of the byte. -/
theorem two_bytes_iff (first : Byte) :
    first &&& 0xc0 = 0x80 ↔ 0x80 ≤ first.toNat ∧ first.toNat ≤ 0xbf := by
  revert first
  decide +kernel

theorem three_bytes_iff (first : Byte) :
    first &&& 0xc0 = 0xc0 ↔ 0xc0 ≤ first.toNat := by
  revert first
  decide +kernel

theorem toNat_getBe16 (buf : List Byte) (offset : Nat) :
    (getBe16 buf offset).toNat =
      0x100 * (get buf offset).toNat + (get buf (offset + 1)).toNat := by
  have bound := (get buf (offset + 1)).isLt
  rw [getBe16, BitVec.toNat_append, ← Nat.shiftLeft_add_eq_or_of_lt bound,
    Nat.shiftLeft_eq]
  omega

theorem toNat_three (first : Byte) (rest : U16) :
    (rest.setWidth 32 ||| first.setWidth 32 <<< 16 : U32).toNat =
      0x10000 * first.toNat + rest.toNat := by
  have firstBound := first.isLt
  have restBound := rest.isLt
  have isFirst : (first.setWidth 32 <<< 16 : U32).toNat = first.toNat <<< 16 := by
    rw [BitVec.toNat_shiftLeft, BitVec.toNat_setWidth, Nat.shiftLeft_eq, Nat.shiftLeft_eq]
    omega
  have isRest : (rest.setWidth 32 : U32).toNat = rest.toNat := by
    rw [BitVec.toNat_setWidth]
    omega
  rw [BitVec.toNat_or, isFirst, isRest, Nat.or_comm,
    ← Nat.shiftLeft_add_eq_or_of_lt restBound, Nat.shiftLeft_eq]
  omega

theorem OpcodeBytes.read {bytes rest : List Byte} {opcode : U32} {sz : U16}
    (format : OpcodeBytes bytes opcode) (whole : bytes.length ≤ sz.toNat) :
    meshOpcodeGet (bytes ++ rest) sz = some (opcode, bytes.length) := by
  cases format with
  | @one first opcode range value =>
      have notReserved : ¬first = 0x7f := by
        intro reserved
        rw [reserved] at range
        exact absurd range (by decide)
      have isFirst : get ([first] ++ rest) 0 = first := rfl
      have long : 1 ≤ sz.toNat := whole
      rw [meshOpcodeGet, if_neg (not_lt.mpr long), isFirst,
        if_neg (by rw [two_bytes_iff]; omega), if_neg (by rw [three_bytes_iff]; omega),
        if_neg notReserved]
      congr 2
      apply BitVec.eq_of_toNat_eq
      rw [BitVec.toNat_setWidth]
      omega
  | @two first second opcode low high value =>
      have bound := second.isLt
      have isFirst : get ([first, second] ++ rest) 0 = first := rfl
      have isSecond : get ([first, second] ++ rest) (0 + 1) = second := rfl
      have long : 2 ≤ sz.toNat := whole
      rw [meshOpcodeGet, if_neg (by omega), isFirst,
        if_pos ((two_bytes_iff first).mpr ⟨low, high⟩), if_neg (not_lt.mpr long)]
      congr 2
      apply BitVec.eq_of_toNat_eq
      rw [BitVec.toNat_setWidth, toNat_getBe16, isFirst, isSecond]
      omega
  | @three first second third opcode low value =>
      have isFirst : get ([first, second, third] ++ rest) 0 = first := rfl
      have isSecond : get ([first, second, third] ++ rest) 1 = second := rfl
      have isThird : get ([first, second, third] ++ rest) (1 + 1) = third := rfl
      have long : 3 ≤ sz.toNat := whole
      rw [meshOpcodeGet, if_neg (by omega), isFirst, if_neg (by rw [two_bytes_iff]; omega),
        if_pos ((three_bytes_iff first).mpr low), if_neg (not_lt.mpr long)]
      congr 2
      apply BitVec.eq_of_toNat_eq
      rw [toNat_three, toNat_getBe16, isSecond, isThird]
      omega

/-- What is read of a buffer are the bytes of the opcode in front. -/
theorem meshOpcodeGet_format {buf : List Byte} {sz : U16} {opcode : U32} {n : Nat}
    (inside : sz.toNat ≤ buf.length) (found : meshOpcodeGet buf sz = some (opcode, n)) :
    OpcodeBytes (buf.take n) opcode := by
  have start (count : Nat) (short : count ≤ buf.length) :
      buf.take count = (List.range count).map (get buf) := by
    refine ext_get (by simp [short]) fun index inTake => ?_
    rw [List.length_take] at inTake
    rw [get_take (by omega), get_map_range (by omega)]
  unfold meshOpcodeGet at found
  split at found
  next => cases found
  next notEmpty =>
    split at found
    next two =>
      rw [two_bytes_iff] at two
      split at found
      next => cases found
      next =>
        cases found
        rw [start 2 (by omega)]
        change OpcodeBytes [get buf 0, get buf (0 + 1)] _
        refine OpcodeBytes.two two.1 two.2 ?_
        have bound := (getBe16 buf 0).isLt
        have value := toNat_getBe16 buf 0
        rw [BitVec.toNat_setWidth]
        omega
    next notTwo =>
      rw [two_bytes_iff] at notTwo
      split at found
      next three =>
        rw [three_bytes_iff] at three
        split at found
        next => cases found
        next =>
          cases found
          rw [start 3 (by omega)]
          change OpcodeBytes [get buf 0, get buf 1, get buf (1 + 1)] _
          refine OpcodeBytes.three three ?_
          rw [toNat_three, toNat_getBe16]
          omega
      next notThree =>
        rw [three_bytes_iff] at notThree
        split at found
        next => cases found
        next notReserved =>
          cases found
          have apart : (get buf 0).toNat ≠ 0x7f := fun same =>
            notReserved (BitVec.eq_of_toNat_eq same)
          rw [start 1 (by omega)]
          change OpcodeBytes [get buf 0] _
          refine OpcodeBytes.one ?_ ?_
          · omega
          · have bound := (get buf 0).isLt
            rw [BitVec.toNat_setWidth]
            omega

/-! ## Both -/

/-- Writing an opcode and reading one are inverse to each other. -/
structure OpcodesInverse : Prop where
  readBack : ∀ (opcode : U32) (rest : List Byte) (sz : U16), meshOpcodeSet opcode ≠ [] →
    (meshOpcodeSet opcode).length ≤ sz.toNat →
    meshOpcodeGet (meshOpcodeSet opcode ++ rest) sz =
      some (opcode, (meshOpcodeSet opcode).length)
  writtenBack : ∀ (buf : List Byte) (sz : U16) (opcode : U32) (n : Nat),
    sz.toNat ≤ buf.length → meshOpcodeGet buf sz = some (opcode, n) →
    meshOpcodeSet opcode = buf.take n
  refused : ∀ (buf : List Byte) (sz : U16), sz.toNat ≤ buf.length →
    meshOpcodeGet buf sz = none →
    ∀ opcode, meshOpcodeSet opcode ≠ [] → ¬meshOpcodeSet opcode <+: buf.take sz.toNat

theorem opcodes_inverse : OpcodesInverse where
  readBack opcode rest sz written whole :=
    (meshOpcodeSet_format written).read whole
  writtenBack buf sz opcode n inside found :=
    (meshOpcodeGet_format inside found).written
  refused buf sz inside refused opcode written := by
    rintro ⟨rest, isPrefix⟩
    have whole : (meshOpcodeSet opcode).length ≤ sz.toNat := by
      have length := congrArg List.length isPrefix
      rw [List.length_append, List.length_take_of_le inside] at length
      omega
    have read := @OpcodeBytes.read _ (rest ++ buf.drop sz.toNat) opcode sz
      (meshOpcodeSet_format written) whole
    rw [← List.append_assoc, isPrefix, List.take_append_drop, refused] at read
    cases read

end Meshctl.Node
