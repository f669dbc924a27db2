import Meshctl.Db.Load
import Meshctl.Foundation.HexPairs

/-! # Keys as hexadecimal text

Which texts the program takes for bytes, and whether it reads what it wrote.
-/

namespace Meshctl.Db

open Net Text

/-! ## Reading -/

/-- So many elements pass in front when the first ones all do. -/
theorem lt_length_takeWhile_iff {α : Type*} {passes : α → Bool} {elements : List α}
    {bound : Nat} :
    bound < (elements.takeWhile passes).length ↔ bound < elements.length ∧
      ∀ element ∈ elements.take (bound + 1), passes element = true := by
  have isPrefix : elements.takeWhile passes <+: elements := List.takeWhile_prefix passes
  constructor
  · intro long
    refine ⟨long.trans_le isPrefix.length_le, fun element member => ?_⟩
    have inFront : element ∈ (elements.takeWhile passes).take (bound + 1) := by
      rcases isPrefix with ⟨rest, split⟩
      rwa [← split, List.take_append_of_le_length long] at member
    exact List.mem_takeWhile_imp (List.mem_of_mem_take inFront)
  · rintro ⟨long, all⟩
    have front : (elements.takeWhile passes).take (bound + 1) =
        elements.take (bound + 1) :=
      List.take_takeWhile.trans (List.takeWhile_eq_self_iff.mpr all)
    have length := congrArg List.length front
    rw [List.length_take, List.length_take] at length
    omega

section Reading

variable (str : List Char) (inLen : U16) (out : List Byte) (outLen : Nat)

/-- The reading succeeds when there is a number at each pair of characters. -/
theorem str2hex_fst_iff :
    (str2hex str inLen out outLen).1 = true ↔ outLen * 2 ≤ inLen.toNat ∧
      ∀ index < outLen, NumberAhead (str.drop (index * 2)) := by
  rw [str2hex]
  split
  · next short => simp [Nat.not_le.mpr short]
  · next enough =>
      have all : (∀ index < outLen, NumberAhead (str.drop (index * 2))) ↔
          ∀ number ∈ (List.range outLen).map fun index => scanHex 2 (str.drop (index * 2)),
            number.isSome = true := by
        simp only [List.forall_mem_map, List.mem_range, scanHex_isSome_iff]
      rw [all, ← List.takeWhile_eq_self_iff, decide_eq_true_eq]
      generalize isNumbers : ((List.range outLen).map fun index =>
        scanHex 2 (str.drop (index * 2))) = numbers
      have length : numbers.length = outLen := by
        rw [← isNumbers, List.length_map, List.length_range]
      rw [and_iff_right (Nat.not_lt.mp enough), ← length]
      exact ⟨(List.takeWhile_prefix _).eq_of_length, congrArg List.length⟩

/-- Digits are read as the bytes that they denote, if the length is not too short. -/
theorem str2hex_hexPrefix (isHex : HexPrefix str (outLen * 2))
    (enough : outLen * 2 ≤ inLen.toNat) :
    str2hex str inLen out outLen =
      (true, hexBytes (str.take (outLen * 2)) ++ out.drop outLen) := by
  have pairs := scanHex_pairs isHex
  have all : ∀ number ∈ (List.range outLen).map fun index =>
      scanHex 2 (str.drop (index * 2)), number.isSome = true := by
    intro number member
    rcases List.mem_map.mp member with ⟨index, inRange, rfl⟩
    have inPairs := List.mem_map_of_mem (f := fun index =>
      (scanHex 2 (str.drop (index * 2))).map (BitVec.ofInt 8)) inRange
    rw [pairs] at inPairs
    rcases List.mem_map.mp inPairs with ⟨byte, _, isByte⟩
    rw [← Option.isSome_map (f := BitVec.ofInt 8), ← isByte]
    rfl
  have bytes : ((List.range outLen).map fun index =>
      scanHex 2 (str.drop (index * 2))).filterMap (Option.map (BitVec.ofInt 8)) =
      hexBytes (str.take (outLen * 2)) := by
    have filtered := congrArg (List.filterMap id) pairs
    rw [List.filterMap_map, List.filterMap_map, Function.id_comp, Function.id_comp,
      List.filterMap_some] at filtered
    rw [List.filterMap_map]
    exact filtered
  rw [str2hex, if_neg (Nat.not_lt.mpr enough)]
  simp only [List.takeWhile_eq_self_iff.mpr all, bytes, List.length_map, List.length_range,
    decide_true]

/-- How many bytes are stored in the buffer. -/
def str2hexStored : Nat :=
  if inLen.toNat < outLen * 2 then 0
  else (((List.range outLen).map fun index =>
    scanHex 2 (str.drop (index * 2))).takeWhile Option.isSome).length

/-- Behind the bytes that are stored the buffer is as it was. -/
theorem str2hex_snd : ∃ bytes, bytes.length = str2hexStored str inLen outLen ∧
    (str2hex str inLen out outLen).2 =
      bytes ++ out.drop (str2hexStored str inLen outLen) := by
  rw [str2hex, str2hexStored]
  split
  · exact ⟨[], rfl, rfl⟩
  · refine ⟨_, ?_, rfl⟩
    rw [List.length_filterMap_eq_countP, List.countP_eq_length]
    intro number member
    simpa using List.mem_takeWhile_imp member

theorem str2hexStored_le : str2hexStored str inLen outLen ≤ outLen := by
  rw [str2hexStored]
  split
  · exact Nat.zero_le _
  · exact (List.takeWhile_prefix _).length_le.trans_eq (by simp)

/-- Nothing is stored behind the bytes that are asked for. -/
theorem str2hex_drop : (str2hex str inLen out outLen).2.drop outLen = out.drop outLen := by
  have within := str2hexStored_le str inLen outLen
  rcases str2hex_snd str inLen out outLen with ⟨bytes, length, isResult⟩
  rw [isResult, List.drop_append, List.drop_of_length_le (length.trans_le within), length,
    List.drop_drop, Nat.add_sub_cancel' within, List.nil_append]

/-- More than `bound` bytes are stored unless the text ends before, or at one of the first
pairs there is no number. -/
theorem str2hexStored_le_iff (bound : Nat) :
    str2hexStored str inLen outLen ≤ bound ↔ outLen ≤ bound ∨ inLen.toNat < outLen * 2 ∨
      ∃ index ≤ bound, ¬NumberAhead (str.drop (index * 2)) := by
  rw [str2hexStored]
  split
  · next short => exact iff_of_true (Nat.zero_le _) (Or.inr (Or.inl short))
  · next enough =>
      have front : ((List.range outLen).map fun index =>
          scanHex 2 (str.drop (index * 2))).take (bound + 1) =
          (List.range (min (bound + 1) outLen)).map fun index =>
            scanHex 2 (str.drop (index * 2)) := by
        rw [← List.map_take, List.take_range]
      rw [← Nat.not_lt, lt_length_takeWhile_iff, front, List.forall_mem_map]
      simp only [List.mem_range, scanHex_isSome_iff, List.length_map, List.length_range]
      constructor
      · intro short
        by_contra long
        rw [not_or, not_or] at long
        refine short ⟨Nat.not_le.mp long.1, fun index inFront => ?_⟩
        by_contra notAhead
        exact long.2.2 ⟨index, by omega, notAhead⟩
      · rintro (few | short | ⟨index, within, notAhead⟩) ⟨more, ahead⟩
        · omega
        · exact enough short
        · exact notAhead (ahead index (by omega))

end Reading

/-- The reading succeeds exactly for digits, and its result is the bytes they denote. -/
structure ReadsExactly (str : List Char) (out : List Byte) (outLen : U16) : Prop where
  accepts : (str2hex str (BitVec.ofNat 16 str.length) out outLen.toNat).1 = true ↔
    HexPrefix str (outLen.toNat * 2)
  reads : (str2hex str (BitVec.ofNat 16 str.length) out outLen.toNat).1 = true →
    (str2hex str (BitVec.ofNat 16 str.length) out outLen.toNat).2 =
      hexBytes (str.take (outLen.toNat * 2)) ++ out.drop outLen.toNat

/-- The length of a text of digits is not taken for less than it is needed for. Any other
text is taken for shorter than that, or has no number at some pair of characters. -/
def HexUnambiguous (str : List Char) (outLen : U16) : Prop :=
  if HexPrefix str (outLen.toNat * 2) then outLen.toNat * 2 ≤ str.length % 65536
  else str.length % 65536 < outLen.toNat * 2 ∨
    ∃ index < outLen.toNat, ¬NumberAhead (str.drop (index * 2))

theorem readsExactly_iff (str : List Char) (out : List Byte) (outLen : U16) :
    ReadsExactly str out outLen ↔ HexUnambiguous str outLen := by
  have accepted := str2hex_fst_iff str (BitVec.ofNat 16 str.length) out outLen.toNat
  rw [BitVec.toNat_ofNat] at accepted
  change _ ↔ _ ≤ str.length % 65536 ∧ _ at accepted
  rw [HexUnambiguous]
  split
  · next isHex =>
      constructor
      · intro exactly
        exact (accepted.mp (exactly.accepts.mpr isHex)).1
      · intro enough
        have read := str2hex_hexPrefix str (BitVec.ofNat 16 str.length) out outLen.toNat
          isHex (by rwa [BitVec.toNat_ofNat])
        exact ⟨iff_of_true (congrArg Prod.fst read) isHex, fun _ => congrArg Prod.snd read⟩
  · next notHex =>
      have rejected : ReadsExactly str out outLen ↔
          ¬(str2hex str (BitVec.ofNat 16 str.length) out outLen.toNat).1 = true :=
        ⟨fun exactly success => notHex (exactly.accepts.mp success),
          fun failure => ⟨iff_of_false failure notHex, fun success => absurd success failure⟩⟩
      rw [rejected, accepted, not_and_or, Nat.not_le]
      simp only [not_forall, exists_prop]

/-! ## Writing and reading back -/

/-- How many bytes are written, and the characters, with the zero at the end. -/
def hex2str (input : List Byte) (outLen : U64) : Nat × List Char :=
  if BitVec.ofNat 64 (input.length * 2) > outLen - 1 then (0, [])
  else (input.length, input.flatMap hexPair ++ [Char.ofNat 0])

theorem hex2str_fits {input : List Byte} {outLen : U64}
    (fits : input.length * 2 < outLen.toNat) :
    hex2str input outLen = (input.length, input.flatMap hexPair ++ [Char.ofNat 0]) := by
  have outBound := outLen.isLt
  rw [hex2str, if_neg]
  rw [gt_iff_lt, BitVec.lt_def]
  simp only [BitVec.toNat_sub, BitVec.toNat_ofNat, BitVec.ofNat_eq_ofNat]
  omega

/-- The text that is written, up to the zero. -/
def hexString (input : List Byte) (outLen : U64) : List Char :=
  (hex2str input outLen).2.takeWhile (·.toNat ≠ 0)

theorem hexString_fits {input : List Byte} {outLen : U64}
    (fits : input.length * 2 < outLen.toNat) :
    hexString input outLen = input.flatMap hexPair := by
  have noZero : ∀ char ∈ input.flatMap hexPair, (decide (char.toNat ≠ 0)) = true := by
    intro char member
    have ⟨above, _⟩ := hexDigit_ascii (hexDigit_hexPairs input char member)
    exact decide_eq_true (by omega)
  rw [hexString, hex2str_fits fits, List.takeWhile_append_of_pos noZero]
  exact List.append_nil _

/-- The digits of bytes are read as these bytes. -/
theorem str2hex_hexPairs (input : List Byte) (inLen : U16) (out : List Byte)
    (enough : input.length * 2 ≤ inLen.toNat) :
    str2hex (input.flatMap hexPair) inLen out input.length =
      (true, input ++ out.drop input.length) := by
  have isHex : HexPrefix (input.flatMap hexPair) (input.length * 2) :=
    ⟨(length_hexPairs input).ge, fun char member =>
      hexDigit_hexPairs input char (List.mem_of_mem_take member)⟩
  rw [str2hex_hexPrefix _ _ _ _ isHex enough,
    List.take_of_length_le (length_hexPairs input).le, hexBytes_hexPairs]

/-! ### Keys -/

theorem length_keyBytes (key : Key) : (keyBytes key).length = 16 := by
  simp [keyBytes]

theorem foldl_keyBytes (key : Key) :
    (keyBytes key).foldl (fun value byte => value * 256 + byte.toNat) 0 = key.toNat := by
  have upTo : ∀ count ≤ 16, (List.range count).foldl (fun value index =>
      value * 256 + ((key >>> (8 * (15 - index))).setWidth 8).toNat) 0 =
        key.toNat / 256 ^ (16 - count) := by
    intro count
    induction count with
    | zero => exact fun _ => (Nat.div_eq_of_lt key.isLt).symm
    | succ count induction =>
        intro within
        have power : 256 ^ (16 - count) = 256 ^ (15 - count) * 256 := by
          rw [← Nat.pow_succ]
          congr 1
          omega
        have shift : 2 ^ (8 * (15 - count)) = 256 ^ (15 - count) := by
          rw [Nat.pow_mul]
        rw [List.range_succ, List.foldl_append, induction (by omega), List.foldl_cons,
          List.foldl_nil, BitVec.toNat_setWidth, BitVec.toNat_ushiftRight,
          Nat.shiftRight_eq_div_pow, shift, power, ← Nat.div_div_eq_div_mul,
          show 16 - (count + 1) = 15 - count by omega]
        omega
  rw [keyBytes, List.foldl_map, upTo 16 (Nat.le_refl _), Nat.sub_self, Nat.pow_zero,
    Nat.div_one]

theorem keyOfBytes_keyBytes (key : Key) : keyOfBytes (keyBytes key) = key := by
  rw [keyOfBytes, foldl_keyBytes, BitVec.ofNat_toNat, BitVec.setWidth_eq]

theorem getString_keyText (key : Key) :
    (keyText key).getString = (keyBytes key).flatMap hexPair := by
  have fits : key.toNat < 16 ^ 32 := lt_of_lt_of_eq key.isLt (by norm_num)
  rw [hexPairs_eq_lastDigits, length_keyBytes, foldl_keyBytes]
  exact (cString_hexText (by decide) fits).trans (toList_hexText (by decide) fits)

/-- What is written for a key into a record. -/
theorem hexString_keyBytes (key : Key) :
    hexString (keyBytes key) 33 = (keyText key).getString := by
  rw [hexString_fits (by rw [length_keyBytes]; decide), getString_keyText]

/-! ### Any array -/

/-- The text of a byte array gives the bytes back in any array of the same length. -/
def ReadsBack (input : List Byte) (outLen : U64) : Prop :=
  ∀ out : List Byte, out.length = input.length →
    str2hex (hexString input outLen) (BitVec.ofNat 16 (hexString input outLen).length) out
      (BitVec.ofNat 16 input.length).toNat = (true, input)

theorem readsBack_iff {input : List Byte} {outLen : U64}
    (fits : input.length * 2 < outLen.toNat) :
    ReadsBack input outLen ↔ input.length < 32768 := by
  simp only [ReadsBack, hexString_fits fits, length_hexPairs]
  constructor
  · intro back
    by_contra long
    have other := back (input.map (· + 1)) (List.length_map _)
    by_cases fewer : input.length < 65536
    · have success := (str2hex_fst_iff _ _ _ _).mp (congrArg Prod.fst other)
      simp only [BitVec.toNat_ofNat] at success
      omega
    · -- The number of bytes that are asked for wraps around.
      have rest := str2hex_drop (input.flatMap hexPair) (BitVec.ofNat 16 (input.length * 2))
        (input.map (· + 1)) (BitVec.ofNat 16 input.length).toNat
      rw [other, ← List.map_drop, BitVec.toNat_ofNat] at rest
      rcases isRest : input.drop (input.length % 2 ^ 16) with _ | ⟨byte, bytes⟩
      · rw [List.drop_eq_nil_iff] at isRest
        omega
      · rw [isRest, List.map_cons] at rest
        have same := (List.cons.inj rest).1
        bv_omega
  · intro short out sameLength
    have outLength : (BitVec.ofNat 16 input.length).toNat = input.length := by
      rw [BitVec.toNat_ofNat]
      omega
    have inLength : (BitVec.ofNat 16 (input.length * 2)).toNat = input.length * 2 := by
      rw [BitVec.toNat_ofNat]
      omega
    rw [outLength, str2hex_hexPairs _ _ _ inLength.ge,
      List.drop_of_length_le sameLength.le, List.append_nil]

/-- What the code makes of every text, and of the text of every byte array that has room
for it. -/
theorem hex_exact_iff (str : List Char) (out : List Byte) (outLen : U16)
    (input : List Byte) (textLen : U64) :
    (ReadsExactly str out outLen ↔ HexUnambiguous str outLen) ∧
      (input.length * 2 < textLen.toNat →
        (ReadsBack input textLen ↔ input.length < 32768)) :=
  ⟨readsExactly_iff str out outLen, readsBack_iff⟩

/-- A digit with another character behind it is taken for a byte. -/
theorem hex_not_always_exact : ¬∀ str out outLen, ReadsExactly str out outLen := by
  intro exactly
  have isHex := (exactly ['1', 'g'] [0] 1).accepts.mp (by decide)
  exact absurd (isHex.2 'g' (by decide)) (by decide)

end Meshctl.Db
