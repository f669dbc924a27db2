import Meshctl.Foundation.Bytes
import Meshctl.Foundation.Hex

/-! # Bytes as pairs of digits

A number of two digits is read with `sscanf`, which skips white space, takes a sign and
stops at the first character that is not a digit.
-/

namespace Meshctl.Text

/-! ## What the characters denote -/

/-- The text begins with so many hexadecimal digits. -/
def HexPrefix (str : List Char) (count : Nat) : Prop :=
  count ≤ str.length ∧ ∀ char ∈ str.take count, (hexDigit char).isSome = true

instance (str : List Char) (count : Nat) : Decidable (HexPrefix str count) :=
  inferInstanceAs (Decidable (_ ∧ _))

/-- The bytes that pairs of digits denote. -/
def hexBytes : List Char → List Byte
  | first :: second :: rest =>
      BitVec.ofNat 8 ((hexDigit first).getD 0 * 16 + (hexDigit second).getD 0) ::
        hexBytes rest
  | _ => []

/-- After white space and a sign, the text goes on with a digit. -/
def NumberAhead (chars : List Char) : Prop :=
  ∃ char ∈ (readSign chars).2.head?, (hexDigit char).isSome = true

instance (chars : List Char) : Decidable (NumberAhead chars) :=
  inferInstanceAs (Decidable (∃ char ∈ (readSign chars).2.head?, _))

/-! ## One number -/

theorem hexDigit_ascii {char : Char} (isDigit : (hexDigit char).isSome = true) :
    48 ≤ char.toNat ∧ char.toNat < 128 := by
  have between : ∀ first last : Char, 48 ≤ first.toNat → last.toNat < 128 →
      first ≤ char ∧ char ≤ last → 48 ≤ char.toNat ∧ char.toNat < 128 :=
    fun first last low high range =>
      ⟨low.trans (Char.le_def.mp range.1), (Char.le_def.mp range.2).trans_lt high⟩
  rw [hexDigit] at isDigit
  split at isDigit
  · next range => exact between '0' '9' (by decide) (by decide) range
  · split at isDigit
    · next range => exact between 'a' 'f' (by decide) (by decide) range
    · split at isDigit
      · next range => exact between 'A' 'F' (by decide) (by decide) range
      · cases isDigit

theorem hexDigit_notSpecial {char : Char} (isDigit : (hexDigit char).isSome = true) :
    isSpace char = false ∧ char ≠ '-' ∧ char ≠ '+' ∧ char ≠ 'x' ∧ char ≠ 'X' := by
  have ⟨above, _⟩ := hexDigit_ascii isDigit
  refine ⟨?_, ?_, ?_, ?_, ?_⟩
  · have notBlank : char ≠ ' ' := by
      rintro rfl
      exact absurd above (by decide)
    simp only [isSpace, notBlank, decide_false, Bool.false_or]
    simp only [Bool.and_eq_false_iff, decide_eq_false_iff_not]
    omega
  all_goals
    rintro rfl
    exact absurd isDigit (by decide)

theorem readSign_length (chars : List Char) :
    (chars.dropWhile isSpace).length - (readSign chars).2.length ≤ 1 := by
  rw [readSign]
  split
  · next rest start => simp [start]
  · next rest start => simp [start]
  · exact (Nat.sub_self _).trans_le (Nat.zero_le _)

theorem fieldDigits_isEmpty_iff (char : Char) (chars : List Char) :
    (fieldDigits (char :: chars)).isEmpty = true ↔ hexDigit char = none := by
  unfold fieldDigits
  split
  · next mark =>
      cases mark
      exact iff_of_false (by simp) (by decide)
  · next mark =>
      cases mark
      exact iff_of_false (by simp) (by decide)
  · rw [digitPrefix]
    cases hexDigit char <;> simp

/-- A number is read exactly when there is a digit ahead. -/
theorem scanHex_isSome_iff (chars : List Char) :
    (scanHex 2 chars).isSome = true ↔ NumberAhead chars := by
  have signLength := readSign_length chars
  rcases isWidth : 2 - ((chars.dropWhile isSpace).length - (readSign chars).2.length) with
    _ | width
  · omega
  · rw [scanHex, NumberAhead]
    simp only [isWidth]
    cases (readSign chars).2 with
    | nil => simp [fieldDigits, digitPrefix]
    | cons char rest =>
        have isEmpty := fieldDigits_isEmpty_iff char (rest.take width)
        rw [List.take_succ_cons]
        cases isDigit : hexDigit char with
        | none => simp [isEmpty.mpr isDigit, isDigit]
        | some digit =>
            have notEmpty : ¬(fieldDigits (char :: rest.take width)).isEmpty = true := by
              rw [isEmpty, isDigit]
              simp
            simp [notEmpty, isDigit]

/-- Two digits in front are read as the number that they denote. -/
theorem scanHex_pair {first second : Char} {high low : Nat}
    (isHigh : hexDigit first = some high) (isLow : hexDigit second = some low)
    (rest : List Char) :
    scanHex 2 (first :: second :: rest) = some ((high * 16 + low : Nat) : Int) := by
  rcases hexDigit_notSpecial (isHigh ▸ rfl : (hexDigit first).isSome = true) with
    ⟨notSpace, notMinus, notPlus, _, _⟩
  rcases hexDigit_notSpecial (isLow ▸ rfl : (hexDigit second).isSome = true) with
    ⟨_, _, _, notMark, notBigMark⟩
  have start : (first :: second :: rest).dropWhile isSpace = first :: second :: rest :=
    List.dropWhile_cons_of_neg (by simp [notSpace])
  have sign : readSign (first :: second :: rest) = (false, first :: second :: rest) := by
    rw [readSign, start]
    split
    · next isMinus => exact absurd (List.cons.inj isMinus).1 notMinus
    · next isPlus => exact absurd (List.cons.inj isPlus).1 notPlus
    · rfl
  have digits : fieldDigits [first, second] = [high, low] := by
    unfold fieldDigits
    split
    · next mark => exact absurd (List.cons.inj (List.cons.inj mark).2).1 notMark
    · next mark => exact absurd (List.cons.inj (List.cons.inj mark).2).1 notBigMark
    · simp [digitPrefix, isHigh, isLow]
  rw [scanHex, sign, start]
  simp only [Nat.sub_self, Nat.sub_zero, List.take_succ_cons, List.take_zero, digits]
  simp [digitsValue, signed]

/-! ## A text of pairs -/

theorem HexPrefix.pair {first second : Char} {rest : List Char} {count : Nat}
    (isHex : HexPrefix (first :: second :: rest) (count + 2)) :
    (hexDigit first).isSome = true ∧ (hexDigit second).isSome = true ∧
      HexPrefix rest count := by
  rcases isHex with ⟨enough, digits⟩
  rw [List.take_succ_cons, List.take_succ_cons, List.forall_mem_cons,
    List.forall_mem_cons] at digits
  exact ⟨digits.1, digits.2.1, Nat.le_of_add_le_add_right enough, digits.2.2⟩

/-- Each pair of digits is read as its byte. -/
theorem scanHex_pairs {str : List Char} {outLen : Nat} (isHex : HexPrefix str (outLen * 2)) :
    ((List.range outLen).map fun index =>
        (scanHex 2 (str.drop (index * 2))).map (BitVec.ofInt 8)) =
      (hexBytes (str.take (outLen * 2))).map some := by
  induction outLen generalizing str with
  | zero => rfl
  | succ outLen induction =>
      rw [Nat.succ_mul] at isHex ⊢
      rcases str with _ | ⟨first, _ | ⟨second, rest⟩⟩
      · exact absurd isHex.1 (by simp)
      · exact absurd isHex.1 (by simp)
      · rcases isHex.pair with ⟨firstDigit, secondDigit, restHex⟩
        rcases Option.isSome_iff_exists.mp firstDigit with ⟨high, isHigh⟩
        rcases Option.isSome_iff_exists.mp secondDigit with ⟨low, isLow⟩
        rw [List.range_succ_eq_map, List.map_cons, List.map_map, Nat.zero_mul,
          List.drop_zero, scanHex_pair isHigh isLow, List.take_succ_cons,
          List.take_succ_cons, hexBytes, List.map_cons, ← induction restHex, isHigh, isLow]
        congr 1
        refine List.map_congr_left fun index _ => ?_
        rw [Function.comp_apply, Nat.succ_mul]
        rfl

/-! ## Bytes as digits -/

def hexPair (byte : Byte) : List Char :=
  [(byte >>> 4).toNat.digitChar, (byte &&& 0xf).toNat.digitChar]

theorem hexDigit_pair (byte : Byte) :
    hexDigit (byte >>> 4).toNat.digitChar = some (byte.toNat / 16) ∧
      hexDigit (byte &&& 0xf).toNat.digitChar = some (byte.toNat % 16) := by
  have bound := byte.isLt
  have high : (byte >>> 4).toNat = byte.toNat / 16 := by
    rw [BitVec.toNat_ushiftRight, Nat.shiftRight_eq_div_pow]
  have low : (byte &&& 0xf).toNat = byte.toNat % 16 := by
    rw [BitVec.toNat_and]
    exact Nat.and_two_pow_sub_one_eq_mod byte.toNat 4
  rw [high, low]
  exact ⟨hexDigit_digitChar (by omega), hexDigit_digitChar (by omega)⟩

theorem length_hexPairs (input : List Byte) :
    (input.flatMap hexPair).length = input.length * 2 := by
  induction input with
  | nil => rfl
  | cons byte input induction =>
      rw [List.flatMap_cons, List.length_append, induction, List.length_cons, Nat.succ_mul,
        Nat.add_comm]
      rfl

theorem hexDigit_hexPairs (input : List Byte) :
    ∀ char ∈ input.flatMap hexPair, (hexDigit char).isSome = true := by
  intro char member
  rcases List.mem_flatMap.mp member with ⟨byte, _, inPair⟩
  have ⟨high, low⟩ := hexDigit_pair byte
  rcases List.mem_cons.mp inPair with rfl | second
  · rw [high]
    rfl
  · rw [List.mem_singleton.mp second, low]
    rfl

theorem hexBytes_hexPairs (input : List Byte) :
    hexBytes (input.flatMap hexPair) = input := by
  induction input with
  | nil => rfl
  | cons byte input induction =>
      have ⟨high, low⟩ := hexDigit_pair byte
      rw [List.flatMap_cons, hexPair, List.cons_append, List.cons_append, List.nil_append,
        hexBytes, induction, high, low, Option.getD_some, Option.getD_some,
        Nat.div_add_mod', BitVec.ofNat_toNat, BitVec.setWidth_eq]

/-- The digits of the number that the bytes make. -/
theorem hexPairs_eq_lastDigits (input : List Byte) :
    input.flatMap hexPair = (lastDigits (input.length * 2)
      (input.foldl (fun value byte => value * 256 + byte.toNat) 0)).map Nat.digitChar := by
  induction input using List.reverseRecOn with
  | nil => rfl
  | append_singleton input byte induction =>
      have bound := byte.isLt
      rw [List.foldl_append, List.foldl_cons, List.foldl_nil, List.length_append,
        List.length_singleton, Nat.succ_mul, List.flatMap_append, induction]
      generalize input.foldl (fun value byte => value * 256 + byte.toNat) 0 = value
      have front : (value * 256 + byte.toNat) / 16 / 16 = value := by omega
      have high : (value * 256 + byte.toNat) / 16 % 16 = (byte >>> 4).toNat := by
        rw [BitVec.toNat_ushiftRight, Nat.shiftRight_eq_div_pow]
        omega
      have low : (value * 256 + byte.toNat) % 16 = (byte &&& 0xf).toNat := by
        rw [BitVec.toNat_and]
        refine Eq.trans ?_ (Nat.and_two_pow_sub_one_eq_mod byte.toNat 4).symm
        omega
      rw [lastDigits, lastDigits, front, high, low, List.map_append, List.map_append,
        List.append_assoc]
      rfl

end Meshctl.Text
