import Mathlib

/-! # Numbers as text

What `printf` writes for an unsigned number, and what `sscanf` and `strtoll`
read from the front of a text.
-/

namespace Meshctl.Text

/-! ## Writing -/

/-- What `printf` writes for an unsigned number in lower-case hexadecimal, with
zeros in front up to `width` digits. -/
def hexText (width value : Nat) : String :=
  let digits := Nat.toDigits 16 value
  String.ofList (List.replicate (width - digits.length) '0' ++ digits)

/-! ## Reading -/

/-- The bytes of a text up to the first zero. A byte of a character that is not
ASCII is none of those that a reader knows. -/
def cString (text : String) : List Char :=
  (text.toList.takeWhile fun char => char.toNat ≠ 0).flatMap fun char =>
    if char.toNat < 128 then [char]
    else List.replicate char.utf8Size '?'

def isSpace (char : Char) : Bool :=
  char = ' ' || (9 ≤ char.toNat && char.toNat ≤ 13)

def decimalDigit (char : Char) : Option Nat :=
  if '0' ≤ char ∧ char ≤ '9' then some (char.toNat - 48) else none

def hexDigit (char : Char) : Option Nat :=
  if '0' ≤ char ∧ char ≤ '9' then some (char.toNat - 48)
  else if 'a' ≤ char ∧ char ≤ 'f' then some (char.toNat - 87)
  else if 'A' ≤ char ∧ char ≤ 'F' then some (char.toNat - 55)
  else none

/-- The digits a text starts with. -/
def digitPrefix (digit : Char → Option Nat) : List Char → List Nat
  | [] => []
  | char :: chars =>
      match digit char with
      | none => []
      | some value => value :: digitPrefix digit chars

def digitsValue (base : Nat) (digits : List Nat) : Nat :=
  digits.foldl (fun value digit => value * base + digit) 0

/-- Skip white space and a sign. -/
def readSign (chars : List Char) : Bool × List Char :=
  match chars.dropWhile isSpace with
  | '-' :: rest => (true, rest)
  | '+' :: rest => (false, rest)
  | rest => (false, rest)

def signed (negative : Bool) (value : Nat) : Int :=
  if negative then -value else value

/-- The digits of a field that may start with the mark `0x`, whose zero
counts. -/
def fieldDigits : List Char → List Nat
  | '0' :: 'x' :: rest => 0 :: digitPrefix hexDigit rest
  | '0' :: 'X' :: rest => 0 :: digitPrefix hexDigit rest
  | field => digitPrefix hexDigit field

/-- `sscanf` with `%x` and a maximal field width, which a sign and the mark
count against. -/
def scanHex (width : Nat) (chars : List Char) : Option Int :=
  let start := chars.dropWhile isSpace
  let (negative, rest) := readSign chars
  let digits := fieldDigits (rest.take (width - (start.length - rest.length)))
  if digits.isEmpty then none else some (signed negative (digitsValue 16 digits))

/-- `strtoll` to base ten: nothing when the text does not start with a
number. -/
def scanDecimal (chars : List Char) : Option Int :=
  let (negative, rest) := readSign chars
  let digits := digitPrefix decimalDigit rest
  if digits.isEmpty then none else some (signed negative (digitsValue 10 digits))

/-! ## The digits that are written -/

/-- The last `width` digits of a number, the highest first. -/
def lastDigits : Nat → Nat → List Nat
  | 0, _ => []
  | width + 1, value => lastDigits width (value / 16) ++ [value % 16]

theorem length_lastDigits (width value : Nat) :
    (lastDigits width value).length = width := by
  induction width generalizing value with
  | zero => rfl
  | succ width induction => simp [lastDigits, induction]

theorem lastDigits_lt {width value digit : Nat}
    (member : digit ∈ lastDigits width value) : digit < 16 := by
  induction width generalizing value with
  | zero => cases member
  | succ width induction =>
      rcases List.mem_append.mp member with earlier | last
      · exact induction earlier
      · rw [List.mem_singleton.mp last]
        exact Nat.mod_lt _ (by decide)

theorem lastDigits_zero (width : Nat) :
    lastDigits width 0 = List.replicate width 0 := by
  induction width with
  | zero => rfl
  | succ width induction =>
      rw [lastDigits, Nat.zero_div, Nat.zero_mod, induction,
        ← List.replicate_succ']

/-- A number that fits is written with exactly `width` digits. -/
theorem toList_hexText {width value : Nat} (positive : 0 < width)
    (fits : value < 16 ^ width) :
    (hexText width value).toList =
      (lastDigits width value).map Nat.digitChar := by
  rw [hexText, String.toList_ofList]
  induction width generalizing value with
  | zero => cases positive
  | succ width induction =>
      rw [lastDigits, List.map_append]
      by_cases small : value < 16
      · rw [Nat.toDigits_of_lt_base small, Nat.div_eq_of_lt small,
          Nat.mod_eq_of_lt small, lastDigits_zero]
        simp
      · have high : value / 16 < 16 ^ width := by
          rw [Nat.div_lt_iff_lt_mul (by decide), ← Nat.pow_succ]
          exact fits
        have more : 0 < width := by
          rcases Nat.eq_zero_or_pos width with none | some
          · subst none
            omega
          · exact some
        rw [← induction more high,
          Nat.toDigits_of_base_le (by decide) (Nat.le_of_not_lt small)]
        simp [Nat.add_sub_add_right]

/-- Digits are ASCII, so a text of digits is its own bytes. -/
theorem cString_of_digits {text : String} {digits : List Nat}
    (written : text.toList = digits.map Nat.digitChar)
    (small : ∀ digit ∈ digits, digit < 16) : cString text = text.toList := by
  have ascii : ∀ digit ∈ digits,
      digit.digitChar.toNat ≠ 0 ∧ digit.digitChar.toNat < 128 := by
    intro digit member
    have bound := small digit member
    interval_cases digit <;> decide
  have whole : (digits.map Nat.digitChar).takeWhile
      (fun char => char.toNat ≠ 0) = digits.map Nat.digitChar := by
    rw [List.takeWhile_eq_self_iff]
    intro char member
    rcases List.mem_map.mp member with ⟨digit, inDigits, rfl⟩
    simpa using (ascii digit inDigits).1
  rw [cString, written, whole, List.flatMap_map, List.map_eq_flatMap]
  exact List.flatMap_congr fun digit member => if_pos (ascii digit member).2

theorem cString_hexText {width value : Nat} (positive : 0 < width)
    (fits : value < 16 ^ width) :
    cString (hexText width value) = (hexText width value).toList :=
  cString_of_digits (toList_hexText positive fits)
    fun _ member => lastDigits_lt member

/-! ## Reading back what was written -/

theorem hexDigit_digitChar {digit : Nat} (small : digit < 16) :
    hexDigit digit.digitChar = some digit := by
  interval_cases digit <;> decide

theorem decimalDigit_digitChar {digit : Nat} (small : digit < 16) :
    decimalDigit digit.digitChar = if digit < 10 then some digit else none := by
  interval_cases digit <;> decide

theorem digitPrefix_digitChar {digits : List Nat}
    (small : ∀ digit ∈ digits, digit < 16) :
    digitPrefix hexDigit (digits.map Nat.digitChar) = digits := by
  induction digits with
  | nil => rfl
  | cons digit digits induction =>
      rw [List.map_cons, digitPrefix,
        hexDigit_digitChar (small digit List.mem_cons_self)]
      simp only
      rw [induction fun other member =>
        small other (List.mem_cons_of_mem _ member)]

theorem digitsValue_lastDigits (width value : Nat) :
    digitsValue 16 (lastDigits width value) = value % 16 ^ width := by
  induction width generalizing value with
  | zero => simp [lastDigits, digitsValue, Nat.mod_one]
  | succ width induction =>
      have before := induction (value / 16)
      rw [digitsValue] at before
      rw [lastDigits, digitsValue, List.foldl_append, before, List.foldl_cons,
        List.foldl_nil, Nat.pow_succ', Nat.mod_mul]
      ring

/-- Nothing is skipped in front of a hexadecimal digit. -/
theorem readSign_digit {digit : Nat} (small : digit < 16) (chars : List Char) :
    readSign (digit.digitChar :: chars) = (false, digit.digitChar :: chars) ∧
      (digit.digitChar :: chars).dropWhile isSpace =
        digit.digitChar :: chars := by
  interval_cases digit <;> exact ⟨rfl, rfl⟩

theorem fieldDigits_digitChar {digits : List Nat}
    (small : ∀ digit ∈ digits, digit < 16) :
    fieldDigits (digits.map Nat.digitChar) = digits := by
  have unmarked : ∀ digit ∈ digits,
      digit.digitChar ≠ 'x' ∧ digit.digitChar ≠ 'X' := by
    intro digit member
    have bound := small digit member
    interval_cases digit <;> decide
  unfold fieldDigits
  split
  · next mark =>
      rcases digits with _ | ⟨first, _ | ⟨second, rest⟩⟩
      · cases mark
      · exact absurd (congrArg List.length mark) (by simp)
      · rw [List.map_cons, List.map_cons] at mark
        exact absurd (List.cons.inj (List.cons.inj mark).2).1
          (unmarked second (by simp)).1
  · next mark =>
      rcases digits with _ | ⟨first, _ | ⟨second, rest⟩⟩
      · cases mark
      · exact absurd (congrArg List.length mark) (by simp)
      · rw [List.map_cons, List.map_cons] at mark
        exact absurd (List.cons.inj (List.cons.inj mark).2).1
          (unmarked second (by simp)).2
  · exact digitPrefix_digitChar small

/-- As many digits are read as fit in the field. -/
theorem scanHex_digits {width : Nat} {digits : List Nat} (positive : 0 < width)
    (small : ∀ digit ∈ digits, digit < 16) (some : digits ≠ []) :
    scanHex width (digits.map Nat.digitChar) =
      .some (digitsValue 16 (digits.take width) : Int) := by
  rcases List.exists_cons_of_ne_nil some with ⟨digit, rest, rfl⟩
  rcases readSign_digit (small digit List.mem_cons_self)
    (rest.map Nat.digitChar) with ⟨sign, start⟩
  rw [← List.map_cons] at sign start
  rcases Nat.exists_eq_succ_of_ne_zero positive.ne' with ⟨more, rfl⟩
  rw [scanHex, sign, start]
  simp only [Nat.sub_self, Nat.sub_zero]
  rw [← List.map_take, fieldDigits_digitChar fun other member =>
    small other (List.mem_of_mem_take member)]
  rfl

/-- A number is read back from its text with any field that the text fits in. -/
theorem scanHex_hexText_of_le {width field value : Nat} (positive : 0 < width)
    (wide : width ≤ field) (fits : value < 16 ^ width) :
    scanHex field (hexText width value).toList = some (value : Int) := by
  have written : lastDigits width value ≠ [] := by
    intro none
    rw [← length_lastDigits width value, none] at positive
    cases positive
  rw [toList_hexText positive fits, scanHex_digits (lt_of_lt_of_le positive wide)
    (fun _ member => lastDigits_lt member) written,
    List.take_of_length_le ((length_lastDigits width value).trans_le wide),
    digitsValue_lastDigits, Nat.mod_eq_of_lt fits]

theorem scanHex_hexText {width value : Nat} (positive : 0 < width)
    (fits : value < 16 ^ width) :
    scanHex width (hexText width value).toList = some (value : Int) :=
  scanHex_hexText_of_le positive (Nat.le_refl width) fits

/-! ### Reading hexadecimal text as a decimal number -/

/-- The decimal number that a hexadecimal text of four digits starts with. -/
def decimalPrefix (value : Nat) : Nat :=
  digitsValue 10 (digitPrefix decimalDigit (hexText 4 value).toList)

theorem digitPrefix_decimal {digits : List Nat}
    (small : ∀ digit ∈ digits, digit < 16) :
    digitPrefix decimalDigit (digits.map Nat.digitChar) =
      digits.takeWhile (· < 10) := by
  induction digits with
  | nil => rfl
  | cons digit digits induction =>
      have bound := small digit List.mem_cons_self
      have rest := induction fun other member =>
        small other (List.mem_cons_of_mem _ member)
      rw [List.map_cons, digitPrefix, decimalDigit_digitChar bound]
      by_cases decimal : digit < 10
      · simp [decimal, rest]
      · simp [decimal]

theorem decimalPrefix_eq {value : Nat} (fits : value < 65536) :
    decimalPrefix value =
      digitsValue 10 ((lastDigits 4 value).takeWhile (· < 10)) := by
  rw [decimalPrefix, toList_hexText (by decide) fits,
    digitPrefix_decimal fun _ member => lastDigits_lt member]

/-- The decimal reading of a hexadecimal text is never the larger one, and the
two agree on one digit and on nothing else. -/
theorem decimalPrefix_spec {value : Nat} (fits : value < 65536) :
    decimalPrefix value ≤ value ∧ (decimalPrefix value = value ↔ value < 10) := by
  rw [decimalPrefix_eq fits]
  have expansion : value = 4096 * (value / 16 / 16 / 16 % 16) +
      256 * (value / 16 / 16 % 16) + 16 * (value / 16 % 16) + value % 16 := by
    omega
  simp only [lastDigits, List.nil_append, List.cons_append]
  generalize value / 16 / 16 / 16 % 16 = first at *
  generalize value / 16 / 16 % 16 = second at *
  generalize value / 16 % 16 = third at *
  generalize value % 16 = fourth at *
  by_cases firstDecimal : first < 10 <;> by_cases secondDecimal : second < 10 <;>
    by_cases thirdDecimal : third < 10 <;> by_cases fourthDecimal : fourth < 10 <;>
    simp only [List.takeWhile, firstDecimal, secondDecimal, thirdDecimal,
      fourthDecimal, decide_true, decide_false, digitsValue, List.foldl_cons,
      List.foldl_nil] <;>
    omega

theorem scanDecimal_hexText {value : Nat} (fits : value < 65536) :
    (scanDecimal (hexText 4 value).toList).getD 0 = decimalPrefix value := by
  have written := toList_hexText (by decide : 0 < 4) fits
  have sign : readSign (hexText 4 value).toList =
      (false, (hexText 4 value).toList) := by
    rw [written]
    exact (readSign_digit (Nat.mod_lt _ (by decide)) _).1
  rw [scanDecimal, sign, decimalPrefix]
  simp only
  cases digitPrefix decimalDigit (hexText 4 value).toList <;> rfl

end Meshctl.Text
