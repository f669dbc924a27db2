import Meshctl.Db.HexKeys
import Meshctl.Gui.DeviceList

/-! # Selecting a device to provision

The UUID goes back to the program as a part of the line that the list shows, which has
the name of the device in front.
-/

namespace Meshctl.Gui

open Text Db Bytes

/-! ## The window -/

/-- Where `String.indexOf` finds the pattern first. -/
def indexOf (pattern : List Char) : List Char → Option Nat
  | [] => if pattern.isEmpty then some 0 else none
  | char :: chars =>
      if pattern.isPrefixOf (char :: chars) then some 0
      else (indexOf pattern chars).map (· + 1)

def separator : List Char := [':', ' ']

/-- The text that a click on a line hands to `provision`; nothing when `substring` throws
an exception. -/
def mouseClicked (selected : String) : Option String :=
  let device := selected.toList
  let start := match indexOf separator device with
    | some index => index + 2
    | none => 1
  if start ≤ device.length then some (String.ofList (device.drop start)) else none

/-- The C string of a Java string. The character zero takes two bytes in it and a
supplementary one six. A byte of a character that is not ASCII is none of those that a
reader knows. -/
def getStringUTFChars (text : String) : List Char :=
  text.toList.flatMap fun char =>
    if 0 < char.toNat ∧ char.toNat < 0x80 then [char]
    else List.replicate
      (if char.toNat < 0x800 then 2 else if char.toNat < 0x10000 then 3 else 6) '?'

/-- What `cmd_start_prov` is called with. -/
def selectedUuid (device : Device) : Option (List Char) :=
  (mouseClicked device.getDetails).map getStringUTFChars

/-! ## The command -/

/-- `strlen` as an `int`. -/
def uuidLength (uuid : List Char) : Int := (BitVec.ofNat 32 uuid.length).toInt

/-- The two lengths that `cmd_start_prov` passes on. A wrong length is only printed. -/
def uuidInLen (uuid : List Char) : U16 := BitVec.ofInt 16 (uuidLength uuid)

def uuidOutLen (uuid : List Char) : U16 := BitVec.ofInt 16 ((uuidLength uuid).tdiv 2)

/-- What is in `connection.dev_uuid`, and in what follows it when more is stored. -/
def connectionDevUuid (uuid : List Char) : List Byte :=
  (str2hex uuid (uuidInLen uuid) (List.replicate 16 0) (uuidOutLen uuid).toNat).2

/-- How many bytes `str2hex` stores there. -/
def devUuidStored (uuid : List Char) : Nat :=
  str2hexStored uuid (uuidInLen uuid) (uuidOutLen uuid).toNat

/-! ## The line of a device -/

/-- The first separator is the one behind the name exactly when the name has none, also
together with the blank behind it. -/
theorem indexOf_separator (name rest : List Char) :
    ∃ index ≤ name.length + 1,
      indexOf separator (name ++ ' ' :: ':' :: ' ' :: rest) = some index ∧
        (index = name.length + 1 ↔ ¬separator <:+: name ++ [' ']) := by
  induction name with
  | nil =>
      refine ⟨1, Nat.le_refl 1, by simp [indexOf, separator], iff_of_true rfl ?_⟩
      intro inside
      exact absurd inside.length_le (by decide)
  | cons char name induction =>
      have same : separator <+: char :: (name ++ ' ' :: ':' :: ' ' :: rest) ↔
          separator <+: char :: (name ++ [' ']) := by
        cases name <;> simp [separator, List.cons_prefix_cons]
      rw [List.cons_append, List.cons_append, List.infix_cons_iff, not_or, indexOf]
      by_cases here : separator <+: char :: (name ++ [' '])
      · rw [if_pos (List.isPrefixOf_iff_prefix.mpr (same.mpr here))]
        exact ⟨0, Nat.zero_le _, rfl, iff_of_false (Nat.succ_ne_zero _).symm
          fun none => none.1 here⟩
      · rw [if_neg (fun found => here (same.mp (List.isPrefixOf_iff_prefix.mp found)))]
        rcases induction with ⟨index, within, found, first⟩
        refine ⟨index + 1, Nat.succ_le_succ within, by rw [found]; rfl, ?_⟩
        rw [List.length_cons, Nat.add_right_cancel_iff, first]
        exact (and_iff_right here).symm

theorem toList_getDetails (device : Device) :
    device.getDetails.toList =
      (device.name.getD "null").toList ++ ' ' :: ':' :: ' ' :: device.uuid.toList := by
  rw [Device.getDetails, String.toList_append, String.toList_append, List.append_assoc]
  rfl

theorem toList_uuidText (devUuid : List Byte) :
    (uuidText devUuid).toList = devUuid.flatMap hexPair := by
  rw [uuidText, String.toList_join, List.flatMap_map]
  refine List.flatMap_congr fun byte _ => ?_
  have one := hexPairs_eq_lastDigits [byte]
  rw [List.flatMap_singleton, List.foldl_cons, List.foldl_nil, Nat.zero_mul,
    Nat.zero_add] at one
  exact (toList_hexText (by decide) byte.isLt).trans one.symm

theorem getStringUTFChars_uuidText (devUuid : List Byte) :
    getStringUTFChars (uuidText devUuid) = (uuidText devUuid).toList := by
  rw [getStringUTFChars, toList_uuidText]
  refine (List.flatMap_congr fun char member => ?_).trans (List.flatMap_singleton' _)
  have ⟨above, below⟩ := hexDigit_ascii (hexDigit_hexPairs devUuid char member)
  exact if_pos ⟨by omega, below⟩

theorem length_le_getStringUTFChars (text : String) :
    text.toList.length ≤ (getStringUTFChars text).length := by
  rw [getStringUTFChars]
  induction text.toList with
  | nil => exact Nat.le_refl 0
  | cons char chars induction =>
      rw [List.flatMap_cons, List.length_append, List.length_cons, Nat.add_comm]
      refine Nat.add_le_add ?_ induction
      split_ifs <;> simp

/-- What is handed on is the UUID exactly when there is no separator before. -/
theorem selectedUuid_iff (name : Option String) (devUuid : List Byte) :
    selectedUuid { uuid := uuidText devUuid, name } = some (uuidText devUuid).toList ↔
      ¬separator <:+: (name.getD "null").toList ++ [' '] := by
  rcases indexOf_separator (name.getD "null").toList (uuidText devUuid).toList with
    ⟨index, within, found, first⟩
  rw [← first, selectedUuid, mouseClicked, toList_getDetails]
  dsimp only
  rw [found]
  dsimp only
  have length : ((name.getD "null").toList ++
      ' ' :: ':' :: ' ' :: (uuidText devUuid).toList).length =
      (name.getD "null").toList.length + 3 + (uuidText devUuid).toList.length := by
    simp only [List.length_append, List.length_cons]
    omega
  have inside : index + 2 ≤ ((name.getD "null").toList ++
      ' ' :: ':' :: ' ' :: (uuidText devUuid).toList).length := by
    rw [length]
    omega
  rw [if_pos inside, Option.map_some, Option.some_inj]
  constructor
  · intro same
    have longer := length_le_getStringUTFChars (String.ofList (((name.getD "null").toList ++
      ' ' :: ':' :: ' ' :: (uuidText devUuid).toList).drop (index + 2)))
    rw [same, String.toList_ofList, List.length_drop, length] at longer
    omega
  · rintro rfl
    have cut : ((name.getD "null").toList ++
        ' ' :: ':' :: ' ' :: (uuidText devUuid).toList).drop
          ((name.getD "null").toList.length + 1 + 2) = (uuidText devUuid).toList := by
      rw [Nat.add_assoc, ← List.drop_drop, List.drop_left]
      rfl
    rw [cut, String.ofList_toList, getStringUTFChars_uuidText]

/-- The device that is provisioned then is the one of the line. -/
theorem connectionDevUuid_uuidText {devUuid : List Byte} (isLong : devUuid.length = 16) :
    connectionDevUuid (uuidText devUuid).toList = devUuid := by
  have length : (uuidText devUuid).toList.length = 32 := by
    rw [toList_uuidText, length_hexPairs, isLong]
  rw [connectionDevUuid, uuidInLen, uuidOutLen, uuidLength, length, toList_uuidText]
  have read := str2hex_hexPairs devUuid 32 (List.replicate 16 0)
    (by rw [isLong]; decide)
  rw [isLong] at read
  exact (congrArg Prod.snd read).trans (List.append_nil _)

/-! ## Any line and any text -/

/-- The part of a line that is handed on is the UUID exactly when the name has no
separator; and the bytes of a text fit in `dev_uuid` exactly when it is short, or is cut
to a shorter one, or has no number at one of its first pairs. -/
theorem selection_iff (name : Option String) (devUuid : List Byte) (uuid : List Char) :
    (selectedUuid { uuid := uuidText devUuid, name } = some (uuidText devUuid).toList ↔
        ¬separator <:+: (name.getD "null").toList ++ [' ']) ∧
      (devUuidStored uuid ≤ 16 ↔
        (uuidOutLen uuid).toNat ≤ 16 ∨
          (uuidInLen uuid).toNat < (uuidOutLen uuid).toNat * 2 ∨
            ∃ index ≤ 16, ¬NumberAhead (uuid.drop (index * 2))) :=
  ⟨selectedUuid_iff name devUuid, str2hexStored_le_iff uuid _ _ 16⟩

/-! ### A name with a separator -/

/-- Behind the separator of its name the device has seventeen bytes in hexadecimal. -/
def longName : String := "x: 0000000000000000000000000000000000"

theorem selection_not_always_shown :
    (¬∀ (name : String) (devUuid : List Byte), devUuid.length = 16 →
      selectedUuid { uuid := uuidText devUuid, name := some name } =
        some (uuidText devUuid).toList) ∧
    ¬∀ uuid, devUuidStored uuid ≤ 16 := by
  constructor
  · intro always
    have shown := (selectedUuid_iff _ _).mp
      (always longName (List.replicate 16 0) (List.length_replicate ..))
    exact shown (by decide)
  · intro always
    have cut := always ((mouseClicked (longName ++ " : 00")).elim [] getStringUTFChars)
    exact absurd cut (by decide +kernel)

end Meshctl.Gui
