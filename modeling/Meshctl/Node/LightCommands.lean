import Meshctl.Foundation.Hex
import Meshctl.Node.ClientCommands

/-! # Commands of the lighting models

The three client models for light read the numbers of a command in the same way, and
each puts them into a message of its own.
-/

namespace Meshctl.Node

open Bytes Text

/-! ## Reading the arguments -/

/-- What is in the place of a number that was not read. -/
def notRead : U32 := 0xffffffff

/-- `sscanf` with `%d`. What it stores for a number that is no `int` is not defined. -/
def storeInt (overflow : Int → U32) (number : Int) : U32 :=
  if -0x80000000 ≤ number ∧ number < 0x80000000 then BitVec.ofInt 32 number
  else overflow number

/-- The loop of `read_input_parameters` over the arguments from the one with `index` on. -/
def readLoop (overflow : Int → U32) :
    List (List Char) → Nat → (Nat → U32) → Nat × (Nat → U32)
  | [], index, parms => (index, parms)
  | arg :: args, index, parms =>
      if index < 8 then
        let parms := match scanDecimal arg with
          | some number => Function.update parms index (storeInt overflow number)
          | none => parms
        if parms index = notRead then (index, parms)
        else readLoop overflow args (index + 1) parms
      else (index, parms)

/-- Without arguments the numbers of the command before are left. -/
def readInputParameters (overflow : Int → U32) (parms : Nat → U32) :
    List (List Char) → Nat × (Nat → U32)
  | [] => (0, parms)
  | _ :: args =>
      if args.headD [] = [] then (0, parms)
      else readLoop overflow args 0 fun _ => notRead

/-! ## The commands -/

/-- The static variables of a model. -/
structure LightState where
  target : U32
  parms : Nat → U32
  transId : Byte

/-- What `sscanf` stores for a number that is too large, the nodes that are known, and
whether there is a local one. -/
structure LightEnv where
  overflow : Int → U32
  nodeFindByAddr : U16 → Bool
  localNode : Bool

/-- How `cmd_set` goes in each model: the check of the numbers, the message, and the
numbers that it leaves. -/
def cmdSet (badArguments : Nat → (Nat → U32) → Bool)
    (message : (Nat → U32) → Byte → List Byte) (left : (Nat → U32) → Nat → U32)
    (env : LightEnv) (st : LightState) (argv : List (List Char)) :
    LightState × Option (List Byte) :=
  if st.target = 0 then (st, none)
  else if !env.nodeFindByAddr (st.target.setWidth 16) then (st, none)
  else
    let (count, parms) := readInputParameters env.overflow st.parms argv
    if badArguments count parms then ({ st with parms }, none)
    else
      ({ st with parms := left parms, transId := st.transId + 1 },
        if env.localNode then some (message parms st.transId) else none)

/-- The message of a model: its values for the light, and the transition and the delay
behind the transaction number. -/
def lightMessage (opcode : U32) (lights : List U32) (transId : Byte)
    (transition delay : U32) : List Byte :=
  meshOpcodeSet opcode ++ lights.flatMap (fun light => le16 (light.setWidth 16)) ++
    [transId, transition.setWidth 8, (delay / 5).setWidth 8]

/-! ### Lightness -/

def opLightnessSet : U32 := 0x824c

/-- Two comparisons that no unsigned number passes. -/
def lightnessBadArguments (count : Nat) (parms : Nat → U32) : Bool :=
  count ≠ 1 && parms 0 < 0 && parms 0 > 100

def lightnessMessage (parms : Nat → U32) (transId : Byte) : List Byte :=
  lightMessage opLightnessSet [parms 0] transId (parms 1) (parms 2)

def lightnessLeft (parms : Nat → U32) : Nat → U32 :=
  Function.update parms 2 (parms 2 / 5)

def lightnessCmdSet : LightEnv → LightState → List (List Char) →
    LightState × Option (List Byte) :=
  cmdSet lightnessBadArguments lightnessMessage lightnessLeft

/-! ### Colour temperature -/

def opLightCtlSet : U32 := 0x825e

def ctlBadArguments (count : Nat) (parms : Nat → U32) : Bool :=
  count ≠ 1 && (parms 0 > 20000 && parms 0 < 800) && (parms 1 > 100 && parms 1 < 0) &&
    (parms 2 > 64 && parms 2 < 0) && (parms 3 > 1280 && parms 3 < 0)

/-- The lightness comes before the temperature, and a zero for the distance to the black
body after it. -/
def ctlMessage (parms : Nat → U32) (transId : Byte) : List Byte :=
  lightMessage opLightCtlSet [parms 1, parms 0, 0] transId (parms 2) (parms 3)

def ctlLeft (parms : Nat → U32) : Nat → U32 :=
  Function.update (Function.update parms 1 0) 3 (parms 3 / 5)

def ctlCmdSet : LightEnv → LightState → List (List Char) →
    LightState × Option (List Byte) :=
  cmdSet ctlBadArguments ctlMessage ctlLeft

/-! ### Hue, saturation and lightness -/

def opLightHslSet : U32 := 0x8276

def hslBadArguments (count : Nat) (parms : Nat → U32) : Bool :=
  count ≠ 1 && (parms 0 > 360 || parms 0 < 0) && (parms 1 > 100 || parms 1 < 0) &&
    (parms 2 > 100 || parms 2 < 0)

/-- The lightness comes first. -/
def hslMessage (parms : Nat → U32) (transId : Byte) : List Byte :=
  lightMessage opLightHslSet [parms 2, parms 0, parms 1] transId (parms 3) (parms 4)

def hslLeft (parms : Nat → U32) : Nat → U32 :=
  Function.update parms 4 (parms 4 / 5)

def hslCmdSet : LightEnv → LightState → List (List Char) →
    LightState × Option (List Byte) :=
  cmdSet hslBadArguments hslMessage hslLeft

/-! ## What is read -/

def storedNumber (overflow : Int → U32) (arg : List Char) : U32 :=
  (scanDecimal arg).elim notRead (storeInt overflow)

/-- The numbers of up to eight arguments, as far as there are any. -/
def numbersAhead (overflow : Int → U32) (count : Nat) (args : List (List Char)) : List U32 :=
  ((args.take count).map (storedNumber overflow)).takeWhile (· ≠ notRead)

theorem numbersAhead_cons (overflow : Int → U32) (count : Nat) (arg : List Char)
    (args : List (List Char)) :
    numbersAhead overflow (count + 1) (arg :: args) =
      if storedNumber overflow arg = notRead then []
      else storedNumber overflow arg :: numbersAhead overflow count args := by
  rw [numbersAhead, List.take_succ_cons, List.map_cons, List.takeWhile_cons]
  split_ifs <;> simp_all [numbersAhead]

/-- The array at some turn of the loop: the numbers are behind the ones before. -/
def parmsFrom (index : Nat) (parms : Nat → U32) (numbers : List U32) : Nat → U32 :=
  fun other => if other < index then parms other else numbers.getD (other - index) notRead

theorem parmsFrom_nil {index : Nat} {parms : Nat → U32}
    (unread : ∀ later ≥ index, parms later = notRead) : parmsFrom index parms [] = parms := by
  funext other
  rw [parmsFrom, List.getD_nil]
  split
  · rfl
  · next later => exact (unread other (Nat.not_lt.mp later)).symm

theorem parmsFrom_cons (index : Nat) (parms : Nat → U32) (number : U32)
    (numbers : List U32) :
    parmsFrom index parms (number :: numbers) =
      parmsFrom (index + 1) (Function.update parms index number) numbers := by
  funext other
  rw [parmsFrom, parmsFrom]
  rcases Nat.lt_trichotomy other index with before | same | behind
  · rw [if_pos before, if_pos (Nat.lt_succ_of_lt before),
      Function.update_of_ne (Nat.ne_of_lt before)]
  · subst same
    rw [if_neg (Nat.lt_irrefl _), if_pos (Nat.lt_succ_self _), Function.update_self,
      Nat.sub_self, List.getD_cons_zero]
  · have distance : other - index = other - (index + 1) + 1 := by omega
    rw [if_neg (Nat.not_lt.mpr (Nat.le_of_lt behind)), if_neg (Nat.not_lt.mpr behind),
      distance, List.getD_cons_succ]

theorem readLoop_eq (overflow : Int → U32) (args : List (List Char)) {count index : Nat}
    (within : index + count = 8) {parms : Nat → U32}
    (unread : ∀ later ≥ index, parms later = notRead) :
    readLoop overflow args index parms =
      (index + (numbersAhead overflow count args).length,
        parmsFrom index parms (numbersAhead overflow count args)) := by
  induction args generalizing count index parms with
  | nil => simp [readLoop, numbersAhead, parmsFrom_nil unread]
  | cons arg args induction =>
      cases count with
      | zero =>
          rw [readLoop, if_neg (by omega)]
          simp [numbersAhead, parmsFrom_nil unread]
      | succ count =>
          have stored : (match scanDecimal arg with
              | some number => Function.update parms index (storeInt overflow number)
              | none => parms) = Function.update parms index (storedNumber overflow arg) := by
            rw [storedNumber]
            cases scanDecimal arg with
            | some number => rfl
            | none => exact (Function.update_eq_self_iff.mpr
                (unread index (Nat.le_refl _)).symm).symm
          rw [readLoop, if_pos (by omega), numbersAhead_cons]
          simp only [stored, Function.update_self]
          split
          · next none =>
              have same : Function.update parms index (storedNumber overflow arg) = parms := by
                rw [none]
                exact Function.update_eq_self_iff.mpr (unread index (Nat.le_refl _)).symm
              rw [same, parmsFrom_nil unread]
              rfl
          · have later : ∀ later ≥ index + 1,
                Function.update parms index (storedNumber overflow arg) later = notRead :=
              fun later behind => (Function.update_of_ne (by omega) _ _).trans
                (unread later (by omega))
            have turn : index + 1 + count = 8 := by omega
            rw [induction turn later, ← parmsFrom_cons, List.length_cons,
              Nat.add_right_comm, Nat.add_assoc]

/-- How many numbers are read. -/
def countRead (overflow : Int → U32) (argv : List (List Char)) : Nat :=
  if argv.tail.headD [] = [] then 0 else (numbersAhead overflow 8 argv.tail).length

/-- The numbers that a command goes on with. -/
def parmsRead (overflow : Int → U32) (parms : Nat → U32) (argv : List (List Char)) :
    Nat → U32 :=
  if argv.tail.headD [] = [] then parms
  else fun index => (numbersAhead overflow 8 argv.tail).getD index notRead

theorem readInputParameters_eq (overflow : Int → U32) (parms : Nat → U32)
    (argv : List (List Char)) :
    readInputParameters overflow parms argv =
      (countRead overflow argv, parmsRead overflow parms argv) := by
  rw [countRead, parmsRead]
  cases argv with
  | nil => rfl
  | cons name args =>
      rw [readInputParameters, List.tail_cons, readLoop_eq overflow args (Nat.zero_add 8)
        fun _ _ => rfl, Nat.zero_add]
      split
      · rfl
      · rfl

/-! ## What is given -/

/-- The arguments begin with a number in each of the ranges. -/
def InRange : List (Int × Int) → List (List Char) → Prop
  | [], _ => True
  | _ :: _, [] => False
  | range :: ranges, arg :: args =>
      (∃ value ∈ scanDecimal arg, range.1 ≤ value ∧ value ≤ range.2) ∧ InRange ranges args

def givenValues (count : Nat) (args : List (List Char)) : List Int :=
  (args.take count).map fun arg => (scanDecimal arg).getD 0

theorem givenValues_inRange {ranges : List (Int × Int)} {args : List (List Char)}
    (inRange : InRange ranges args) :
    List.Forall₂ (fun range value => range.1 ≤ value ∧ value ≤ range.2) ranges
      (givenValues ranges.length args) := by
  induction ranges generalizing args with
  | nil => exact List.Forall₂.nil
  | cons range ranges induction =>
      cases args with
      | nil => exact inRange.elim
      | cons arg args =>
          rcases inRange with ⟨⟨value, isValue, within⟩, later⟩
          have isGiven : givenValues (range :: ranges).length (arg :: args) =
              value :: givenValues ranges.length args := by
            rw [givenValues, List.length_cons, List.take_succ_cons, List.map_cons, isValue]
            rfl
          rw [isGiven]
          exact List.Forall₂.cons within (induction later)

/-- Numbers in ranges like these are read as they are given. -/
theorem numbersAhead_inRange (overflow : Int → U32) {ranges : List (Int × Int)}
    (light : ∀ range ∈ ranges, 0 ≤ range.1 ∧ range.2 ≤ 20000) {count : Nat}
    (enough : ranges.length ≤ count) {args : List (List Char)}
    (inRange : InRange ranges args) :
    (givenValues ranges.length args).map (BitVec.ofInt 32) <+:
      numbersAhead overflow count args := by
  induction ranges generalizing args count with
  | nil => exact List.nil_prefix
  | cons range ranges induction =>
      cases args with
      | nil => exact inRange.elim
      | cons arg args =>
          rcases inRange with ⟨⟨value, isValue, within⟩, later⟩
          rw [List.forall_mem_cons] at light
          cases count with
          | zero => exact absurd enough (Nat.not_succ_le_zero _)
          | succ count =>
              have stored : storedNumber overflow arg = BitVec.ofInt 32 value := by
                rw [storedNumber, isValue, Option.elim_some, storeInt, if_pos (by omega)]
              have isRead : BitVec.ofInt 32 value ≠ notRead := by
                intro same
                have number := congrArg BitVec.toNat same
                rw [BitVec.toNat_ofInt] at number
                change _ = 0xffffffff at number
                omega
              rw [numbersAhead_cons, stored, if_neg isRead, givenValues, List.length_cons,
                List.take_succ_cons, List.map_cons, List.map_cons, isValue]
              exact (List.prefix_cons_inj _).mpr
                (induction light.2 (Nat.le_of_succ_le_succ enough) later)

/-! ## What is carried -/

/-- The values at these places of a message, the transition, and the delay in
milliseconds. -/
def decodeLight (opcode : U32) (lights : Nat) (places : List Nat) (msg : List Byte) :
    Option (List Int) :=
  let data := msg.drop 2
  if msg.take 2 = meshOpcodeSet opcode ∧ data.length = lights * 2 + 3 then
    some (places.map (fun place => ((getLe16 data (place * 2)).toNat : Int)) ++
      [((get data (lights * 2 + 1)).toNat : Int), (get data (lights * 2 + 2)).toNat * 5])
  else none

inductive LightModel where
  | lightness
  | ctl
  | hsl
deriving DecidableEq

namespace LightModel

def cmdSet : LightModel → LightEnv → LightState → List (List Char) →
    LightState × Option (List Byte)
  | .lightness => lightnessCmdSet
  | .ctl => ctlCmdSet
  | .hsl => hslCmdSet

/-- The ranges in the text about bad arguments, with those of the transition and the
delay in the end. -/
def usage : LightModel → List (Int × Int)
  | .lightness => [(0, 100), (0, 64), (0, 1280)]
  | .ctl => [(800, 20000), (0, 100), (0, 64), (0, 1280)]
  | .hsl => [(0, 360), (0, 100), (0, 100), (0, 64), (0, 1280)]

def message : LightModel → (Nat → U32) → Byte → List Byte
  | .lightness => lightnessMessage
  | .ctl => ctlMessage
  | .hsl => hslMessage

/-- What a message says, in the order of the arguments. -/
def decode : LightModel → List Byte → Option (List Int)
  | .lightness => decodeLight opLightnessSet 1 [0]
  | .ctl => decodeLight opLightCtlSet 3 [1, 0]
  | .hsl => decodeLight opLightHslSet 3 [1, 2, 0]

end LightModel

/-- The delay, which comes last, rounded down to what a message can say. -/
def roundDelay : List Int → List Int
  | [] => []
  | [delay] => [delay / 5 * 5]
  | value :: values => value :: roundDelay values

/-- A message that is sent says what was given in the ranges of the usage text. -/
def CarriesGiven (model : LightModel) (env : LightEnv) (st : LightState)
    (argv : List (List Char)) : Prop :=
  ∀ msg, (model.cmdSet env st argv).2 = some msg →
    InRange model.usage argv.tail ∧
      model.decode msg = some (roundDelay (givenValues model.usage.length argv.tail))

/-- No message is sent: there is no target, or none that is known, or no local node. -/
def NoTarget (env : LightEnv) (st : LightState) : Prop :=
  st.target = 0 ∨ env.nodeFindByAddr (st.target.setWidth 16) = false ∨
    env.localNode = false

instance (env : LightEnv) (st : LightState) : Decidable (NoTarget env st) :=
  inferInstanceAs (Decidable (_ ∨ _ ∨ _))

theorem cmdSet_sent (badArguments : Nat → (Nat → U32) → Bool)
    (message : (Nat → U32) → Byte → List Byte) (left : (Nat → U32) → Nat → U32)
    (env : LightEnv) (st : LightState) (argv : List (List Char)) :
    (cmdSet badArguments message left env st argv).2 =
      if NoTarget env st ∨ badArguments (countRead env.overflow argv)
        (parmsRead env.overflow st.parms argv) = true then none
      else some (message (parmsRead env.overflow st.parms argv) st.transId) := by
  rw [cmdSet, readInputParameters_eq]
  by_cases unset : st.target = 0
  · have quiet : NoTarget env st := Or.inl unset
    rw [if_pos unset, if_pos (Or.inl quiet)]
  · rw [if_neg unset]
    cases known : env.nodeFindByAddr (st.target.setWidth 16) with
    | false =>
        have quiet : NoTarget env st := Or.inr (Or.inl known)
        rw [if_pos (Or.inl quiet)]
        rfl
    | true =>
        cases bad : badArguments (countRead env.overflow argv)
            (parmsRead env.overflow st.parms argv) with
        | true => simp [bad]
        | false =>
            cases isLocal : env.localNode with
            | false =>
                have quiet : NoTarget env st := Or.inr (Or.inr isLocal)
                rw [if_pos (Or.inl quiet)]
                simp [bad]
            | true =>
                have target : ¬NoTarget env st := by
                  rintro (none | unknown | absent)
                  · exact unset none
                  · rw [known] at unknown
                    cases unknown
                  · rw [isLocal] at absent
                    cases absent
                rw [if_neg (not_or.mpr ⟨target, Bool.false_ne_true⟩)]
                simp [bad]

/-! ## The check of each model -/

/-- No lightness is refused. -/
theorem lightnessBadArguments_eq (count : Nat) (parms : Nat → U32) :
    lightnessBadArguments count parms = false := by
  simp [lightnessBadArguments]

theorem ctlBadArguments_eq (count : Nat) (parms : Nat → U32) :
    ctlBadArguments count parms = false := by
  simp [ctlBadArguments]

/-- The numbers of the colour are all too large, and not just one was read. -/
def HslRefused (env : LightEnv) (st : LightState) (argv : List (List Char)) : Prop :=
  countRead env.overflow argv ≠ 1 ∧ parmsRead env.overflow st.parms argv 0 > 360 ∧
    parmsRead env.overflow st.parms argv 1 > 100 ∧
    parmsRead env.overflow st.parms argv 2 > 100

theorem hslBadArguments_iff (env : LightEnv) (st : LightState) (argv : List (List Char)) :
    hslBadArguments (countRead env.overflow argv)
        (parmsRead env.overflow st.parms argv) = true ↔ HslRefused env st argv := by
  simp [hslBadArguments, HslRefused, and_assoc]

/-! ## The message of each model -/

theorem toNat_low16 {value : Int} (positive : 0 ≤ value) (small : value ≤ 20000) :
    ((((BitVec.ofInt 32 value).setWidth 16 : U16).toNat : Nat) : Int) = value := by
  rw [BitVec.toNat_setWidth, BitVec.toNat_ofInt]
  omega

theorem toNat_low8 {value : Int} (positive : 0 ≤ value) (small : value ≤ 255) :
    ((((BitVec.ofInt 32 value).setWidth 8 : Byte).toNat : Nat) : Int) = value := by
  rw [BitVec.toNat_setWidth, BitVec.toNat_ofInt]
  omega

/-- Steps of the delay from 256 on are lost. -/
theorem toNat_steps {delay : Int} (positive : 0 ≤ delay) (small : delay ≤ 1280) :
    (((((BitVec.ofInt 32 delay) / 5).setWidth 8 : Byte).toNat : Nat) : Int) * 5 =
      delay / 5 * 5 ↔ delay ≠ 1280 := by
  have five : (5 : U32).toNat = 5 := rfl
  rw [BitVec.toNat_setWidth, BitVec.toNat_udiv, BitVec.toNat_ofInt, five]
  omega

theorem length_lights (lights : List U32) :
    (lights.flatMap fun light => le16 (light.setWidth 16)).length = lights.length * 2 := by
  induction lights with
  | nil => rfl
  | cons light lights induction =>
      rw [List.flatMap_cons, List.length_append, induction, List.length_cons, Nat.succ_mul,
        Nat.add_comm]
      rfl

theorem getLe16_lights (lights : List U32) (rest : List Byte) {place : Nat}
    (inside : place < lights.length) :
    getLe16 (lights.flatMap (fun light => le16 (light.setWidth 16)) ++ rest) (place * 2) =
      (lights.getD place 0).setWidth 16 := by
  induction lights generalizing place with
  | nil => exact absurd inside (Nat.not_lt_zero _)
  | cons light lights induction =>
      cases place with
      | zero => exact getLe16_of_le16 rfl rfl
      | succ place =>
          have skip : ∀ (first second : Byte) (bytes : List Byte) (offset : Nat),
              getLe16 (first :: second :: bytes) (offset + 2) = getLe16 bytes offset :=
            fun _ _ _ _ => rfl
          rw [List.flatMap_cons, Nat.succ_mul, List.getD_cons_succ,
            ← induction (Nat.lt_of_succ_lt_succ inside)]
          exact skip _ _ _ _

/-- A message says what was put into it. -/
theorem decodeLight_lightMessage (opcode : U32) (lights : List U32) (places : List Nat)
    (transId : Byte) (transition delay : U32) (two : (meshOpcodeSet opcode).length = 2)
    (inside : ∀ place ∈ places, place < lights.length) :
    decodeLight opcode lights.length places
        (lightMessage opcode lights transId transition delay) =
      some (places.map (fun place => ((((lights.getD place 0).setWidth 16 : U16).toNat : Nat) :
          Int)) ++
        [(((transition.setWidth 8 : Byte).toNat : Nat) : Int),
          (((delay / 5).setWidth 8 : Byte).toNat : Nat) * 5]) := by
  have data : (lightMessage opcode lights transId transition delay).drop 2 =
      lights.flatMap (fun light => le16 (light.setWidth 16)) ++
        [transId, transition.setWidth 8, (delay / 5).setWidth 8] := by
    rw [lightMessage, List.append_assoc, ← two, List.drop_left]
  have front : (lightMessage opcode lights transId transition delay).take 2 =
      meshOpcodeSet opcode := by
    rw [lightMessage, List.append_assoc, ← two, List.take_left]
  have length := length_lights lights
  have last : ∀ index, get (lights.flatMap (fun light => le16 (light.setWidth 16)) ++
      [transId, transition.setWidth 8, (delay / 5).setWidth 8]) (lights.length * 2 + index) =
      get [transId, transition.setWidth 8, (delay / 5).setWidth 8] index := by
    intro index
    unfold Bytes.get
    rw [← length, List.getD_append_right _ _ _ _ (Nat.le_add_right _ _),
      Nat.add_sub_cancel_left]
  rw [decodeLight, data, if_pos ⟨front, by rw [List.length_append, length]; rfl⟩, last, last]
  refine congrArg some (congrArg (· ++ _) (List.map_congr_left fun place member => ?_))
  rw [getLe16_lights lights _ (inside place member)]

section Messages

variable {parms : Nat → U32} {values : List Int} (transId : Byte)

theorem lightness_decode
    (given : List.Forall₂ (fun range value => range.1 ≤ value ∧ value ≤ range.2)
      LightModel.lightness.usage values)
    (read : ∀ index < 3, parms index = BitVec.ofInt 32 (values.getD index 0)) :
    LightModel.lightness.decode (lightnessMessage parms transId) = some (roundDelay values) ↔
      values.getD 2 0 ≠ 1280 := by
  simp only [LightModel.usage, List.forall₂_cons_left_iff, List.forall₂_nil_left_iff] at given
  rcases given with ⟨light, _, lightRange, ⟨transition, _, transitionRange,
    ⟨delay, _, delayRange, rfl, rfl⟩, rfl⟩, rfl⟩
  have decoded := decodeLight_lightMessage opLightnessSet [parms 0] [0] transId (parms 1)
    (parms 2) (by decide) (by simp)
  change LightModel.lightness.decode (lightnessMessage parms transId) = _ at decoded
  rw [decoded, read 0 (by decide), read 1 (by decide), read 2 (by decide)]
  simp only [List.getD_cons_zero, List.getD_cons_succ, List.map_cons, List.map_nil,
    List.cons_append, List.nil_append]
  rw [toNat_low16 lightRange.1 (by omega), toNat_low8 transitionRange.1 (by omega),
    ← toNat_steps delayRange.1 delayRange.2]
  simp [roundDelay]

theorem ctl_decode
    (given : List.Forall₂ (fun range value => range.1 ≤ value ∧ value ≤ range.2)
      LightModel.ctl.usage values)
    (read : ∀ index < 4, parms index = BitVec.ofInt 32 (values.getD index 0)) :
    LightModel.ctl.decode (ctlMessage parms transId) = some (roundDelay values) ↔
      values.getD 3 0 ≠ 1280 := by
  simp only [LightModel.usage, List.forall₂_cons_left_iff, List.forall₂_nil_left_iff] at given
  rcases given with ⟨temperature, _, temperatureRange, ⟨light, _, lightRange,
    ⟨transition, _, transitionRange, ⟨delay, _, delayRange, rfl, rfl⟩, rfl⟩, rfl⟩, rfl⟩
  have decoded := decodeLight_lightMessage opLightCtlSet [parms 1, parms 0, 0] [1, 0] transId
    (parms 2) (parms 3) (by decide) (by simp)
  change LightModel.ctl.decode (ctlMessage parms transId) = _ at decoded
  rw [decoded, read 0 (by decide), read 1 (by decide), read 2 (by decide),
    read 3 (by decide)]
  simp only [List.getD_cons_zero, List.getD_cons_succ, List.map_cons, List.map_nil,
    List.cons_append, List.nil_append]
  rw [toNat_low16 (by omega) temperatureRange.2, toNat_low16 lightRange.1 (by omega),
    toNat_low8 transitionRange.1 (by omega), ← toNat_steps delayRange.1 delayRange.2]
  simp [roundDelay]

theorem hsl_decode
    (given : List.Forall₂ (fun range value => range.1 ≤ value ∧ value ≤ range.2)
      LightModel.hsl.usage values)
    (read : ∀ index < 5, parms index = BitVec.ofInt 32 (values.getD index 0)) :
    LightModel.hsl.decode (hslMessage parms transId) = some (roundDelay values) ↔
      values.getD 4 0 ≠ 1280 := by
  simp only [LightModel.usage, List.forall₂_cons_left_iff, List.forall₂_nil_left_iff] at given
  rcases given with ⟨hue, _, hueRange, ⟨saturation, _, saturationRange, ⟨light, _, lightRange,
    ⟨transition, _, transitionRange, ⟨delay, _, delayRange, rfl, rfl⟩, rfl⟩, rfl⟩, rfl⟩, rfl⟩
  have decoded := decodeLight_lightMessage opLightHslSet [parms 2, parms 0, parms 1] [1, 2, 0]
    transId (parms 3) (parms 4) (by decide) (by simp)
  change LightModel.hsl.decode (hslMessage parms transId) = _ at decoded
  rw [decoded, read 0 (by decide), read 1 (by decide), read 2 (by decide),
    read 3 (by decide), read 4 (by decide)]
  simp only [List.getD_cons_zero, List.getD_cons_succ, List.map_cons, List.map_nil,
    List.cons_append, List.nil_append]
  rw [toNat_low16 hueRange.1 (by omega), toNat_low16 saturationRange.1 (by omega),
    toNat_low16 lightRange.1 (by omega), toNat_low8 transitionRange.1 (by omega),
    ← toNat_steps delayRange.1 delayRange.2]
  simp [roundDelay]

end Messages

/-! ## Every argument list -/

/-- The numbers that are in range are what the message is made of. -/
theorem parmsRead_inRange (model : LightModel) (overflow : Int → U32) (parms : Nat → U32)
    {argv : List (List Char)} (inRange : InRange model.usage argv.tail) {index : Nat}
    (asked : index < model.usage.length) :
    parmsRead overflow parms argv index =
      BitVec.ofInt 32 ((givenValues model.usage.length argv.tail).getD index 0) := by
  have light : ∀ range ∈ model.usage, 0 ≤ range.1 ∧ range.2 ≤ 20000 := by
    cases model <;> decide
  have enough : model.usage.length ≤ 8 := by
    cases model <;> decide
  have some : ¬argv.tail.headD [] = [] := by
    intro empty
    cases args : argv.tail with
    | nil =>
        rw [args] at inRange
        cases model <;> exact inRange
    | cons arg args' =>
        rw [args] at inRange empty
        subst empty
        have scanned : scanDecimal [] = none := rfl
        cases model <;> exact absurd inRange.1 (by simp [scanned])
  rcases numbersAhead_inRange overflow light enough inRange with ⟨rest, numbers⟩
  have length := (givenValues_inRange inRange).length_eq
  rw [parmsRead, if_neg some, ← numbers, List.getD_append _ _ _ _ (by simpa [← length]),
    List.getD_eq_getElem _ _ (by simpa [← length]), List.getD_eq_getElem _ _ (by omega),
    List.getElem_map]

/-- The message of a command that has a target and is not refused. -/
theorem LightModel.sent_iff (model : LightModel) (env : LightEnv) (st : LightState)
    (argv : List (List Char)) (msg : List Byte) :
    (model.cmdSet env st argv).2 = some msg ↔
      ¬(NoTarget env st ∨ model = .hsl ∧ HslRefused env st argv) ∧
        model.message (parmsRead env.overflow st.parms argv) st.transId = msg := by
  have sent : ∀ (badArguments : Nat → (Nat → U32) → Bool)
      (message : (Nat → U32) → Byte → List Byte) (left : (Nat → U32) → Nat → U32),
      (Node.cmdSet badArguments message left env st argv).2 = some msg ↔
        ¬(NoTarget env st ∨ badArguments (countRead env.overflow argv)
          (parmsRead env.overflow st.parms argv) = true) ∧
          message (parmsRead env.overflow st.parms argv) st.transId = msg := by
    intro badArguments message left
    rw [cmdSet_sent]
    split
    · next quiet => exact iff_of_false (fun none => nomatch none) fun sent => sent.1 quiet
    · next target => rw [Option.some_inj, and_iff_right target]
  cases model with
  | lightness =>
      refine (sent _ _ _).trans ?_
      rw [lightnessBadArguments_eq]
      simp [LightModel.message]
  | ctl =>
      refine (sent _ _ _).trans ?_
      rw [ctlBadArguments_eq]
      simp [LightModel.message]
  | hsl =>
      refine (sent _ _ _).trans ?_
      rw [hslBadArguments_iff]
      simp [LightModel.message]

theorem LightModel.decode_message_iff (model : LightModel) {parms : Nat → U32}
    {values : List Int} (transId : Byte)
    (given : List.Forall₂ (fun range value => range.1 ≤ value ∧ value ≤ range.2)
      model.usage values)
    (read : ∀ index < model.usage.length, parms index = BitVec.ofInt 32 (values.getD index 0)) :
    model.decode (model.message parms transId) = some (roundDelay values) ↔
      values.getD (model.usage.length - 1) 0 ≠ 1280 := by
  cases model with
  | lightness => exact lightness_decode transId given read
  | ctl => exact ctl_decode transId given read
  | hsl => exact hsl_decode transId given read

/-- What is given is carried exactly when nothing is sent, or every number is given in its
range and the delay is not the last one of its range. -/
theorem light_commands_iff (model : LightModel) (env : LightEnv) (st : LightState)
    (argv : List (List Char)) :
    CarriesGiven model env st argv ↔
      NoTarget env st ∨ model = .hsl ∧ HslRefused env st argv ∨
        InRange model.usage argv.tail ∧
          (givenValues model.usage.length argv.tail).getD (model.usage.length - 1) 0 ≠ 1280 := by
  have carried : CarriesGiven model env st argv ↔
      (NoTarget env st ∨ model = .hsl ∧ HslRefused env st argv) ∨
        InRange model.usage argv.tail ∧
          model.decode (model.message (parmsRead env.overflow st.parms argv) st.transId) =
            some (roundDelay (givenValues model.usage.length argv.tail)) := by
    simp only [CarriesGiven, model.sent_iff]
    constructor
    · intro carries
      by_cases quiet : NoTarget env st ∨ model = .hsl ∧ HslRefused env st argv
      · exact Or.inl quiet
      · exact Or.inr (carries _ ⟨quiet, rfl⟩)
    · rintro (quiet | carries) msg ⟨sent, rfl⟩
      · exact absurd quiet sent
      · exact carries
  rw [carried, or_assoc]
  refine or_congr_right (or_congr_right (and_congr_right fun inRange => ?_))
  exact model.decode_message_iff st.transId (givenValues_inRange inRange) fun index asked =>
    parmsRead_inRange model env.overflow st.parms inRange asked

/-! ### A light that is too bright -/

/-- A known node, and a local one. -/
def lightEnv : LightEnv where
  overflow _ := notRead
  nodeFindByAddr _ := true
  localNode := true

/-- The state of a model whose target was set. -/
def lightState : LightState where
  target := 0x0100
  parms _ := 0
  transId := 0

/-- Twice the lightness that the usage text allows is sent. -/
theorem light_commands_not_always_carry :
    ¬∀ (model : LightModel) (env : LightEnv) (st : LightState) (argv : List (List Char)),
      CarriesGiven model env st argv := by
  intro always
  have carried := (light_commands_iff _ _ _ _).mp (always .lightness lightEnv lightState
    ["lightness".toList, "200".toList, "0".toList, "0".toList])
  rcases carried with quiet | ⟨other, _⟩ | ⟨⟨⟨value, isValue, within⟩, _⟩, _⟩
  · exact absurd quiet (by decide)
  · cases other
  · have scanned : scanDecimal "200".toList = some 200 := by decide
    cases scanned.symm.trans isValue
    exact absurd within.2 (by decide)

end Meshctl.Node
