import Meshctl.Prov.Types

/-! # The agent

Requests for input, one at a time. The shell keeps the function that the next
line is for.
-/

namespace Meshctl.Prov

open Bytes

/-! ## Reading text

A line is the list of its characters, without the final zero. -/

def isSpace (char : Byte) : Bool :=
  char = 0x20 || 0x09 ≤ char && char ≤ 0x0d

def isDigit (char : Byte) : Bool := 0x30 ≤ char && char ≤ 0x39

def hexDigit (char : Byte) : Option Byte :=
  if isDigit char then some (char - 0x30)
  else if 0x41 ≤ char && char ≤ 0x46 then some (char - 0x41 + 10)
  else if 0x61 ≤ char && char ≤ 0x66 then some (char - 0x61 + 10)
  else none

/-- The hexadecimal digits at the front of the characters that are left of a
field, the first of which has to be one. -/
def scanDigits : List Byte → Option Byte
  | [] => none
  | first :: rest =>
      match hexDigit first with
      | none => none
      | some high =>
          match rest with
          | [] => some high
          | second :: _ =>
              match hexDigit second with
              | none => some high
              | some low => some (high * 16 + low)

/-- `sscanf` with `"%02hhx"`: behind spaces, a field of two characters, of which
the first may be a sign. (After "0x" nothing is left of the field but the
zero.) -/
def scanHexByte (text : List Byte) : Option Byte :=
  match (text.dropWhile isSpace).take 2 with
  | 0x2b :: rest => scanDigits rest
  | 0x2d :: rest => (scanDigits rest).map (- ·)
  | field => scanDigits field

def str2hex (text : List Byte) (outLen : Nat) : Option (List Byte) :=
  if text.length < outLen * 2 then
    none
  else
    (List.range outLen).mapM fun i => scanHexByte (text.drop (i * 2))

/-- The digits at the front of a text. -/
def readDecimal (text : List Byte) : Nat :=
  (text.takeWhile isDigit).foldl
    (fun value char => value * 10 + (char - 0x30).toNat) 0

/-- `atoi`, stored as a word. -/
def atoi (text : List Byte) : U32 :=
  match text.dropWhile isSpace with
  | 0x2b :: rest => BitVec.ofNat 32 (readDecimal rest)
  | 0x2d :: rest => -BitVec.ofNat 32 (readDecimal rest)
  | digits => BitVec.ofNat 32 (readDecimal digits)

/-! ## Requests -/

def maxHexadecimalOobLen : U16 := 128

def maxAsciiOobLen : U16 := 16

def emptyRequest : InputRequest where
  type := .none
  len := 0
  cb := none

namespace Agent

variable (agent : Agent)

def resetInputRequest : Agent := { agent with pending := emptyRequest }

/-- `bt_shell_prompt_input`: a second prompt is ignored. -/
def promptInput (func : PromptFunc) : Agent :=
  if agent.prompt.isSome then agent else { agent with prompt := some func }

/-- The prompt for a request, unless its length is too large. -/
def request (type : OobType) (len : U16) : Option PromptFunc :=
  match type with
  | .hexadecimal =>
      if maxHexadecimalOobLen < len then none else some .responseHexadecimal
  | .decimal => some .responseDecimal
  | .ascii => if maxAsciiOobLen < len then none else some .responseAscii
  | .none => none
  | .output => none

/-- `agent_input_request`; its callers do not look at the result. -/
def inputRequest (type : OobType) (maxLen : U16) (cb : InputCallback) : Agent :=
  if agent.pending.type ≠ .none then
    agent
  else
    match request type maxLen with
    | none => agent
    | some func =>
        { agent.promptInput func with
          pending := { type, len := maxLen, cb := some cb } }

def outputRequest : Agent :=
  if agent.pending.type ≠ .none then
    agent
  else
    let agent := { agent with pending := { agent.pending with type := .output } }
    agent.promptInput .responseOutput

end Agent

end Meshctl.Prov
