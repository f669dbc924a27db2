import Meshctl.Foundation.Buffer

/-! Counter mode with a chained authentication code, over any block cipher. A
message is masked with the enciphered counters; its tag is the end of a chain
through its blocks. -/

namespace Meshctl.CounterMode

open Bytes

variable {size : Nat}

/-! ## Masking -/

section Mask

variable (cipher : Buffer size → Buffer size) (counter : Nat → Buffer size)

/-- A byte of the key stream. -/
def stream (index : Nat) : Byte :=
  (cipher (counter (index / size))).get (index % size)

def mask (message : List Byte) : List Byte :=
  (List.range message.length).map fun index =>
    get message index ^^^ stream cipher counter index

@[simp] theorem length_mask (message : List Byte) :
    (mask cipher counter message).length = message.length := by
  simp [mask]

variable {cipher counter}

theorem get_mask {message : List Byte} {index : Nat}
    (inside : index < message.length) :
    get (mask cipher counter message) index =
      get message index ^^^ stream cipher counter index :=
  get_map_range inside

/-- Masking twice gives the message back. -/
theorem mask_mask (message : List Byte) :
    mask cipher counter (mask cipher counter message) = message := by
  apply ext_get (by simp)
  intro index inside
  have inMessage : index < message.length := by simpa using inside
  rw [get_mask (by simpa using inMessage), get_mask inMessage, BitVec.xor_assoc,
    BitVec.xor_self, BitVec.xor_zero]

/-- The mask of a block is the cipher of its counter. -/
theorem stream_block {block index : Nat} (inside : index < size) :
    stream cipher counter (size * block + index) =
      (cipher (counter block)).get index := by
  have division : (size * block + index) / size = block := by
    rw [Nat.mul_add_div (by omega), Nat.div_eq_of_lt inside, Nat.add_zero]
  have remainder : (size * block + index) % size = index := by
    rw [Nat.mul_add_mod, Nat.mod_eq_of_lt inside]
  rw [stream, division, remainder]

end Mask

/-! ## The chain -/

section Chain

variable (cipher : Buffer size → Buffer size) (start : Buffer size)
  (message : List Byte)

/-- The chain after some blocks of the message. Missing bytes are zero. -/
def chain : Nat → Buffer size
  | 0 => start
  | blocks + 1 =>
      cipher (Buffer.ofFn fun index =>
        (chain blocks).get index ^^^ get message (size * blocks + index))

variable {message}

/-- The chain depends on the bytes of its blocks only. -/
theorem chain_congr {other : List Byte} {blocks : Nat}
    (same : ∀ index < size * blocks, get message index = get other index) :
    chain cipher start message blocks = chain cipher start other blocks := by
  induction blocks with
  | zero => rfl
  | succ blocks induction =>
      rw [Nat.mul_succ] at same
      rw [chain, chain, induction fun index inside => same index (by omega)]
      congr 1
      apply Buffer.ofFn_congr
      intro index inside
      rw [same _ (by omega)]

/-- A chain goes on from where it was interrupted. -/
theorem chain_add (first second : Nat) :
    chain cipher start message (first + second) =
      chain cipher (chain cipher start message first)
        (message.drop (size * first)) second := by
  induction second with
  | zero => rfl
  | succ second induction =>
      rw [← Nat.add_assoc, chain, chain, induction]
      congr 1
      apply Buffer.ofFn_congr
      intro index _
      rw [get_drop, Nat.mul_add, Nat.add_assoc]

/-- A chain through whole blocks and through what follows them. -/
theorem chain_append {blocks : Nat} (whole : message.length = size * blocks)
    (rest : List Byte) (more : Nat) :
    chain cipher start (message ++ rest) (blocks + more) =
      chain cipher (chain cipher start message blocks) rest more := by
  have before : chain cipher start (message ++ rest) blocks =
      chain cipher start message blocks :=
    chain_congr cipher start fun index inside =>
      get_append_left (by omega)
  rw [chain_add, before, ← whole, List.drop_left]

end Chain

/-! ## Sealing -/

section Seal

variable (cipher : Buffer size → Buffer size) (counter : Nat → Buffer size)
  (tag : List Byte → List Byte)

/-- A masked message and its tag. -/
def sealed (message : List Byte) : List Byte :=
  mask cipher counter message ++ tag message

variable {cipher counter tag}

/-- Unmasking a sealed message. -/
theorem mask_take_sealed (message : List Byte) :
    mask cipher counter
      ((sealed cipher counter tag message).take message.length) = message := by
  rw [sealed, List.take_append_of_le_length (by simp),
    List.take_of_length_le (by simp), mask_mask]

theorem drop_sealed (message : List Byte) :
    (sealed cipher counter tag message).drop message.length = tag message := by
  rw [sealed, List.drop_append_of_le_length (by simp),
    List.drop_of_length_le (by simp), List.nil_append]

/-- Only a sealed message carries the tag of what it unmasks to. -/
theorem sealed_eq_of_tag {whole : List Byte} {count : Nat}
    (sameTag : whole.drop count =
      tag (mask cipher counter (whole.take count))) :
    sealed cipher counter tag (mask cipher counter (whole.take count)) =
      whole := by
  rw [sealed, mask_mask, ← sameTag, List.take_append_drop]

end Seal

end Meshctl.CounterMode
