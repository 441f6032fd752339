import Mathlib.Data.BitVec
import Mathlib.Data.List.Basic
import Mathlib.Data.List.Induction

namespace SecureServices
namespace Library

/-!
# Machine words and their little-endian bytes

Fixed-width integers are bit vectors of their own width, so every shift,
mask and truncating cast of a program is the bit-vector operation of the
same name.  A word is moved through memory as a list of bytes.  The two
directions are defined independently, and one bit-level equation for each is
enough to compose them in either order.
-/

abbrev U8 := BitVec 8
abbrev U16 := BitVec 16
abbrev U32 := BitVec 32
abbrev U64 := BitVec 64
abbrev U128 := BitVec 128

/-- The `count` least significant bytes of a word, lowest byte first. -/
def leBytes (count : Nat) {width : Nat} (word : BitVec width) : List U8 :=
  (List.range count).map (fun index => word.extractLsb' (8 * index) 8)

/-- Assemble a word from bytes, lowest byte first.  Bytes that do not fit in
the width are shifted out, as an `as` cast would drop them. -/
def ofLeBytes (width : Nat) : List U8 -> BitVec width
  | [] => 0
  | byte :: rest => (ofLeBytes width rest <<< 8) ||| byte.setWidth width

/-- An array of `count` bytes. -/
abbrev Bytes (count : Nat) := { bytes : List U8 // bytes.length = count }

/-- `copy_from_slice` into the part of an array that starts at an offset. -/
def Bytes.copyFromSlice {count : Nat} (array : Bytes count) (offset : Nat) (bytes : List U8)
    (inside : offset + bytes.length ≤ count) : Bytes count :=
  ⟨array.val.take offset ++ bytes ++ array.val.drop (offset + bytes.length), by
    simp only [List.length_append, List.length_take, List.length_drop, array.property]
    omega⟩

/-- Reverse the byte order of a word of `count` bytes. -/
def swapBytes (count : Nat) (word : BitVec (8 * count)) : BitVec (8 * count) :=
  ofLeBytes (8 * count) (leBytes count word).reverse

@[simp] theorem length_leBytes (count : Nat) {width : Nat} (word : BitVec width) :
    (leBytes count word).length = count := by
  simp [leBytes]

theorem getD_leBytes {count width : Nat} (word : BitVec width) {index : Nat}
    (inside : index < count) :
    (leBytes count word).getD index 0 = word.extractLsb' (8 * index) 8 := by
  simp [leBytes, List.getD_eq_getElem?_getD, inside]

/-- Every bit of an assembled word is the bit of the byte it was taken from. -/
theorem getLsbD_ofLeBytes (width : Nat) (bytes : List U8) {bit : Nat} (inside : bit < width) :
    (ofLeBytes width bytes).getLsbD bit = (bytes.getD (bit / 8) 0).getLsbD (bit % 8) := by
  induction bytes generalizing bit with
  | nil => simp [ofLeBytes]
  | cons byte rest inductionHypothesis =>
      simp only [ofLeBytes, BitVec.getLsbD_or, BitVec.getLsbD_shiftLeft,
        BitVec.getLsbD_setWidth, inside, decide_true, Bool.true_and]
      by_cases low : bit < 8
      · have first : bit / 8 = 0 := Nat.div_eq_of_lt low
        have same : bit % 8 = bit := Nat.mod_eq_of_lt low
        simp [low, first, same]
      · have beyond : byte.getLsbD bit = false :=
          BitVec.getLsbD_of_ge byte bit (Nat.le_of_not_lt low)
        have next : bit / 8 = (bit - 8) / 8 + 1 := by omega
        have same : (bit - 8) % 8 = bit % 8 := by omega
        rw [inductionHypothesis (Nat.lt_of_le_of_lt (Nat.sub_le bit 8) inside)]
        simp [low, beyond, next, same]

/-- Writing a word to memory and reading it back is the identity. -/
@[simp] theorem ofLeBytes_leBytes (count : Nat) (word : BitVec (8 * count)) :
    ofLeBytes (8 * count) (leBytes count word) = word := by
  apply BitVec.eq_of_getLsbD_eq
  intro bit inside
  have index : bit / 8 < count := Nat.div_lt_of_lt_mul inside
  have remainder : bit % 8 < 8 := Nat.mod_lt bit (by decide)
  rw [getLsbD_ofLeBytes _ _ inside, getD_leBytes word index, BitVec.getLsbD_extractLsb']
  simp only [remainder, decide_true, Bool.true_and, Nat.div_add_mod]

theorem getLsbD_swapBytes {count : Nat} (word : BitVec (8 * count)) {bit : Nat} (inside : bit < 8 * count) :
    (swapBytes count word).getLsbD bit = word.getLsbD (8 * (count - 1 - bit / 8) + bit % 8) := by
  have index : bit / 8 < count := Nat.div_lt_of_lt_mul inside
  have remainder : bit % 8 < 8 := Nat.mod_lt bit (by decide)
  have mirrored : (leBytes count word).reverse.getD (bit / 8) 0 =
      (leBytes count word).getD (count - 1 - bit / 8) 0 := by
    rw [List.getD_eq_getElem?_getD, List.getD_eq_getElem?_getD, List.getElem?_reverse (by simpa using index),
      length_leBytes]
  rw [swapBytes, getLsbD_ofLeBytes _ _ inside, mirrored, getD_leBytes word (by omega),
    BitVec.getLsbD_extractLsb']
  simp only [remainder, decide_true, Bool.true_and]

/-- Reversing the bytes twice is the identity. -/
theorem swapBytes_swapBytes {count : Nat} (word : BitVec (8 * count)) :
    swapBytes count (swapBytes count word) = word := by
  apply BitVec.eq_of_getLsbD_eq
  intro bit inside
  have index : bit / 8 < count := Nat.div_lt_of_lt_mul inside
  rw [getLsbD_swapBytes _ inside, getLsbD_swapBytes _ (by omega)]
  congr 1
  omega

/-- Reading bytes from memory and writing them back is the identity. -/
theorem leBytes_ofLeBytes {count : Nat} {bytes : List U8} (length : bytes.length = count) :
    leBytes count (ofLeBytes (8 * count) bytes) = bytes := by
  apply List.ext_getElem?
  intro index
  by_cases inside : index < count
  · have quotient : forall bit, bit < 8 -> (8 * index + bit) / 8 = index := by omega
    have remainder : forall bit, bit < 8 -> (8 * index + bit) % 8 = bit := by omega
    have byte : (ofLeBytes (8 * count) bytes).extractLsb' (8 * index) 8 = bytes.getD index 0 := by
      apply BitVec.eq_of_getLsbD_eq
      intro bit small
      rw [BitVec.getLsbD_extractLsb', getLsbD_ofLeBytes _ _ (by omega), quotient bit small,
        remainder bit small]
      simp [small]
    rw [leBytes, List.getElem?_map, List.getElem?_range inside, Option.map_some, byte,
      List.getD_eq_getElem?_getD, List.getElem?_eq_getElem (length.symm ▸ inside), Option.getD_some]
  · rw [List.getElem?_eq_none (by simp; omega), List.getElem?_eq_none (by omega)]

/-- The value of bytes of which the first is the most significant. -/
def bigEndian (bytes : List U8) : Nat := bytes.foldl (fun word byte => 256 * word + byte.toNat) 0

/-- Assembling bytes from the last to the first gives their value. -/
theorem toNat_ofLeBytes_reverse {width : Nat} {bytes : List U8} (fits : 8 * bytes.length ≤ width) :
    (ofLeBytes width bytes.reverse).toNat = bigEndian bytes := by
  induction bytes using List.reverseRecOn generalizing width with
  | nil => simp [ofLeBytes, bigEndian]
  | append_singleton front last inductionHypothesis =>
      rw [List.length_append, List.length_singleton] at fits
      have bound : bigEndian front < 2 ^ (8 * front.length) := by
        rw [← inductionHypothesis (Nat.le_refl _)]
        exact BitVec.isLt _
      have room : bigEndian front * 2 ^ 8 < 2 ^ width := by
        calc
          bigEndian front * 2 ^ 8 < 2 ^ (8 * front.length) * 2 ^ 8 :=
            Nat.mul_lt_mul_of_pos_right bound (Nat.two_pow_pos 8)
          _ = 2 ^ (8 * front.length + 8) := (Nat.pow_add 2 _ 8).symm
          _ ≤ 2 ^ width := Nat.pow_le_pow_right Nat.zero_lt_two (by omega)
      have byte : last.toNat < 2 ^ 8 := last.isLt
      have small : last.toNat < 2 ^ width :=
        Nat.lt_of_lt_of_le byte (Nat.pow_le_pow_right Nat.zero_lt_two (by omega))
      have value : bigEndian (front ++ [last]) = 256 * bigEndian front + last.toNat := by
        rw [bigEndian, List.foldl_append]
        rfl
      rw [List.reverse_append, List.reverse_singleton, List.singleton_append, ofLeBytes,
        BitVec.toNat_or, BitVec.toNat_shiftLeft, inductionHypothesis (by omega), BitVec.toNat_setWidth,
        Nat.mod_eq_of_lt small, Nat.shiftLeft_eq, Nat.mod_eq_of_lt room, ← Nat.shiftLeft_eq,
        ← Nat.shiftLeft_add_eq_or_of_lt byte, Nat.shiftLeft_eq, value, Nat.mul_comm]

/-! ## Registers laid out one after another -/

/-- The bytes of a register file, one register after the other. -/
def registerBytes (registers : List U64) : List U8 :=
  registers.flatMap (fun register => leBytes 8 register)

@[simp] theorem length_registerBytes (registers : List U64) :
    (registerBytes registers).length = 8 * registers.length := by
  induction registers with
  | nil => rfl
  | cons head tail inductionHypothesis =>
      simp only [registerBytes, List.flatMap_cons, List.length_append, length_leBytes,
        List.length_cons] at inductionHypothesis ⊢
      rw [inductionHypothesis]
      omega

theorem registerBytes_append (front rest : List U64) :
    registerBytes (front ++ rest) = registerBytes front ++ registerBytes rest :=
  List.flatMap_append

theorem registerBytes_zeros (count : Nat) :
    registerBytes (List.replicate count 0) = List.replicate (8 * count) 0 := by
  induction count with
  | zero => rfl
  | succ count inductionHypothesis =>
      have zero : leBytes 8 (0 : U64) = List.replicate 8 0 := by decide
      rw [List.replicate_succ, registerBytes, List.flatMap_cons, zero]
      change _ ++ registerBytes _ = _
      rw [inductionHypothesis, List.replicate_append_replicate, Nat.mul_succ, Nat.add_comm]

/-- The eight bytes at a register's offset are that register's own bytes,
whatever follows the register file in memory. -/
theorem slice_registerBytes (registers : List U64) (padding : List U8) {index : Nat}
    (inside : index < registers.length) :
    ((registerBytes registers ++ padding).drop (8 * index)).take 8 =
      leBytes 8 registers[index] := by
  induction registers generalizing index with
  | nil => exact absurd inside (Nat.not_lt_zero index)
  | cons head tail inductionHypothesis =>
      have split : registerBytes (head :: tail) ++ padding =
          leBytes 8 head ++ (registerBytes tail ++ padding) := by
        simp [registerBytes]
      rw [split]
      cases index with
      | zero =>
          simp only [Nat.mul_zero, List.drop_zero, List.getElem_cons_zero]
          exact List.take_left' (length_leBytes 8 head)
      | succ index =>
          have offset : 8 * (index + 1) = (leBytes 8 head).length + 8 * index := by
            rw [length_leBytes]
            omega
          rw [offset, List.drop_length_add_append]
          exact inductionHypothesis (Nat.lt_of_succ_lt_succ inside)

/-- Reading registers one after another and writing them back is the identity. -/
theorem registerBytes_chunks (count : Nat) {bytes : List U8} (length : bytes.length = 8 * count) :
    registerBytes ((List.range count).map (fun index => ofLeBytes 64 ((bytes.drop (8 * index)).take 8))) =
      bytes := by
  induction count generalizing bytes with
  | zero => simp [registerBytes, List.length_eq_zero_iff.mp length]
  | succ count inductionHypothesis =>
      have first : (bytes.take 8).length = 8 := by
        rw [List.length_take]
        omega
      have rest := inductionHypothesis
        (show (bytes.drop 8).length = 8 * count by rw [List.length_drop]; omega)
      rw [List.range_succ_eq_map, List.map_cons, List.map_map, registerBytes, List.flatMap_cons]
      have head : leBytes 8 (ofLeBytes 64 ((bytes.drop (8 * 0)).take 8)) = bytes.take 8 :=
        leBytes_ofLeBytes first
      have shifted : (fun index => ofLeBytes 64 ((bytes.drop (8 * index)).take 8)) ∘ Nat.succ =
          (fun index => ofLeBytes 64 (((bytes.drop 8).drop (8 * index)).take 8)) := by
        funext index
        rw [List.drop_drop, Function.comp_apply, Nat.mul_succ, Nat.add_comm]
      rw [head, shifted]
      change bytes.take 8 ++ registerBytes _ = bytes
      rw [rest, List.take_append_drop]

/-! ## Single bits of a word -/

/-- The word with exactly one bit set. -/
def bitAt (width index : Nat) : BitVec width := (1 : BitVec width) <<< index

theorem getLsbD_bitAt {width index : Nat} (inside : index < width) (bit : Nat) :
    (bitAt width index).getLsbD bit = decide (bit = index) := by
  have positive : 0 < width := Nat.lt_of_le_of_lt (Nat.zero_le index) inside
  rw [bitAt, BitVec.getLsbD_shiftLeft]
  by_cases same : bit = index
  · subst same
    simp [inside, positive]
  · by_cases below : bit < index
    · simp [below, same]
    · have nonzero : bit - index ≠ 0 := by omega
      simp [same, BitVec.getLsbD_one, nonzero]

theorem getLsbD_or_bitAt {width index : Nat} (inside : index < width) (word : BitVec width)
    (bit : Nat) :
    (word ||| bitAt width index).getLsbD bit = (word.getLsbD bit || decide (bit = index)) := by
  rw [BitVec.getLsbD_or, getLsbD_bitAt inside]

theorem getLsbD_and_not_bitAt {width index : Nat} (inside : index < width) (word : BitVec width)
    (bit : Nat) :
    (word &&& ~~~ bitAt width index).getLsbD bit = (word.getLsbD bit && decide (bit ≠ index)) := by
  rw [BitVec.getLsbD_and, BitVec.getLsbD_not, getLsbD_bitAt inside]
  by_cases range : bit < width
  · simp [range]
  · simp [BitVec.getLsbD_of_ge word bit (Nat.le_of_not_lt range)]

/-- A word and a single bit have nothing in common exactly when the bit is clear. -/
theorem and_bitAt_eq_zero_iff {width index : Nat} (inside : index < width) (word : BitVec width) :
    word &&& bitAt width index = 0 <-> word.getLsbD index = false := by
  constructor
  · intro disjoint
    have clear := congrArg (fun value => value.getLsbD index) disjoint
    simpa [getLsbD_bitAt inside] using clear
  · intro clear
    apply BitVec.eq_of_getLsbD_eq
    intro bit _inRange
    rw [BitVec.getLsbD_and, getLsbD_bitAt inside]
    by_cases same : bit = index
    · simp [same, clear]
    · simp [same]

/-! ## Two words in one -/

/-- The bits of two words laid side by side in a wider one. -/
theorem getLsbD_pack {width half : Nat} (high low : BitVec half) {bit : Nat} (inside : bit < width) :
    ((high.setWidth width <<< half) ||| low.setWidth width).getLsbD bit =
      if bit < half then low.getLsbD bit else high.getLsbD (bit - half) := by
  rw [BitVec.getLsbD_or, BitVec.getLsbD_shiftLeft, BitVec.getLsbD_setWidth, BitVec.getLsbD_setWidth]
  by_cases below : bit < half
  · simp [below, inside]
  · have within : bit - half < width := by omega
    simp [below, inside, within, BitVec.getLsbD_of_ge low bit (Nat.le_of_not_lt below)]

theorem high_of_pack {width half : Nat} (fits : half + half ≤ width) (high low : BitVec half) :
    (((high.setWidth width <<< half) ||| low.setWidth width) >>> half).setWidth half = high := by
  apply BitVec.eq_of_getLsbD_eq
  intro bit inside
  have notBelow : ¬ half + bit < half := by omega
  rw [BitVec.getLsbD_setWidth, BitVec.getLsbD_ushiftRight, getLsbD_pack high low (by omega),
    if_neg notBelow, Nat.add_sub_cancel_left]
  simp [inside]

theorem low_of_pack {width half : Nat} (fits : half ≤ width) (high low : BitVec half) :
    ((high.setWidth width <<< half) ||| low.setWidth width).setWidth half = low := by
  apply BitVec.eq_of_getLsbD_eq
  intro bit inside
  rw [BitVec.getLsbD_setWidth, getLsbD_pack high low (by omega), if_pos inside]
  simp [inside]

/-- A word with nothing above its two halves is packed from them. -/
theorem pack_of_halves {width half : Nat} {word : BitVec width} (small : word.toNat < 2 ^ (half + half)) :
    (((word >>> half).setWidth half).setWidth width <<< half) ||| (word.setWidth half).setWidth width =
      word := by
  apply BitVec.eq_of_getLsbD_eq
  intro bit inside
  rw [getLsbD_pack _ _ inside]
  split
  next below => simp [below]
  next above =>
    rw [BitVec.getLsbD_setWidth, BitVec.getLsbD_ushiftRight, Nat.add_sub_cancel' (Nat.le_of_not_lt above)]
    by_cases upper : bit - half < half
    · simp [upper]
    · have beyond : word.getLsbD bit = false := by
        apply Nat.testBit_lt_two_pow
        exact Nat.lt_of_lt_of_le small (Nat.pow_le_pow_right (by decide) (by omega))
      simp [upper, beyond]

/-- Shifting the upper half out and back leaves room for the lower half. -/
theorem upper_or_lower {width : Nat} (half : Nat) (word : BitVec width) :
    ((word >>> half) <<< half) ||| (word.setWidth half).setWidth width = word := by
  apply BitVec.eq_of_getLsbD_eq
  intro bit inside
  rw [BitVec.getLsbD_or, BitVec.getLsbD_shiftLeft, BitVec.getLsbD_ushiftRight, BitVec.getLsbD_setWidth,
    BitVec.getLsbD_setWidth]
  by_cases below : bit < half
  · simp [below, inside]
  · rw [Nat.add_sub_cancel' (Nat.le_of_not_lt below)]
    simp [below, inside]

/-- Masking with all ones of a width is truncating to that width. -/
theorem and_ones_eq {width half : Nat} (word mask : BitVec width)
    (ones : mask = (BitVec.allOnes half).setWidth width) :
    word &&& mask = (word.setWidth half).setWidth width := by
  apply BitVec.eq_of_getLsbD_eq
  intro bit inside
  rw [ones, BitVec.getLsbD_and, BitVec.getLsbD_setWidth, BitVec.getLsbD_setWidth, BitVec.getLsbD_setWidth,
    BitVec.getLsbD_allOnes]
  simp [inside, Bool.and_comm]

end Library
end SecureServices
