import Mathlib.Data.List.Forall2
import Mathlib.Data.List.Pairwise
import SecureServices.Library.Words

namespace SecureServices
namespace Library

/-!
# Fields of a word

A register packs several values into one word, each at a range of bits of its
own.  Packing places the values in a word of zeros, and reading a field looks
at its bits alone.  With ranges that do not meet, every value is read back;
and a word that is zero outside the ranges is packed again from what was read.
-/

/-- A range of bits: the lowest of them, and how many there are. -/
structure BitField where
  low : Nat
  size : Nat
deriving DecidableEq, Repr

namespace BitField

/-- The range between two bits, both included. -/
def bits (low high : Nat) : BitField := ⟨low, high + 1 - low⟩

/-- A single bit. -/
def bit (index : Nat) : BitField := ⟨index, 1⟩

def Contains (field : BitField) (bit : Nat) : Prop := field.low ≤ bit ∧ bit < field.low + field.size

instance (field : BitField) (bit : Nat) : Decidable (field.Contains bit) :=
  inferInstanceAs (Decidable (_ ∧ _))

/-- No bit is in both. -/
def Apart (left right : BitField) : Prop := left.low + left.size ≤ right.low ∨ right.low + right.size ≤ left.low

instance (left right : BitField) : Decidable (left.Apart right) := inferInstanceAs (Decidable (_ ∨ _))

theorem Apart.symm {left right : BitField} (apart : left.Apart right) : right.Apart left := Or.symm apart

theorem Apart.not_contains {left right : BitField} (apart : left.Apart right) {bit : Nat}
    (inside : left.Contains bit) : ¬ right.Contains bit := by
  unfold Apart Contains at *
  omega

/-- The value of a field. -/
def read (field : BitField) {width : Nat} (word : BitVec width) : Nat :=
  (word.toNat >>> field.low) % 2 ^ field.size

theorem testBit_read (field : BitField) {width : Nat} (word : BitVec width) (index : Nat) :
    (field.read word).testBit index = (decide (index < field.size) && word.getLsbD (field.low + index)) := by
  rw [read, Nat.testBit_mod_two_pow, Nat.testBit_shiftRight]
  rfl

theorem read_lt (field : BitField) {width : Nat} (word : BitVec width) : field.read word < 2 ^ field.size :=
  Nat.mod_lt _ (Nat.two_pow_pos field.size)

/-- A single bit is read as a flag. -/
theorem read_bit (index : Nat) {width : Nat} (word : BitVec width) :
    (bit index).read word = (word.getLsbD index).toNat := by
  have small := read_lt (bit index) word
  have first := testBit_read (bit index) word 0
  rw [Nat.testBit_zero] at first
  change (bit index).read word < 2 at small
  change decide ((bit index).read word % 2 = 1) = word.getLsbD index at first
  rw [← first]
  rcases Nat.lt_succ_iff_lt_or_eq.mp small with zero | one
  · rw [Nat.lt_one_iff.mp zero]
    rfl
  · rw [one]
    rfl

theorem read_bit_eq_toNat {index width : Nat} {word : BitVec width} {flag : Bool} :
    (bit index).read word = flag.toNat <-> word.getLsbD index = flag := by
  rw [read_bit]
  cases word.getLsbD index <;> cases flag <;> decide

end BitField

/-- A word of zeros with every value placed at its field. -/
def pack (width : Nat) : List (BitField × Nat) -> BitVec width
  | [] => 0
  | (field, value) :: rest => BitVec.ofNat width (value <<< field.low) ||| pack width rest

/-- Every value has no more bits than its field. -/
def Fits (fields : List (BitField × Nat)) : Prop :=
  forall field value, (field, value) ∈ fields -> value < 2 ^ field.size

instance (fields : List (BitField × Nat)) : Decidable (Fits fields) :=
  decidable_of_iff (forall pair, pair ∈ fields -> pair.2 < 2 ^ pair.1.size)
    ⟨fun fits field value member => fits (field, value) member, fun fits pair member => fits pair.1 pair.2 member⟩

theorem Fits.tail {first : BitField × Nat} {rest : List (BitField × Nat)} (fits : Fits (first :: rest)) :
    Fits rest :=
  fun field value member => fits field value (List.mem_cons_of_mem first member)

theorem testBit_eq_false {value size index : Nat} (small : value < 2 ^ size) (beyond : size ≤ index) :
    value.testBit index = false :=
  Nat.testBit_lt_two_pow (Nat.lt_of_lt_of_le small (Nat.pow_le_pow_right Nat.zero_lt_two beyond))

/-- A bit is set if a value sets it. -/
theorem getLsbD_pack_iff {width : Nat} {fields : List (BitField × Nat)} (fits : Fits fields) {bit : Nat}
    (inside : bit < width) :
    (pack width fields).getLsbD bit = true <->
      exists field value, (field, value) ∈ fields ∧ field.Contains bit ∧
        value.testBit (bit - field.low) = true := by
  induction fields with
  | nil => simp [pack]
  | cons first rest inductionHypothesis =>
      rcases first with ⟨field, value⟩
      have small := fits field value List.mem_cons_self
      have placed : (BitVec.ofNat width (value <<< field.low)).getLsbD bit = true <->
          field.Contains bit ∧ value.testBit (bit - field.low) = true := by
        rw [BitVec.getLsbD_ofNat, decide_eq_true inside, Bool.true_and, Nat.testBit_shiftLeft,
          Bool.and_eq_true, decide_eq_true_eq]
        constructor
        · rintro ⟨above, set⟩
          refine ⟨⟨above, ?_⟩, set⟩
          by_contra outside
          rw [testBit_eq_false small (by omega)] at set
          cases set
        · rintro ⟨⟨above, _⟩, set⟩
          exact ⟨above, set⟩
      rw [pack, BitVec.getLsbD_or, Bool.or_eq_true, placed, inductionHypothesis fits.tail]
      constructor
      · rintro (⟨within, set⟩ | ⟨other, stored, member, within, set⟩)
        · exact ⟨field, value, List.mem_cons_self, within, set⟩
        · exact ⟨other, stored, List.mem_cons_of_mem _ member, within, set⟩
      · rintro ⟨other, stored, member, within, set⟩
        rcases List.mem_cons.mp member with same | later
        · cases same
          exact .inl ⟨within, set⟩
        · exact .inr ⟨other, stored, later, within, set⟩

/-- No two fields of the list meet, and none reaches beyond the word. -/
structure Layout (width : Nat) (fields : List BitField) : Prop where
  apart : fields.Pairwise BitField.Apart
  inside : forall field, field ∈ fields -> field.low + field.size ≤ width

instance (width : Nat) (fields : List BitField) : Decidable (Layout width fields) :=
  decidable_of_iff (fields.Pairwise BitField.Apart ∧ forall field, field ∈ fields -> field.low + field.size ≤ width)
    ⟨fun ⟨apart, inside⟩ => ⟨apart, inside⟩, fun layout => ⟨layout.apart, layout.inside⟩⟩

/-- Two fields of a list that share a bit are the same pair. -/
theorem eq_of_contains {fields : List (BitField × Nat)} (apart : (fields.map Prod.fst).Pairwise BitField.Apart)
    {first second : BitField × Nat} (member : first ∈ fields) (member' : second ∈ fields) {bit : Nat}
    (inside : first.1.Contains bit) (inside' : second.1.Contains bit) : first = second := by
  by_contra different
  have pairs : fields.Pairwise (fun left right => left.1.Apart right.1) := List.pairwise_map.mp apart
  have symmetric : Std.Symm (fun left right : BitField × Nat => left.1.Apart right.1) :=
    ⟨fun _ _ => BitField.Apart.symm⟩
  have unrelated := pairs.forall member member' different
  exact unrelated.not_contains inside inside'

/-- Every value that was packed is read back. -/
theorem read_pack {width : Nat} {fields : List (BitField × Nat)} (layout : Layout width (fields.map Prod.fst))
    (fits : Fits fields) {field : BitField} {value : Nat} (member : (field, value) ∈ fields) :
    field.read (pack width fields) = value := by
  apply Nat.eq_of_testBit_eq
  intro index
  rw [BitField.testBit_read]
  by_cases within : index < field.size
  · have inside := layout.inside field (List.mem_map_of_mem member)
    have contained : field.Contains (field.low + index) := ⟨by omega, by omega⟩
    rw [decide_eq_true within, Bool.true_and, Bool.eq_iff_iff, getLsbD_pack_iff fits (by omega)]
    constructor
    · rintro ⟨other, stored, member', contained', set⟩
      cases eq_of_contains layout.apart member member' contained contained'
      rwa [Nat.add_sub_cancel_left] at set
    · intro set
      refine ⟨field, value, member, contained, ?_⟩
      rwa [Nat.add_sub_cancel_left]
  · rw [decide_eq_false within, Bool.false_and,
      testBit_eq_false (fits field value member) (Nat.le_of_not_lt within)]

/-- Only the fields that meet the one that is read have a part in its value. -/
theorem read_pack_filter {width : Nat} {fields : List (BitField × Nat)} (fits : Fits fields) (field : BitField) :
    field.read (pack width fields) =
      field.read (pack width (fields.filter (fun pair => ¬ field.Apart pair.1))) := by
  have fits' : Fits (fields.filter (fun pair => ¬ field.Apart pair.1)) :=
    fun other value member => fits other value (List.mem_filter.mp member).1
  apply Nat.eq_of_testBit_eq
  intro index
  rw [BitField.testBit_read, BitField.testBit_read]
  by_cases within : index < field.size
  · have contained : field.Contains (field.low + index) := ⟨by omega, by omega⟩
    by_cases inside : field.low + index < width
    · congr 1
      rw [Bool.eq_iff_iff, getLsbD_pack_iff fits inside, getLsbD_pack_iff fits' inside]
      constructor
      · rintro ⟨other, value, member, meets, set⟩
        have kept : ¬ field.Apart other := fun apart => apart.not_contains contained meets
        exact ⟨other, value, List.mem_filter.mpr ⟨member, decide_eq_true kept⟩, meets, set⟩
      · rintro ⟨other, value, member, meets, set⟩
        exact ⟨other, value, (List.mem_filter.mp member).1, meets, set⟩
    · rw [BitVec.getLsbD_of_ge _ _ (Nat.le_of_not_lt inside), BitVec.getLsbD_of_ge _ _ (Nat.le_of_not_lt inside)]
  · rw [decide_eq_false within, Bool.false_and, Bool.false_and]

/-- A field that meets no other is read back, whatever the others do. -/
theorem read_pack_alone {width : Nat} {fields : List (BitField × Nat)} (fits : Fits fields) {field : BitField}
    {value : Nat} (alone : fields.filter (fun pair => ¬ field.Apart pair.1) = [(field, value)])
    (inside : field.low + field.size ≤ width) : field.read (pack width fields) = value := by
  have stored : (field, value) ∈ fields := by
    have member : (field, value) ∈ fields.filter (fun pair => ¬ field.Apart pair.1) := by
      rw [alone]
      exact List.mem_singleton_self _
    exact (List.mem_filter.mp member).1
  have layout : Layout width [field] :=
    ⟨List.pairwise_singleton _ _, fun other member => List.mem_singleton.mp member ▸ inside⟩
  rw [read_pack_filter fits, alone]
  apply read_pack layout _ (List.mem_singleton_self _)
  intro other bits member
  cases List.mem_singleton.mp member
  exact fits field value stored

/-- All values at once. -/
theorem map_read_pack {width : Nat} {fields : List BitField} {values : List Nat}
    (layout : Layout width fields) (same : fields.length = values.length) (fits : Fits (fields.zip values)) :
    fields.map (fun field => field.read (pack width (fields.zip values))) = values := by
  have names : (fields.zip values).map Prod.fst = fields := List.map_fst_zip (Nat.le_of_eq same)
  have values' : (fields.zip values).map Prod.snd = values := List.map_snd_zip (Nat.le_of_eq same.symm)
  have each : forall pair, pair ∈ fields.zip values ->
      pair.1.read (pack width (fields.zip values)) = pair.2 := by
    rintro ⟨field, value⟩ member
    exact read_pack (names.symm ▸ layout) fits member
  calc
    fields.map (fun field => field.read (pack width (fields.zip values))) =
        ((fields.zip values).map Prod.fst).map (fun field => field.read (pack width (fields.zip values))) := by
      rw [names]
    _ = (fields.zip values).map Prod.snd := by
      rw [List.map_map]
      exact List.map_congr_left each
    _ = values := values'

/-- A word that is zero outside its fields is packed from their values. -/
theorem pack_read {width : Nat} {fields : List BitField} {word : BitVec width}
    (covered : forall bit, bit < width -> word.getLsbD bit = true ->
      exists field, field ∈ fields ∧ field.Contains bit) :
    pack width (fields.map (fun field => (field, field.read word))) = word := by
  have fits : Fits (fields.map (fun field => (field, field.read word))) := by
    intro field value member
    rcases List.mem_map.mp member with ⟨other, _, same⟩
    cases same
    exact field.read_lt word
  apply BitVec.eq_of_getLsbD_eq
  intro bit inside
  rw [Bool.eq_iff_iff, getLsbD_pack_iff fits inside]
  have shown : forall field : BitField, field.Contains bit ->
      (field.read word).testBit (bit - field.low) = word.getLsbD bit := by
    rintro field ⟨above, below⟩
    rw [BitField.testBit_read, Nat.add_sub_cancel' above, decide_eq_true (by omega), Bool.true_and]
  constructor
  · rintro ⟨field, value, member, within, set⟩
    rcases List.mem_map.mp member with ⟨other, _, same⟩
    cases same
    rwa [shown field within] at set
  · intro set
    rcases covered bit inside set with ⟨field, member, within⟩
    refine ⟨field, field.read word, List.mem_map_of_mem member, within, ?_⟩
    rwa [shown field within]

end Library
end SecureServices
