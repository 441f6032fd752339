import Mathlib.Algebra.Order.Floor.Div
import SecureServices.Library.Words

namespace SecureServices
namespace Tpm

open Library

/-!
# Timeouts by a counter

A timeout of `tpm_sst.rs` is a number of ticks of the counter, computed once,
and compared with the difference between two of its readings.  The counter
wraps, and the number of ticks is rounded up and bounded by the largest number
that a register holds.  Here the counter is given by its frequency and its
readings.
-/

namespace Counter

/-- `u128::div_ceil`. -/
def divCeil (dividend divisor : U128) : U128 :=
  let quotient := dividend / divisor
  if 0 < dividend % divisor then quotient + 1 else quotient

/-- `u64::MAX as u128`. -/
def u64Max : U128 := (BitVec.allOnes 64).setWidth 128

/-- `counter_ticks_for_microseconds`. -/
def counterTicksForMicroseconds (frequencyHz microseconds : U64) : U64 :=
  let ticks := divCeil (frequencyHz.setWidth 128 * microseconds.setWidth 128) 1000000
  (if ticks ≤ u64Max then ticks else u64Max).setWidth 64

/-- `start_timeout`, with what the counter reads. -/
def startTimeout (frequency reading timeoutUs : U64) : U64 × U64 :=
  (reading, counterTicksForMicroseconds frequency timeoutUs)

/-- `timeout_expired`, with what the counter reads. -/
def timeoutExpired (reading start timeoutTicks : U64) : Bool := timeoutTicks ≤ reading - start

/-! ## The number of ticks -/

theorem product_lt (frequencyHz microseconds : U64) :
    frequencyHz.toNat * microseconds.toNat < 2 ^ 128 :=
  calc
    frequencyHz.toNat * microseconds.toNat < 2 ^ 64 * 2 ^ 64 :=
      Nat.mul_lt_mul'' frequencyHz.isLt microseconds.isLt
    _ = 2 ^ 128 := rfl

/-- No part of the product is lost. -/
theorem toNat_product (frequencyHz microseconds : U64) :
    (frequencyHz.setWidth 128 * microseconds.setWidth 128).toNat =
      frequencyHz.toNat * microseconds.toNat := by
  have wide : forall word : U64, (word.setWidth 128).toNat = word.toNat := by
    intro word
    rw [BitVec.toNat_setWidth, Nat.mod_eq_of_lt (Nat.lt_of_lt_of_le word.isLt (by decide))]
  rw [BitVec.toNat_mul, wide, wide, Nat.mod_eq_of_lt (product_lt frequencyHz microseconds)]

/-- The quotient rounded up, as it is computed from the quotient rounded down. -/
theorem ceilDiv_eq {dividend divisor : Nat} (positive : 0 < divisor) :
    dividend ⌈/⌉ divisor =
      if 0 < dividend % divisor then dividend / divisor + 1 else dividend / divisor := by
  have split := Nat.div_add_mod dividend divisor
  have small := Nat.mod_lt dividend positive
  rw [Nat.ceilDiv_eq_add_pred_div]
  by_cases rest : 0 < dividend % divisor
  · rw [if_pos rest]
    calc
      (dividend + divisor - 1) / divisor =
          (divisor * (dividend / divisor + 1) + (dividend % divisor - 1)) / divisor := by
        rw [Nat.mul_add]
        congr 1
        omega
      _ = dividend / divisor + 1 + (dividend % divisor - 1) / divisor := Nat.mul_add_div positive _ _
      _ = dividend / divisor + 1 := by
        have none : (dividend % divisor - 1) / divisor = 0 := Nat.div_eq_of_lt (by omega)
        rw [none]
  · rw [if_neg rest]
    calc
      (dividend + divisor - 1) / divisor = (divisor * (dividend / divisor) + (divisor - 1)) / divisor := by
        congr 1
        omega
      _ = dividend / divisor + (divisor - 1) / divisor := Nat.mul_add_div positive _ _
      _ = dividend / divisor := by
        have none : (divisor - 1) / divisor = 0 := Nat.div_eq_of_lt (by omega)
        rw [none, Nat.add_zero]

/-- The division rounds up, and adding one to the quotient does not overflow. -/
theorem toNat_divCeil {dividend divisor : U128} (large : 1 < divisor.toNat) :
    (divCeil dividend divisor).toNat = dividend.toNat ⌈/⌉ divisor.toNat := by
  have room : dividend.toNat / divisor.toNat + 1 < 2 ^ 128 := by
    have less : dividend.toNat / divisor.toNat ≤ dividend.toNat / 2 :=
      Nat.div_le_div_left large Nat.zero_lt_two
    have bound := dividend.isLt
    omega
  have rest : 0 < dividend % divisor <-> 0 < dividend.toNat % divisor.toNat := by
    rw [BitVec.lt_def, BitVec.toNat_umod]
    rfl
  unfold divCeil
  simp only [rest]
  rw [ceilDiv_eq (Nat.lt_of_succ_lt large)]
  split
  · rw [BitVec.toNat_add, BitVec.toNat_udiv]
    exact Nat.mod_eq_of_lt room
  · exact BitVec.toNat_udiv

theorem toNat_counterTicks (frequencyHz microseconds : U64) :
    (counterTicksForMicroseconds frequencyHz microseconds).toNat =
      min ((frequencyHz.toNat * microseconds.toNat) ⌈/⌉ 10 ^ 6) (2 ^ 64 - 1) := by
  have ticks : (divCeil (frequencyHz.setWidth 128 * microseconds.setWidth 128) 1000000).toNat =
      (frequencyHz.toNat * microseconds.toNat) ⌈/⌉ 10 ^ 6 := by
    rw [toNat_divCeil (by decide), toNat_product]
    rfl
  have most : u64Max.toNat = 2 ^ 64 - 1 := rfl
  unfold counterTicksForMicroseconds
  generalize divCeil (frequencyHz.setWidth 128 * microseconds.setWidth 128) 1000000 = rounded at ticks
  dsimp only
  rw [← ticks, ← most]
  by_cases fits : rounded ≤ u64Max
  · rw [if_pos fits, BitVec.toNat_setWidth, Nat.min_eq_left fits, Nat.mod_eq_of_lt]
    exact Nat.lt_of_le_of_lt fits (by decide)
  · rw [if_neg fits, BitVec.toNat_setWidth, Nat.min_eq_right (Nat.le_of_not_le fits)]
    rfl

/-! ## Expiry -/

/-- The difference between two readings is the number of ticks between them,
even if the counter has wrapped. -/
theorem toNat_elapsed (start : U64) {elapsed : Nat} (small : elapsed < 2 ^ 64) :
    (start + BitVec.ofNat 64 elapsed - start).toNat = elapsed := by
  rw [BitVec.add_comm, BitVec.add_sub_cancel, BitVec.toNat_ofNat, Nat.mod_eq_of_lt small]

/-- A timeout that is not cut off has expired exactly when the time is over. -/
theorem timeoutExpired_iff {frequency timeoutUs : U64}
    (unsaturated : (frequency.toNat * timeoutUs.toNat) ⌈/⌉ 10 ^ 6 ≤ 2 ^ 64 - 1) (start : U64)
    {elapsed : Nat} (small : elapsed < 2 ^ 64) :
    timeoutExpired (start + BitVec.ofNat 64 elapsed) start (counterTicksForMicroseconds frequency timeoutUs) =
        true <->
      frequency.toNat * timeoutUs.toNat ≤ elapsed * 10 ^ 6 := by
  rw [timeoutExpired, decide_eq_true_eq, BitVec.le_def, toNat_elapsed start small, toNat_counterTicks,
    Nat.min_eq_left unsaturated, ceilDiv_le_iff_le_mul (by decide), Nat.mul_comm (10 ^ 6) elapsed]

/-- The poll with this number is the first at which the timeout has expired. -/
def ExpiresFirstAt (readings : Nat -> U64) (start timeoutTicks : U64) (poll : Nat) : Prop :=
  timeoutExpired (readings poll) start timeoutTicks = true ∧
    forall earlier, earlier < poll -> timeoutExpired (readings earlier) start timeoutTicks = false

/-- The ticks are the product of frequency and time, rounded up and bounded;
and without the bound, a loop that polls the counter ends at the first reading
at which the time is over. -/
theorem timeouts_exact (frequency timeoutUs : U64) :
    frequency.toNat * timeoutUs.toNat < 2 ^ 128 ∧
    (counterTicksForMicroseconds frequency timeoutUs).toNat =
      min ((frequency.toNat * timeoutUs.toNat) ⌈/⌉ 10 ^ 6) (2 ^ 64 - 1) ∧
    ((frequency.toNat * timeoutUs.toNat) ⌈/⌉ 10 ^ 6 ≤ 2 ^ 64 - 1 -> forall counter : U64,
      let (start, ticks) := startTimeout frequency counter timeoutUs
      (forall elapsed, elapsed < 2 ^ 64 ->
        (timeoutExpired (counter + BitVec.ofNat 64 elapsed) start ticks = true <->
          elapsed * 10 ^ 6 ≥ frequency.toNat * timeoutUs.toNat)) ∧
      (forall elapsed : Nat -> Nat, (forall poll, elapsed poll < 2 ^ 64) -> forall poll,
        (ExpiresFirstAt (fun poll => counter + BitVec.ofNat 64 (elapsed poll)) start ticks poll <->
          elapsed poll * 10 ^ 6 ≥ frequency.toNat * timeoutUs.toNat ∧
            forall earlier, earlier < poll ->
              elapsed earlier * 10 ^ 6 < frequency.toNat * timeoutUs.toNat))) := by
  refine ⟨product_lt frequency timeoutUs, toNat_counterTicks frequency timeoutUs, ?_⟩
  intro unsaturated counter
  have expired := fun {elapsed : Nat} (small : elapsed < 2 ^ 64) =>
    timeoutExpired_iff unsaturated counter small
  refine ⟨fun elapsed small => expired small, fun elapsed small poll => ?_⟩
  unfold ExpiresFirstAt
  refine and_congr (expired (small poll)) (forall_congr' fun earlier => imp_congr_right fun _ => ?_)
  rw [← Bool.not_eq_true, expired (small earlier), Nat.not_le]

end Counter
end Tpm
end SecureServices
