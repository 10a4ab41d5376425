import Mathlib.Algebra.Group.Int.Defs
import Mathlib.Algebra.Group.Nat.Defs
import PluginFabric.Window

/-! The time of a window, exactly.

    A clock keeps the width, the distance from the base and the sum within bounds, one after the
    other. Taken together this is one bound on the sum as it would be without any (`toInt_toMillis`):
    where an earlier bound takes effect the last one does too, unless the sequence number is zero, and
    then there is no distance to be bounded. The base needs no bound, as its seconds have 32 bits. -/

namespace PluginFabric

/-! ### Parts and bounds -/

namespace WindowId

theorem div_lt (w : WindowId) : w.value.toNat / 2 ^ 32 < 2 ^ 32 := by
  have hlt : w.value.toNat < 2 ^ 64 := w.value.toNat_lt
  omega

theorem toNat_baseSeconds (w : WindowId) : w.baseSeconds.toNat = w.value.toNat / 2 ^ 32 := by
  rw [baseSeconds, UInt64.toNat_toUInt32, UInt64.toNat_shiftRight, Nat.shiftRight_eq_div_pow]
  exact Nat.mod_eq_of_lt w.div_lt

theorem toNat_sequence (w : WindowId) : w.sequence.toNat = w.value.toNat % 2 ^ 32 :=
  UInt64.toNat_toUInt32 w.value

end WindowId

theorem toInt_maxValue : Int64.maxValue.toInt = 2 ^ 63 - 1 := rfl

theorem toInt_saturated (n : Int) : (saturated n).toInt = max (-2 ^ 63) (min (2 ^ 63 - 1) n) := by
  have hmin : Int64.minValue.toInt = -2 ^ 63 := rfl
  rw [saturated, hmin, toInt_maxValue]
  exact Int64.toInt_ofInt_of_le (by omega) (by omega)

/-- Under a bound on a multiple, the bound on what is multiplied makes no difference. -/
theorem min_mul_min {bound n : Int} (times : Nat) (hbound : 0 ≤ bound) :
    min bound (times * min n bound) = min bound (times * n) := by
  rcases Int.le_total n bound with h | h
  · rw [Int.min_eq_left h]
  · cases times with
    | zero => simp only [Int.natCast_zero, Int.zero_mul]
    | succ times =>
      -- already once either of them reaches the bound
      have once : ∀ m : Int, 0 ≤ m → m ≤ (times + 1 : Nat) * m := fun m hm => by
        have hmore : 0 ≤ times * m := Int.mul_nonneg (Int.natCast_nonneg times) hm
        rw [Int.natCast_succ, Int.add_mul, Int.one_mul]
        omega
      have hn := once n (Int.le_trans hbound h)
      rw [Int.min_eq_right h, Int.min_eq_left (once bound hbound), Int.min_eq_left (Int.le_trans h hn)]

namespace WindowClock

/-- The start of a window as it would be without any bounds. -/
def exactMillis (c : WindowClock) (w : WindowId) : Int :=
  max (1000 * (w.value.toNat / 2 ^ 32 : Nat) : Int) c.firstWindow.toInt +
    (w.value.toNat % 2 ^ 32 : Nat) * c.windowWidth.toNat

/-- Without any bounds, a window does not start before its base or the first window. -/
theorem le_exactMillis (c : WindowClock) (w : WindowId) :
    max (1000 * (w.value.toNat / 2 ^ 32 : Nat) : Int) c.firstWindow.toInt ≤ c.exactMillis w := by
  have hdistance : (0 : Int) ≤ (w.value.toNat % 2 ^ 32 : Nat) * c.windowWidth.toNat :=
    Int.mul_nonneg (Int.natCast_nonneg _) (Int.natCast_nonneg _)
  rw [exactMillis]
  omega

/-! ### One bound -/

theorem toInt_toMillis (c : WindowClock) (w : WindowId) :
    (c.toMillis w).toInt = min (2 ^ 63 - 1) (c.exactMillis w) := by
  have hoffset := min_mul_min (n := c.windowWidth.toNat) (w.value.toNat % 2 ^ 32)
    (show (0 : Int) ≤ 2 ^ 63 - 1 by decide)
  have hstart := c.le_exactMillis w
  rw [exactMillis] at hstart ⊢
  rw [toMillis, toInt_saturated, toInt_saturated, w.toNat_baseSeconds, w.toNat_sequence,
    toInt_maxValue, hoffset]
  omega

theorem exactMillis_mono (c : WindowClock) {v w : WindowId}
    (hbase : v.value.toNat / 2 ^ 32 ≤ w.value.toNat / 2 ^ 32)
    (hsequence : v.value.toNat % 2 ^ 32 ≤ w.value.toNat % 2 ^ 32) :
    c.exactMillis v ≤ c.exactMillis w := by
  have hoffset : ((v.value.toNat % 2 ^ 32 : Nat) * c.windowWidth.toNat : Int)
      ≤ (w.value.toNat % 2 ^ 32 : Nat) * c.windowWidth.toNat :=
    Int.mul_le_mul_of_nonneg_right (Int.ofNat_le.2 hsequence) (Int.natCast_nonneg _)
  rw [exactMillis, exactMillis]
  omega

theorem toMillis_mono (c : WindowClock) {v w : WindowId}
    (hbase : v.value.toNat / 2 ^ 32 ≤ w.value.toNat / 2 ^ 32)
    (hsequence : v.value.toNat % 2 ^ 32 ≤ w.value.toNat % 2 ^ 32) :
    c.toMillis v ≤ c.toMillis w := by
  have hexact := c.exactMillis_mono hbase hsequence
  rw [Int64.le_iff_toInt_le, toInt_toMillis, toInt_toMillis]
  omega

/-- The time of a window is the exact one, or the largest there is if that is too large. It is neither
    negative nor before the first window. Of windows with one base it grows with the id, and of windows
    with one sequence number with the base. The base itself always fits. -/
theorem toMillis_exact (c : WindowClock) (w : WindowId) :
    let base (v : WindowId) : Nat := v.value.toNat / 2 ^ 32
    let sequence (v : WindowId) : Nat := v.value.toNat % 2 ^ 32
    (c.toMillis w).toInt = min (2 ^ 63 - 1)
      (max (1000 * base w : Int) c.firstWindow.toInt + sequence w * c.windowWidth.toNat) ∧
    0 ≤ c.toMillis w ∧ c.firstWindow ≤ c.toMillis w ∧ 1000 * base w < 2 ^ 63 ∧
    (∀ v, base v = base w → v.value ≤ w.value → c.toMillis v ≤ c.toMillis w) ∧
    (∀ v, sequence v = sequence w → base v ≤ base w → c.toMillis v ≤ c.toMillis w) := by
  intro base sequence
  have hexact := c.toInt_toMillis w
  have hstart := c.le_exactMillis w
  refine ⟨hexact, ?_, ?_, ?_, fun v hbase hle => ?_, fun v hsequence hbase => ?_⟩
  · have hzero : (0 : Int64).toInt = 0 := rfl
    rw [Int64.le_iff_toInt_le, hexact]
    omega
  · have hfirst := c.firstWindow.toInt_le
    rw [toInt_maxValue] at hfirst
    rw [Int64.le_iff_toInt_le, hexact]
    omega
  · exact Nat.lt_trans (Nat.mul_lt_mul_of_pos_left w.div_lt (by decide)) (by decide)
  · -- with one base, the order of the ids is that of the sequence numbers
    have hbase : v.value.toNat / 2 ^ 32 = w.value.toNat / 2 ^ 32 := hbase
    have hle : v.value.toNat ≤ w.value.toNat := hle
    exact c.toMillis_mono (Nat.le_of_eq hbase) (by omega)
  · exact c.toMillis_mono hbase (Nat.le_of_eq hsequence)

/-- A width over the largest time changes nothing for the first window of a base, and the times of the
    others are the largest there is. -/
theorem toMillis_exact_oversized :
    let c : WindowClock := { firstWindow := -5, windowWidth := 18446744073709551615 }
    let first := WindowId.ofParts 2 0
    let next := WindowId.ofParts 2 1
    let earlier := WindowId.ofParts 1 1
    first.value.toNat / 2 ^ 32 = next.value.toNat / 2 ^ 32 ∧ first.value ≤ next.value ∧
      earlier.value.toNat % 2 ^ 32 = next.value.toNat % 2 ^ 32 ∧
      earlier.value.toNat / 2 ^ 32 ≤ next.value.toNat / 2 ^ 32 ∧
      c.toMillis first = 2000 ∧ c.toMillis next = Int64.maxValue ∧
      c.toMillis first ≤ c.toMillis next ∧ c.toMillis earlier ≤ c.toMillis next := by
  intro c first next earlier
  have hbase : first.value.toNat / 2 ^ 32 = next.value.toNat / 2 ^ 32 := by decide
  have hvalue : first.value ≤ next.value := by decide
  have hsequence : earlier.value.toNat % 2 ^ 32 = next.value.toNat % 2 ^ 32 := by decide
  have hearlier : earlier.value.toNat / 2 ^ 32 ≤ next.value.toNat / 2 ^ 32 := by decide
  obtain ⟨-, -, -, -, grows, later⟩ := c.toMillis_exact next
  exact ⟨hbase, hvalue, hsequence, hearlier, by decide, by decide, grows first hbase hvalue,
    later earlier hsequence hearlier⟩

end WindowClock

end PluginFabric
