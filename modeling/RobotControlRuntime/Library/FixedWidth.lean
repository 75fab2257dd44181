import Mathlib.Algebra.Group.Nat.Defs

namespace FixedWidth

-- Words of a fixed width seen as integers: how far two positions on a ring of
-- `2 * half` values are apart, and which results fit a signed word.
section Distance
variable {half : Nat}

def ahead (half a b : Nat) : Int := ((a : Int) - b).bmod (2 * half)

theorem difference_ahead {width : Nat} (a b : BitVec (width + 1)) :
    (a - b).toInt = ahead (2 ^ width) a.toNat b.toNat := by
  rw [BitVec.toInt_sub,BitVec.toInt_eq_toNat_bmod,BitVec.toInt_eq_toNat_bmod,← Int.sub_bmod,ahead,Nat.pow_succ,
    Nat.mul_comm]

theorem bmod_near {distance : Int} (low : -(half : Int) ≤ distance) (high : distance < half) :
    distance.bmod (2 * half) = distance :=
  Int.bmod_eq_of_le (by omega) (by omega)

-- The positions of two counters tell their distance while it is less than half
-- the ring, however often either has gone round.
theorem ahead_wrapped (x y : Nat) (low : -(half : Int) ≤ (x : Int) - y) (high : (x : Int) - y < half) :
    ahead half (x % (2 * half)) (y % (2 * half)) = (x : Int) - y := by
  rw [ahead,Int.natCast_emod,Int.natCast_emod,Int.sub_bmod,Int.emod_bmod,Int.emod_bmod,← Int.sub_bmod]
  exact bmod_near low high

def skipZero (half count : Nat) : Nat := (count - 1) % (2 * half - 1) + 1

theorem skip_difference (count step : Nat) (positive : 1 ≤ count) (near : step + 2 ≤ half) :
    (skipZero half (count + step) : Int) - skipZero half count = step ∨
      (skipZero half (count + step) : Int) - skipZero half count = step + 1 - (2 * half : Nat) := by
  have split : (count + step - 1) % (2 * half - 1) = ((count - 1) % (2 * half - 1) + step) % (2 * half - 1) := by
    rw [show count + step - 1 = count - 1 + step by omega,Nat.mod_add_mod]
  have bound : (count - 1) % (2 * half - 1) < 2 * half - 1 := Nat.mod_lt _ (by omega)
  simp only [skipZero,split]
  generalize (count - 1) % (2 * half - 1) = position at bound
  by_cases inside : position + step < 2 * half - 1
  · rw [Nat.mod_eq_of_lt inside]
    omega
  · rw [Nat.mod_eq_sub_mod (by omega),Nat.mod_eq_of_lt (by omega)]
    omega

theorem ahead_skip (half count step : Nat) (positive : 1 ≤ count) (near : step + 2 ≤ half) :
    ahead half (skipZero half (count + step)) (skipZero half count) = step ∨
      ahead half (skipZero half (count + step)) (skipZero half count) = step + 1 := by
  rcases skip_difference count step positive near with plain | past
  · left
    rw [ahead,plain]
    exact bmod_near (by omega) (by omega)
  · right
    rw [ahead,past,← Int.add_mul_bmod_self_left _ (2 * half) 1,
      show (step : Int) + 1 - (2 * half : Nat) + (2 * half : Nat) * 1 = step + 1 by omega]
    exact bmod_near (by omega) (by omega)

theorem behind_skip (half count step : Nat) (positive : 1 ≤ count) (near : step + 2 ≤ half) :
    ahead half (skipZero half count) (skipZero half (count + step)) = -(step : Int) ∨
      ahead half (skipZero half count) (skipZero half (count + step)) = -((step : Int) + 1) := by
  rcases skip_difference count step positive near with plain | past
  · left
    rw [ahead,show (skipZero half count : Int) - skipZero half (count + step) = -(step : Int) by omega]
    exact bmod_near (by omega) (by omega)
  · right
    rw [ahead,show (skipZero half count : Int) - skipZero half (count + step) =
        -((step : Int) + 1) + (2 * half : Nat) * 1 by omega,Int.add_mul_bmod_self_left]
    exact bmod_near (by omega) (by omega)

theorem skip_order (x y : Nat) (known : 1 ≤ x ∧ 1 ≤ y) (left : x + 2 ≤ y + half) (right : y + 2 ≤ x + half) :
    0 < ahead half (skipZero half x) (skipZero half y) ↔ y < x := by
  constructor
  · intro forward
    refine Nat.lt_of_not_le fun behind => ?_
    have back := behind_skip half x (y - x) known.1 (by omega)
    rw [show x + (y - x) = y by omega] at back
    omega
  · intro later
    have forward := ahead_skip half y (x - y) known.2 (by omega)
    rw [show y + (x - y) = x by omega] at forward
    omega

end Distance

-- Arithmetic on signed words of `2 * half` values: `none` is an overflow.
section Checked
variable {half : Nat} {value : Int}

def Fits (half : Nat) (value : Int) : Prop := -(half : Int) ≤ value ∧ value < half

instance (half : Nat) (value : Int) : Decidable (Fits half value) := inferInstanceAs (Decidable (_ ∧ _))

def checked (half : Nat) (value : Int) : Option Int := if Fits half value then some value else none

@[simp] theorem checked_fits (fits : Fits half value) : checked half value = some value := if_pos fits

theorem checked_some (exact : checked half value = some result) : result = value ∧ Fits half value := by
  by_cases fits : Fits half value
  · rw [checked_fits fits] at exact
    cases exact
    exact ⟨rfl,fits⟩
  · rw [checked,if_neg fits] at exact
    cases exact

end Checked

theorem merged_bit (bits mask values : UInt8) (i : Nat) (on : ((bits &&& ~~~mask) ||| (values &&& mask)).toNat.testBit i = true) :
    bits.toNat.testBit i = true ∨ (mask.toNat.testBit i = true ∧ values.toNat.testBit i = true) := by
  simp only [UInt8.toNat_or,UInt8.toNat_and,Nat.testBit_or,Nat.testBit_and,Bool.or_eq_true,Bool.and_eq_true] at on
  rcases on with ⟨kept,_⟩ | ⟨value,masked⟩
  · exact .inl kept
  · exact .inr ⟨masked,value⟩

end FixedWidth
