import Mathlib.Logic.Function.Iterate

-- A reflected cyclic redundancy code of any width, one bit at a time: the low bit
-- first, the polynomial without its leading term.
namespace Crc

variable {w : Nat} {poly : BitVec w}

def shift (poly state : BitVec w) : BitVec w := if state.getLsbD 0 then state >>> 1 ^^^ poly else state >>> 1

def bit (w : Nat) (b : Bool) : BitVec w := BitVec.setWidth w (BitVec.ofBool b)

def feed (poly : BitVec w) (state : BitVec w) (bits : List Bool) : BitVec w :=
  bits.foldl (fun state b => shift poly (state ^^^ bit w b)) state

def word (w : Nat) : List Bool → BitVec w
  | [] => 0#w
  | b :: rest => bit w b ^^^ word w rest <<< 1

section Shift

theorem xor_cancel (a b p : BitVec w) : a ^^^ p ^^^ (b ^^^ p) = a ^^^ b := by
  calc a ^^^ p ^^^ (b ^^^ p) = a ^^^ b ^^^ (p ^^^ p) := by ac_rfl
    _ = a ^^^ b := by simp

theorem shift_xor (a b : BitVec w) : shift poly (a ^^^ b) = shift poly a ^^^ shift poly b := by
  unfold shift
  simp only [BitVec.getLsbD_xor,BitVec.ushiftRight_xor_distrib]
  cases a.getLsbD 0 <;> cases b.getLsbD 0
  · simp
  · simp only [Bool.false_xor,↓reduceIte,Bool.false_eq_true]
    ac_rfl
  · simp only [Bool.xor_false,↓reduceIte,Bool.false_eq_true]
    ac_rfl
  · simp [xor_cancel]

theorem shift_zero : shift poly 0#w = 0#w := by simp [shift]

theorem shift_low (state : BitVec w) (clear : state.getLsbD 0 = false) : shift poly state = state >>> 1 := by
  simp [shift,clear]

theorem shift_eq_zero (leading : poly.msb = true) (zero : shift poly state = 0#w) : state = 0#w := by
  unfold shift at zero
  split at zero
  · have top : (state >>> 1 ^^^ poly).msb = false := by rw [zero]; exact BitVec.msb_zero
    rw [BitVec.msb_xor,leading] at top
    simp at top
  · rename_i clear
    apply BitVec.eq_of_getLsbD_eq
    intro i inside
    cases i with
    | zero => simpa using clear
    | succ i =>
        have moved : (state >>> 1).getLsbD i = (0#w).getLsbD i := by rw [zero]
        simpa [Nat.add_comm] using moved

theorem shifts_zero (n : Nat) : (shift poly)^[n] 0#w = 0#w := Function.iterate_fixed shift_zero n

theorem shifts_eq_zero (leading : poly.msb = true) (n : Nat) (zero : (shift poly)^[n] state = 0#w) : state = 0#w := by
  induction n generalizing state with
  | zero => exact zero
  | succ n ih => exact shift_eq_zero leading (ih zero)

end Shift

section Feed

@[simp] theorem feed_nil (state : BitVec w) : feed poly state [] = state := rfl

theorem feed_append (state : BitVec w) (one two : List Bool) :
    feed poly state (one ++ two) = feed poly (feed poly state one) two := List.foldl_append

theorem feed_cons (state : BitVec w) (b : Bool) (rest : List Bool) :
    feed poly state (b :: rest) = feed poly (shift poly (state ^^^ bit w b)) rest := rfl

theorem bit_xor (a b : Bool) : bit w (a ^^ b) = bit w a ^^^ bit w b := by
  cases a <;> cases b <;> simp [bit]

theorem feed_xor (one two : List Bool) (a b : BitVec w) (same : one.length = two.length) :
    feed poly (a ^^^ b) (List.zipWith Bool.xor one two) = feed poly a one ^^^ feed poly b two := by
  induction one generalizing two a b with
  | nil =>
      cases List.length_eq_zero_iff.mp same.symm
      rfl
  | cons x one ih =>
      cases two with
      | nil => cases same
      | cons y two =>
          have step : shift poly (a ^^^ b ^^^ bit w (x ^^ y)) =
              shift poly (a ^^^ bit w x) ^^^ shift poly (b ^^^ bit w y) := by
            rw [← shift_xor,bit_xor]
            congr 1
            ac_rfl
          rw [List.zipWith_cons_cons,feed_cons,feed_cons,feed_cons,step]
          exact ih two _ _ (Nat.succ.inj same)

theorem feed_zeros (state : BitVec w) (n : Nat) : feed poly state (List.replicate n false) = (shift poly)^[n] state := by
  induction n generalizing state with
  | zero => rfl
  | succ n ih =>
      have none : state ^^^ bit w false = state := by simp [bit]
      rw [List.replicate_succ,feed_cons,none,ih]
      rfl

theorem word_getLsbD (bits : List Bool) (i : Nat) : (word w bits).getLsbD i = (decide (i < w) && bits.getD i false) := by
  induction bits generalizing i with
  | nil => simp [word]
  | cons b rest ih =>
      rw [word,BitVec.getLsbD_xor,BitVec.getLsbD_shiftLeft,bit,BitVec.getLsbD_setWidth]
      cases i with
      | zero => simp
      | succ i =>
          by_cases inside : i + 1 < w
          · have below : i < w := by omega
            simpa [inside,below] using ih i
          · simp [inside]

theorem feed_word (bits : List Bool) (short : bits.length ≤ w) (state : BitVec w) :
    feed poly state bits = (shift poly)^[bits.length] (state ^^^ word w bits) := by
  induction bits generalizing state with
  | nil => simp [word]
  | cons b rest ih =>
      have fewer : rest.length < w := short
      have later : shift poly (word w rest <<< 1) = word w rest := by
        rw [shift_low _ (by simp)]
        apply BitVec.eq_of_getLsbD_eq
        intro i inside
        rw [BitVec.getLsbD_ushiftRight,BitVec.getLsbD_shiftLeft,word_getLsbD,word_getLsbD,Nat.add_comm 1 i]
        by_cases last : i + 1 < w
        · simp [last]
        · have past : rest.length ≤ i := by omega
          simp [last,past]
      calc feed poly state (b :: rest)
          = (shift poly)^[rest.length] (shift poly (state ^^^ bit w b) ^^^ word w rest) := by
            rw [feed_cons,ih (Nat.le_of_lt fewer)]
        _ = (shift poly)^[rest.length] (shift poly (state ^^^ bit w b ^^^ word w rest <<< 1)) := by
            rw [shift_xor (state ^^^ bit w b),later]
        _ = (shift poly)^[rest.length + 1] (state ^^^ word w (b :: rest)) := by
            rw [Function.iterate_succ_apply,word,BitVec.xor_assoc]

theorem feed_closed (bits : List Bool) (short : bits.length ≤ w) (state : BitVec w) (closes : word w bits = state) :
    feed poly state bits = 0#w := by
  rw [feed_word bits short,closes,BitVec.xor_self,shifts_zero]

end Feed

section Burst
variable {one two : List Bool} {k : Nat}

theorem all_clear (bits : List Bool) (none : ∀ i, bits.getD i false = false) : bits = List.replicate bits.length false := by
  refine List.eq_replicate_iff.mpr ⟨rfl,?_⟩
  intro b present
  obtain ⟨i,inside,rfl⟩ := List.mem_iff_getElem.mp present
  simpa [inside] using none i

theorem word_eq_zero (bits : List Bool) (short : bits.length ≤ w) (zero : word w bits = 0#w) (i : Nat) :
    bits.getD i false = false := by
  by_cases inside : i < bits.length
  · have clear : (word w bits).getLsbD i = false := by simp [zero]
    rw [word_getLsbD] at clear
    simpa [Nat.lt_of_lt_of_le inside short] using clear
  · simp [Nat.not_lt.mp inside]

-- Bits of which all set ones lie in a window of `w` and that leave the zero state
-- at zero are all clear.
theorem window_clear (leading : poly.msb = true) (bits : List Bool) (early : ∀ i, i < k → bits.getD i false = false)
    (late : ∀ i, k + w ≤ i → bits.getD i false = false) (zero : feed poly 0#w bits = 0#w) (i : Nat) :
    bits.getD i false = false := by
  have before : bits.take k = List.replicate (bits.take k).length false := by
    apply all_clear
    intro i
    by_cases below : i < k
    · simpa [List.getElem?_take,below] using early i below
    · simp only [List.getD_eq_getElem?_getD,List.getElem?_take,if_neg below,Option.getD_none]
  have after : (bits.drop k).drop w = List.replicate ((bits.drop k).drop w).length false := by
    apply all_clear
    intro i
    simpa [List.getElem?_drop,Nat.add_assoc] using late (k + w + i) (by omega)
  have split : bits.take k ++ ((bits.drop k).take w ++ (bits.drop k).drop w) = bits := by
    rw [List.take_append_drop,List.take_append_drop]
  have short : ((bits.drop k).take w).length ≤ w := List.length_take_le _ _
  rw [← split,feed_append,feed_append,before,feed_zeros,shifts_zero,after,feed_zeros] at zero
  have inner := shifts_eq_zero leading _ zero
  rw [feed_word _ short] at inner
  have none := word_eq_zero _ short (by simpa using shifts_eq_zero leading _ inner)
  by_cases below : i < k
  · exact early i below
  · by_cases above : k + w ≤ i
    · exact late i above
    · have position : k + (i - k) = i := by omega
      simpa [List.getElem?_take,List.getElem?_drop,position,show i - k < w by omega] using none (i - k)

theorem zipWith_getD (same : one.length = two.length) (i : Nat) :
    (List.zipWith Bool.xor one two).getD i false = (one.getD i false ^^ two.getD i false) := by
  by_cases inside : i < one.length
  · have inside' : i < two.length := same ▸ inside
    simp only [List.getD_eq_getElem?_getD,List.getElem?_zipWith,List.getElem?_eq_getElem inside,
      List.getElem?_eq_getElem inside',Option.getD_some]
  · have past : one.length ≤ i := Nat.not_lt.mp inside
    have past' : two.length ≤ i := same ▸ past
    simp only [List.getD_eq_getElem?_getD,List.getElem?_zipWith,List.getElem?_eq_none past,List.getElem?_eq_none past',
      Option.getD_none,Bool.xor_false]

-- Two strings of one length that end in the same state differ, if they do, over
-- more than `w` bits.
theorem burst_detected (leading : poly.msb = true) (same : one.length = two.length) (start : BitVec w)
    (window : ∀ i, one.getD i false ≠ two.getD i false → k ≤ i ∧ i < k + w)
    (agree : feed poly start one = feed poly start two) : one = two := by
  have zero : feed poly (start ^^^ start) (List.zipWith Bool.xor one two) = feed poly start one ^^^ feed poly start two :=
    feed_xor one two start start same
  rw [agree,BitVec.xor_self,BitVec.xor_self] at zero
  have outside : ∀ i, ¬(k ≤ i ∧ i < k + w) → (List.zipWith Bool.xor one two).getD i false = false := by
    intro i out
    rw [zipWith_getD same]
    by_contra differ
    exact out (window i (by simpa using differ))
  have early : ∀ i, i < k → (List.zipWith Bool.xor one two).getD i false = false := fun i below => outside i (by omega)
  have late : ∀ i, k + w ≤ i → (List.zipWith Bool.xor one two).getD i false = false := fun i above => outside i (by omega)
  have clear := window_clear leading _ early late zero
  apply List.ext_getElem same
  intro i inside inside'
  have equal := clear i
  rw [zipWith_getD same] at equal
  simpa [inside,inside'] using equal

end Burst

end Crc
