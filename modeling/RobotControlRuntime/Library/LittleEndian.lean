import Mathlib.Tactic.Ring

-- Numbers as byte strings of a fixed length, the lowest byte first.
namespace LittleEndian

def value : List UInt8 → Nat
  | [] => 0
  | byte :: rest => byte.toNat + 256 * value rest

def bytes : Nat → Nat → List UInt8
  | 0,_ => []
  | n + 1,number => UInt8.ofNat number :: bytes n (number / 256)

@[simp] theorem bytes_length (n number : Nat) : (bytes n number).length = n := by
  induction n generalizing number with
  | zero => rfl
  | succ n ih => rw [bytes,List.length_cons,ih]

theorem value_bytes (n number : Nat) : value (bytes n number) = number % 256 ^ n := by
  induction n generalizing number with
  | zero => rw [Nat.pow_zero,Nat.mod_one]; rfl
  | succ n ih =>
      have low : (UInt8.ofNat number).toNat = number % 256 := UInt8.toNat_ofNat'
      rw [bytes,value,ih,low,Nat.pow_succ',Nat.mod_mul]

theorem value_fits (fits : number < 256 ^ n) : value (bytes n number) = number := by
  rw [value_bytes,Nat.mod_eq_of_lt fits]

theorem value_append (front rest : List UInt8) : value (front ++ rest) = value front + 256 ^ front.length * value rest := by
  induction front with
  | nil => simp [value]
  | cons byte front ih =>
      rw [List.cons_append,value,ih,value,List.length_cons]
      ring

theorem value_lt (front : List UInt8) : value front < 256 ^ front.length := by
  induction front with
  | nil => exact Nat.one_pos
  | cons byte front ih =>
      have bound := byte.toNat_lt
      rw [value,List.length_cons,Nat.pow_succ']
      omega

theorem bytes_map (n number : Nat) : bytes n number = (List.range n).map fun i => UInt8.ofNat (number / 256 ^ i) := by
  induction n generalizing number with
  | zero => rfl
  | succ n ih =>
      rw [bytes,ih,List.range_succ_eq_map,List.map_cons,List.map_map]
      congr 1
      · simp
      · apply List.map_congr_left
        intro i _
        rw [Function.comp_apply,Nat.succ_eq_add_one,Nat.pow_succ',Nat.div_div_eq_div_mul]

end LittleEndian
