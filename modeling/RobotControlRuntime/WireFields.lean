import RobotControlRuntime.FrameFormat
import RobotControlRuntime.Library.LittleEndian

-- The fields of the payloads: what a read at an offset finds in what was appended.
namespace RobotControlRuntime
open LittleEndian

section Words

theorem u16_bytes (number : UInt16) : u16Le number = bytes 2 number.toNat := by
  have low : (number &&& 0xFF).toUInt8 = UInt8.ofNat number.toNat := by
    apply UInt8.toNat_inj.mp
    rw [low_value]
    exact UInt8.toNat_ofNat'.symm
  have high : (number >>> 8 &&& 0xFF).toUInt8 = UInt8.ofNat (number.toNat / 256) := by
    have bound := number.toNat_lt
    apply UInt8.toNat_inj.mp
    rw [high_value,UInt8.toNat_ofNat',Nat.mod_eq_of_lt (by omega)]
  rw [u16Le,low,high]
  rfl

theorem byte64_value (number : UInt64) (i : Nat) (inside : i < 8) :
    (number >>> UInt64.ofNat (8 * i) &&& 0xFF).toUInt8 = UInt8.ofNat (number.toNat / 256 ^ i) := by
  have small : 8 * i % 2 ^ 64 % 64 = 8 * i := by omega
  have place : (256 : Nat) ^ i = 2 ^ (8 * i) := by rw [Nat.pow_mul]
  apply UInt8.toNat_inj.mp
  rw [UInt64.toNat_toUInt8,UInt64.toNat_and,UInt64.toNat_shiftRight,UInt64.toNat_ofNat',small,Nat.shiftRight_eq_div_pow,
    show (0xFF : UInt64).toNat = 255 from rfl,byte_mask,UInt8.toNat_ofNat',place]
  exact Nat.mod_mod _ _

theorem u64_bytes (number : UInt64) : u64Le number = bytes 8 number.toNat := by
  rw [bytes_map,u64Le]
  apply List.map_congr_left
  intro i present
  exact byte64_value number i (List.mem_range.mp present)

theorem value_u16 (number : UInt16) : value (u16Le number) = number.toNat := by
  rw [u16_bytes,value_fits number.toNat_lt]

theorem value_u64 (number : UInt64) : value (u64Le number) = number.toNat := by
  rw [u64_bytes,value_fits number.toNat_lt]

theorem place64_value (low : UInt64) (high : UInt8) (shift : Nat) (fits : low.toNat < 2 ^ shift) (room : shift + 8 ≤ 64) :
    (low ||| (high.toUInt64 <<< UInt64.ofNat shift)).toNat = low.toNat + 2 ^ shift * high.toNat := by
  have bound := high.toNat_lt
  have grows : high.toNat * 2 ^ shift < 2 ^ 64 := by
    calc high.toNat * 2 ^ shift < 2 ^ 8 * 2 ^ shift := Nat.mul_lt_mul_of_pos_right bound (Nat.two_pow_pos _)
      _ = 2 ^ (8 + shift) := (Nat.pow_add ..).symm
      _ ≤ 2 ^ 64 := Nat.pow_le_pow_right (by decide) (by omega)
  have small : shift % 2 ^ 64 % 64 = shift := by omega
  rw [UInt64.toNat_or,UInt64.toNat_shiftLeft,UInt8.toNat_toUInt64,UInt64.toNat_ofNat',small,Nat.shiftLeft_eq,
    Nat.mod_eq_of_lt grows,Nat.or_comm,← Nat.shiftLeft_eq,← Nat.shiftLeft_add_eq_or_of_lt fits,Nat.add_comm,
    Nat.shiftLeft_eq,Nat.mul_comm]

theorem readU64_loop (p : List UInt8) (enough : n ≤ p.length) (most : n ≤ 8) :
    ((List.range n).foldl (fun number i => number ||| ((byteAt p i).toUInt64 <<< UInt64.ofNat (8 * i))) 0).toNat =
      value (p.take n) := by
  induction n with
  | zero => rfl
  | succ n ih =>
      have earlier := ih (by omega) (by omega)
      have length : (p.take n).length = n := by simp; omega
      have below := value_lt (p.take n)
      have place : (256 : Nat) ^ n = 2 ^ (8 * n) := by rw [Nat.pow_mul]
      have byte : p.take (n + 1) = p.take n ++ [byteAt p n] := by
        rw [List.take_add_one]
        simp [byteAt,show n < p.length by omega]
      rw [length,place] at below
      rw [List.range_succ,List.foldl_append,List.foldl_cons,List.foldl_nil,
        place64_value _ _ _ (by rw [earlier]; exact below) (by omega),earlier,byte,value_append,length,place]
      simp [value]

theorem readU16_number (p : List UInt8) (enough : 2 ≤ p.length) : (readU16Le p).toNat = value (p.take 2) := by
  match p,enough with
  | low :: high :: rest,_ =>
      have split : readU16Le (low :: high :: rest) = readU16Le [low,high] := rfl
      have front : (low :: high :: rest).take 2 = [low,high] := rfl
      rw [split,readU16_value,front]
      simp only [value]
      omega

theorem readU64_value (p : List UInt8) (enough : 8 ≤ p.length) : (readU64Le p).toNat = value (p.take 8) :=
  readU64_loop p enough (by decide)

end Words

-- Reading what was appended at the same place. The offsets count down through
-- the fields in front.
section Fields

@[simp] theorem readU16_field (number : UInt16) (rest : List UInt8) : readU16Le (u16Le number ++ rest) = number := by
  rw [readU16_append _ _ (by simp),readU16_bytes]

@[simp] theorem readU32_field (number : UInt32) (rest : List UInt8) : readU32Le (u32Le number ++ rest) = number := by
  rw [readU32_append _ _ (by simp),readU32_bytes]

@[simp] theorem readU64_field (number : UInt64) (rest : List UInt8) : readU64Le (u64Le number ++ rest) = number := by
  apply UInt64.toNat_inj.mp
  rw [readU64_value _ (by simp),List.take_append_of_le_length (by simp),List.take_of_length_le (by simp),value_u64]

theorem drop_field (field rest : List UInt8) (n : Nat) : (field ++ rest).drop (n + field.length) = rest.drop n := by
  rw [Nat.add_comm]
  exact List.drop_length_add_append n

theorem byteAt_field (field rest : List UInt8) (n : Nat) : byteAt (field ++ rest) (n + field.length) = byteAt rest n := by
  simp [byteAt,List.getElem?_append_right]

@[simp] theorem drop_u16 (number : UInt16) (rest : List UInt8) (n : Nat) :
    (u16Le number ++ rest).drop (n + 2) = rest.drop n := drop_field (u16Le number) rest n

@[simp] theorem drop_u32 (number : UInt32) (rest : List UInt8) (n : Nat) :
    (u32Le number ++ rest).drop (n + 4) = rest.drop n := drop_field (u32Le number) rest n

@[simp] theorem drop_u64 (number : UInt64) (rest : List UInt8) (n : Nat) :
    (u64Le number ++ rest).drop (n + 8) = rest.drop n := by
  have field := drop_field (u64Le number) rest n
  rwa [u64_length] at field

@[simp] theorem byteAt_u16 (number : UInt16) (rest : List UInt8) (n : Nat) :
    byteAt (u16Le number ++ rest) (n + 2) = byteAt rest n := byteAt_field (u16Le number) rest n

@[simp] theorem byteAt_u32 (number : UInt32) (rest : List UInt8) (n : Nat) :
    byteAt (u32Le number ++ rest) (n + 4) = byteAt rest n := byteAt_field (u32Le number) rest n

@[simp] theorem byteAt_u64 (number : UInt64) (rest : List UInt8) (n : Nat) :
    byteAt (u64Le number ++ rest) (n + 8) = byteAt rest n := by
  have field := byteAt_field (u64Le number) rest n
  rwa [u64_length] at field

@[simp] theorem byteAt_first (byte : UInt8) (rest : List UInt8) : byteAt (byte :: rest) 0 = byte := rfl

@[simp] theorem byteAt_later (byte : UInt8) (rest : List UInt8) (n : Nat) :
    byteAt (byte :: rest) (n + 1) = byteAt rest n := rfl

@[simp] theorem flag_read (flag : Bool) : (flagByte flag != 0) = flag := by cases flag <;> rfl

end Fields

end RobotControlRuntime
