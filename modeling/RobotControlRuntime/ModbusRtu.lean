import RobotControlRuntime.ApplicationModel

namespace RobotControlRuntime

def byteAt (bytes : List UInt8) (index : Nat) : UInt8 := bytes.getD index 0

def crcBit (crc : UInt16) : UInt16 := if crc &&& 1 ≠ 0 then (crc >>> 1) ^^^ 0xA001 else crc >>> 1

def crcByte (crc : UInt16) (byte : UInt8) : UInt16 :=
  (List.range 8).foldl (fun crc _ => crcBit crc) (crc ^^^ byte.toUInt16)

def modbusRtuCrc16 (data : List UInt8) : UInt16 := data.foldl crcByte 0xFFFF

def hexDigit (digit : UInt8) : UInt8 := if digit < 10 then 48 + digit else 87 + digit

def bytesToHex (data : List UInt8) : List UInt8 := data.flatMap fun byte => [hexDigit (byte / 16),hexDigit (byte % 16)]

namespace ModbusRtu

def fnReadCoils : UInt8 := 0x01
def fnReadDiscreteInputs : UInt8 := 0x02
def fnWriteSingleCoil : UInt8 := 0x05
def registerStart : UInt16 := 0
def bitQuantity : UInt16 := 8

def sealed (frame : List UInt8) : List UInt8 :=
  frame ++ [(modbusRtuCrc16 frame &&& 0xFF).toUInt8,(modbusRtuCrc16 frame >>> 8 &&& 0xFF).toUInt8]

def encodeRead (slaveId function : UInt8) (address quantity : UInt16) : List UInt8 :=
  sealed [slaveId,function,(address >>> 8 &&& 0xFF).toUInt8,(address &&& 0xFF).toUInt8,
    (quantity >>> 8 &&& 0xFF).toUInt8,(quantity &&& 0xFF).toUInt8]

def encodeWriteSingleCoil (slaveId : UInt8) (address : UInt16) (on : Bool) : List UInt8 :=
  sealed [slaveId,fnWriteSingleCoil,(address >>> 8 &&& 0xFF).toUInt8,(address &&& 0xFF).toUInt8,
    if on then 0xFF else 0x00,0x00]

structure ReadBits where
  slaveId : UInt8 := 0
  function : UInt8 := 0
  bitCount : UInt8 := 0
  bitByte : UInt8 := 0
  exception : Bool := false
  exceptionCode : UInt8 := 0
  deriving DecidableEq, Repr

structure WriteCoil where
  slaveId : UInt8 := 0
  function : UInt8 := 0
  address : UInt16 := 0
  on : Bool := false
  exception : Bool := false
  exceptionCode : UInt8 := 0
  deriving DecidableEq, Repr

def checkReply (frame : List UInt8) (expectedSlave : UInt8) (short : String) : Option Error :=
  if frame.length < 5 then some ⟨.invalidArgument,short⟩
  else if (byteAt frame (frame.length - 2)).toUInt16 ||| ((byteAt frame (frame.length - 1)).toUInt16 <<< 8) ≠
      modbusRtuCrc16 (frame.take (frame.length - 2)) then
    some ⟨.rejected,"RTU CRC mismatch"⟩
  else if byteAt frame 0 ≠ expectedSlave then some ⟨.rejected,"RTU slave id mismatch"⟩
  else none

def decodeReadBits (frame : List UInt8) (expectedSlave expectedFunction : UInt8) : Result ReadBits :=
  match checkReply frame expectedSlave "RTU reply shorter than 5 bytes" with
  | some error => .error error
  | none =>
    let function := byteAt frame 1
    if function &&& 0x80 ≠ 0 then
      .ok {slaveId := byteAt frame 0,function := function,exception := true,exceptionCode := byteAt frame 2}
    else if function ≠ expectedFunction then .error ⟨.rejected,"RTU function mismatch"⟩
    else if frame.length < 6 then .error ⟨.invalidArgument,"RTU bit reply missing data"⟩
    else if byteAt frame 2 < 1 ∨ frame.length ≠ 5 + (byteAt frame 2).toNat then
      .error ⟨.invalidArgument,"RTU bit reply length mismatch"⟩
    else .ok {slaveId := byteAt frame 0,function := function,bitCount := 8,bitByte := byteAt frame 3}

def decodeWriteSingleCoil (frame : List UInt8) (expectedSlave : UInt8) (expectedAddress : UInt16) (expectedOn : Bool) :
    Result WriteCoil :=
  match checkReply frame expectedSlave "RTU write reply shorter than 5 bytes" with
  | some error => .error error
  | none =>
    let function := byteAt frame 1
    if function &&& 0x80 ≠ 0 then
      .ok {slaveId := byteAt frame 0,function := function,exception := true,exceptionCode := byteAt frame 2}
    else if function ≠ fnWriteSingleCoil then .error ⟨.rejected,"RTU function mismatch"⟩
    else if frame.length ≠ 8 then .error ⟨.invalidArgument,"RTU FC05 reply length mismatch"⟩
    else
      let address := ((byteAt frame 2).toUInt16 <<< 8) ||| (byteAt frame 3).toUInt16
      let on := byteAt frame 4 == 0xFF && byteAt frame 5 == 0x00
      if address ≠ expectedAddress then .error ⟨.rejected,"RTU FC05 address mismatch"⟩
      else if on ≠ expectedOn then .error ⟨.rejected,"RTU FC05 value mismatch"⟩
      else .ok {slaveId := byteAt frame 0,function := function,address := address,on := on}

end ModbusRtu

end RobotControlRuntime
