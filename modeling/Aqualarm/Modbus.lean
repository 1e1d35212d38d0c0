import Aqualarm.Applications

/-
  The Modbus slave: the write callbacks of user_mb_app.c and the valve action
  they may trigger (sample_mb_slave.c). The buffers are memory, so a write past
  the last coil touches the byte behind them.
-/

namespace Aqualarm

/-- `xMBUtilSetBits`, with the byte pointer as an index into the buffer. The
value is shifted into place but not masked to the field. -/
def xMBUtilSetBits (byteBuf : Nat → UInt8) (start : Nat) (usBitOffset : UInt16) (ucNBits ucValue : UInt8) :
    Nat → UInt8 :=
  let usByteOffset := usBitOffset / 8
  let usNPreBits := usBitOffset - usByteOffset * 8
  let usValue := ucValue.toUInt16 <<< usNPreBits
  let usMask := (1 <<< ucNBits.toUInt16 - 1) <<< usNPreBits
  let i := start + usByteOffset.toNat
  let usWordBuf := (byteBuf i).toUInt16 ||| (byteBuf (i + 1)).toUInt16 <<< 8
  let usWordBuf := (usWordBuf &&& ~~~usMask) ||| usValue
  Function.update (Function.update byteBuf i usWordBuf.toUInt8) (i + 1) (usWordBuf >>> 8).toUInt8

/-- `while (iNReg > 1)`: `n` whole bytes, from coil byte `iRegIndex` and request
byte `pos` on. -/
def writeCoilBytes (pucRegBuffer : Nat → UInt8) (iRegBitIndex : UInt16) :
    Nat → Nat → Nat → (Nat → UInt8) → Nat × Nat × (Nat → UInt8)
  | 0, iRegIndex, pos, buf => (iRegIndex, pos, buf)
  | n + 1, iRegIndex, pos, buf =>
    writeCoilBytes pucRegBuffer iRegBitIndex n (iRegIndex + 1) (pos + 1)
      (xMBUtilSetBits buf iRegIndex iRegBitIndex 8 (pucRegBuffer pos))

/-- `eMBRegCoilsCB` in write mode: the new buffer and whether
`mb_valve_single_control_write_callback` runs, or `none` for `MB_ENOREG`. -/
def eMBRegCoilsCB (pucRegBuffer : Nat → UInt8) (usAddress usNCoils : UInt16) (buf : Nat → UInt8) :
    Option (Bool × (Nat → UInt8)) :=
  let usAddress := usAddress - 1
  if usAddress.toNat + usNCoils.toNat ≤ 32 then
    let iRegBitIndex := usAddress % 8
    let (iRegIndex, pos, buf) :=
      writeCoilBytes pucRegBuffer iRegBitIndex (usNCoils.toNat / 8) (usAddress.toNat / 8) 0 buf
    let usNCoils := usNCoils % 8
    let (iRegIndex, buf) :=
      if usNCoils ≠ 0 then
        (iRegIndex + 1, xMBUtilSetBits buf iRegIndex iRegBitIndex usNCoils.toUInt8 (pucRegBuffer pos))
      else (iRegIndex, buf)
    some (iRegIndex = 1, buf)
  else none

/-- `while (usNRegs > 0)`: the registers from `iRegIndex` on. -/
def writeHoldingRegs (pucRegBuffer : Nat → UInt8) : Nat → Nat → Nat → (Nat → UInt16) → Nat × (Nat → UInt16)
  | 0, iRegIndex, _, buf => (iRegIndex, buf)
  | n + 1, iRegIndex, pos, buf =>
    writeHoldingRegs pucRegBuffer n (iRegIndex + 1) (pos + 2)
      (Function.update buf iRegIndex
        ((pucRegBuffer pos).toUInt16 <<< 8 ||| (pucRegBuffer (pos + 1)).toUInt16))

/-- `eMBRegHoldingCB` in write mode: the new buffer and whether
`mb_holding_write_callback` runs. -/
def eMBRegHoldingCB (pucRegBuffer : Nat → UInt8) (usAddress usNRegs : UInt16) (buf : Nat → UInt16) :
    Option (Bool × (Nat → UInt16)) :=
  let usAddress := usAddress - 1
  if usAddress.toNat + usNRegs.toNat ≤ 32 then
    let (iRegIndex, buf) := writeHoldingRegs pucRegBuffer usNRegs.toNat usAddress.toNat 0 buf
    some (iRegIndex = 1, buf)
  else none

/-! The poll loop. -/

/-- `mb_coils_data_copy` and `mb_holding_data_copy`, before each poll. -/
def mbDataCopy (s : State) : State :=
  let bit0 := s.modbus.ucSCoilBuf 0
  let bit0 := match getValveStatus s.unit with
    | .valveStatusOpen => bit0 ||| 1
    | .valveStatusClose => bit0 &&& ~~~1
  { s with
    modbus :=
      { ucSCoilBuf := Function.update s.modbus.ucSCoilBuf 0 bit0
        usSRegHoldBuf :=
          Function.update s.modbus.usSRegHoldBuf 0 (warningStatusGet s.unit).code.toUInt16 } }

def mbValveSingleControlWriteCallback (s : State) : State :=
  if s.modbus.ucSCoilBuf 0 &&& 1 ≠ 0 then s.onUnit keyOnClickHandle else s.onUnit keyOffClickHandle

def mbHoldingWriteCallback (s : State) : State := s.onUnit keyOffClickHandle

/-- A write request for coils as the poll loop serves it. The function code
accepts one coil, or between 1 and 0x7B0 of them. -/
def mbWriteCoils (pucRegBuffer : Nat → UInt8) (usAddress usNCoils : UInt16) (s : State) : State :=
  let s := mbDataCopy s
  if 1 ≤ usNCoils ∧ usNCoils ≤ 0x7B0 then
    match eMBRegCoilsCB pucRegBuffer usAddress usNCoils s.modbus.ucSCoilBuf with
    | none => s
    | some (runs, buf) =>
      let s := { s with modbus := { s.modbus with ucSCoilBuf := buf } }
      if runs then mbValveSingleControlWriteCallback s else s
  else s

/-- A write request for holding registers; between 1 and 0x78 of them. -/
def mbWriteHolding (pucRegBuffer : Nat → UInt8) (usAddress usNRegs : UInt16) (s : State) : State :=
  let s := mbDataCopy s
  if 1 ≤ usNRegs ∧ usNRegs ≤ 0x78 then
    match eMBRegHoldingCB pucRegBuffer usAddress usNRegs s.modbus.usSRegHoldBuf with
    | none => s
    | some (runs, buf) =>
      let s := { s with modbus := { s.modbus with usSRegHoldBuf := buf } }
      if runs then mbHoldingWriteCallback s else s
  else s

end Aqualarm
