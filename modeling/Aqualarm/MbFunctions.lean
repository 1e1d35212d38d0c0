import Aqualarm.Modbus

/-
  The function codes of the Modbus slave (mbfunc*.c, mbutils.c), with the read
  callbacks of user_mb_app.c they use. A request and its reply share one buffer,
  `pucFrame`, of which `usLen` bytes are the request.
-/

namespace Aqualarm

/-- `eMBException`. -/
inductive MbException where
  | mbExNone | mbExIllegalFunction | mbExIllegalDataAddress | mbExIllegalDataValue
  | mbExSlaveDeviceFailure | mbExSlaveBusy
  deriving DecidableEq, Repr

def MbException.code : MbException → UInt8
  | .mbExNone => 0 | .mbExIllegalFunction => 1 | .mbExIllegalDataAddress => 2
  | .mbExIllegalDataValue => 3 | .mbExSlaveDeviceFailure => 4 | .mbExSlaveBusy => 6

/-- `eMBErrorCode`. -/
inductive MbErrorCode where
  | mbEnoerr | mbEnoreg | mbEinval | mbEporterr | mbEnores | mbEio | mbEillstate | mbEtimedout
  deriving DecidableEq, Repr

def prveMBError2Exception : MbErrorCode → MbException
  | .mbEnoerr => .mbExNone
  | .mbEnoreg => .mbExIllegalDataAddress
  | .mbEtimedout => .mbExSlaveBusy
  | _ => .mbExSlaveDeviceFailure

/-- The unit, and the two tables a master can only read. -/
structure MbServer where
  state : State
  ucSDiscInBuf : Nat → UInt8
  usSRegInBuf : Nat → UInt16

/-- What a function leaves: the buffer, the length of the reply in it, and the
slave. -/
structure MbReply where
  eException : MbException
  pucFrame : Nat → UInt8
  usLen : Nat
  server : MbServer

abbrev MbHandler := (Nat → UInt8) → Nat → MbServer → MbReply

/-- `pucFrame[off] << 8 | pucFrame[off + 1]`. -/
def frameWord (pucFrame : Nat → UInt8) (off : Nat) : UInt16 :=
  (pucFrame off).toUInt16 <<< 8 ||| (pucFrame (off + 1)).toUInt16

/-! Reading. -/

/-- `xMBUtilGetBits`, with the byte pointer as an index into the buffer. -/
def xMBUtilGetBits (byteBuf : Nat → UInt8) (start : Nat) (usBitOffset : UInt16) (ucNBits : UInt8) : UInt8 :=
  let usByteOffset := usBitOffset / 8
  let usNPreBits := usBitOffset - usByteOffset * 8
  let usMask := 1 <<< ucNBits.toUInt16 - 1
  let i := start + usByteOffset.toNat
  let usWordBuf := (byteBuf i).toUInt16 ||| (byteBuf (i + 1)).toUInt16 <<< 8
  (usWordBuf >>> usNPreBits &&& usMask).toUInt8

/-- `while (iNReg > 0)`: `n` bytes of bits from table byte `iRegIndex` to buffer
byte `pos` on. -/
def readBitBytes (byteBuf : Nat → UInt8) (iRegBitIndex : UInt16) : Nat → Nat → Nat → (Nat → UInt8) → Nat → UInt8
  | 0, _, _, pucFrame => pucFrame
  | n + 1, iRegIndex, pos, pucFrame =>
    readBitBytes byteBuf iRegBitIndex n (iRegIndex + 1) (pos + 1)
      (Function.update pucFrame pos (xMBUtilGetBits byteBuf iRegIndex iRegBitIndex 8))

/-- `<< n` and `>> n` on a byte in memory; `n` may be 8. -/
def shiftOut (b : UInt8) (n : Nat) : UInt8 := ((b.toNat <<< n).toUInt8.toNat >>> n).toUInt8

/-- The bit tables are read alike: one byte more than `usNBits / 8`, the last of
them cut to the bits that are left. -/
def mbReadBits (byteBuf : Nat → UInt8) (total : Nat) (pucRegBuffer : Nat) (usAddress usNBits : UInt16)
    (pucFrame : Nat → UInt8) : Option (Nat → UInt8) :=
  let iNReg := usNBits.toNat / 8 + 1
  let usAddress := usAddress - 1
  if usAddress.toNat + usNBits.toNat ≤ total then
    let pucFrame := readBitBytes byteBuf (usAddress % 8) iNReg (usAddress.toNat / 8) pucRegBuffer pucFrame
    let last := pucRegBuffer + iNReg - 1
    some (Function.update pucFrame last (shiftOut (pucFrame last) (8 - usNBits.toNat % 8)))
  else none

/-- `eMBRegCoilsCB` in read mode, or `none` for `MB_ENOREG`. -/
def eMBRegCoilsCBRead (sv : MbServer) := mbReadBits sv.state.modbus.ucSCoilBuf 32

def eMBRegDiscreteCB (sv : MbServer) := mbReadBits sv.ucSDiscInBuf 64

/-- `while (usNRegs > 0)`: `n` registers from `iRegIndex` to buffer byte `pos` on. -/
def readRegBytes (regBuf : Nat → UInt16) : Nat → Nat → Nat → (Nat → UInt8) → Nat → UInt8
  | 0, _, _, pucFrame => pucFrame
  | n + 1, iRegIndex, pos, pucFrame =>
    readRegBytes regBuf n (iRegIndex + 1) (pos + 2)
      (Function.update (Function.update pucFrame pos (regBuf iRegIndex >>> 8).toUInt8) (pos + 1)
        (regBuf iRegIndex).toUInt8)

/-- The register tables are read alike. -/
def mbReadRegs (regBuf : Nat → UInt16) (total : Nat) (pucRegBuffer : Nat) (usAddress usNRegs : UInt16)
    (pucFrame : Nat → UInt8) : Option (Nat → UInt8) :=
  let usAddress := usAddress - 1
  if usAddress.toNat + usNRegs.toNat ≤ total then
    some (readRegBytes regBuf usNRegs.toNat usAddress.toNat pucRegBuffer pucFrame)
  else none

/-- `eMBRegHoldingCB` in read mode. -/
def eMBRegHoldingCBRead (sv : MbServer) := mbReadRegs sv.state.modbus.usSRegHoldBuf 32

def eMBRegInputCB (sv : MbServer) := mbReadRegs sv.usSRegInBuf 32

/-- `usCount / 8`, rounded up. -/
def ucNBytes (usCount : UInt16) : UInt8 :=
  if usCount &&& 0x0007 ≠ 0 then (usCount / 8 + 1).toUInt8 else (usCount / 8).toUInt8

/-- The four read functions: a request of five bytes, a count the function
accepts, the function code and the number of bytes, then the callback. -/
def mbFuncRead (func : UInt8) (countOk : UInt16 → Bool) (bytes : UInt16 → UInt8) (size : UInt16 → Nat)
    (cb : MbServer → Nat → UInt16 → UInt16 → (Nat → UInt8) → Option (Nat → UInt8)) : MbHandler :=
  fun pucFrame usLen sv =>
    if usLen = 5 then
      let usRegAddress := frameWord pucFrame 1 + 1
      let usCount := frameWord pucFrame 3
      if 1 ≤ usCount ∧ countOk usCount then
        let pucFrame := Function.update (Function.update pucFrame 0 func) 1 (bytes usCount)
        match cb sv 2 usRegAddress usCount pucFrame with
        | none => ⟨prveMBError2Exception .mbEnoreg, pucFrame, 2, sv⟩
        | some pucFrame => ⟨.mbExNone, pucFrame, 2 + size usCount, sv⟩
      else ⟨.mbExIllegalDataValue, pucFrame, usLen, sv⟩
    else ⟨.mbExIllegalDataValue, pucFrame, usLen, sv⟩

def eMBFuncReadCoils : MbHandler :=
  mbFuncRead 1 (· < 0x07D0) ucNBytes (fun n => (ucNBytes n).toNat) eMBRegCoilsCBRead

def eMBFuncReadDiscreteInputs : MbHandler :=
  mbFuncRead 2 (· < 0x07D0) ucNBytes (fun n => (ucNBytes n).toNat) eMBRegDiscreteCB

def eMBFuncReadHoldingRegister : MbHandler :=
  mbFuncRead 3 (· ≤ 0x007D) (fun n => (n * 2).toUInt8) (fun n => n.toNat * 2) eMBRegHoldingCBRead

def eMBFuncReadInputRegister : MbHandler :=
  mbFuncRead 4 (· < 0x007D) (fun n => (n * 2).toUInt8) (fun n => n.toNat * 2) eMBRegInputCB

/-! Writing. -/

/-- `eMBRegCoilsCB` in write mode with the valve action it may run. -/
def eMBRegCoilsCBWrite (pucRegBuffer : Nat → UInt8) (usAddress usNCoils : UInt16) (sv : MbServer) :
    MbErrorCode × MbServer :=
  match eMBRegCoilsCB pucRegBuffer usAddress usNCoils sv.state.modbus.ucSCoilBuf with
  | none => (.mbEnoreg, sv)
  | some (runs, buf) =>
    let s := { sv.state with modbus := { sv.state.modbus with ucSCoilBuf := buf } }
    (.mbEnoerr, { sv with state := if runs then mbValveSingleControlWriteCallback s else s })

/-- `eMBRegHoldingCB` in write mode with the action it may run. -/
def eMBRegHoldingCBWrite (pucRegBuffer : Nat → UInt8) (usAddress usNRegs : UInt16) (sv : MbServer) :
    MbErrorCode × MbServer :=
  match eMBRegHoldingCB pucRegBuffer usAddress usNRegs sv.state.modbus.usSRegHoldBuf with
  | none => (.mbEnoreg, sv)
  | some (runs, buf) =>
    let s := { sv.state with modbus := { sv.state.modbus with usSRegHoldBuf := buf } }
    (.mbEnoerr, { sv with state := if runs then mbHoldingWriteCallback s else s })

def eMBFuncWriteCoil : MbHandler := fun pucFrame usLen sv =>
  if usLen = 5 then
    let usRegAddress := frameWord pucFrame 1 + 1
    if pucFrame 4 = 0 ∧ (pucFrame 3 = 0xFF ∨ pucFrame 3 = 0) then
      let ucBuf : Nat → UInt8 := fun i => if i = 0 ∧ pucFrame 3 = 0xFF then 1 else 0
      let r := eMBRegCoilsCBWrite ucBuf usRegAddress 1 sv
      ⟨prveMBError2Exception r.1, pucFrame, usLen, r.2⟩
    else ⟨.mbExIllegalDataValue, pucFrame, usLen, sv⟩
  else ⟨.mbExIllegalDataValue, pucFrame, usLen, sv⟩

/-- The values are taken from the buffer where the byte count says they lie; that
the request reaches so far is not checked. -/
def eMBFuncWriteMultipleCoils : MbHandler := fun pucFrame usLen sv =>
  if usLen > 5 then
    let usRegAddress := frameWord pucFrame 1 + 1
    let usCoilCnt := frameWord pucFrame 3
    if 1 ≤ usCoilCnt ∧ usCoilCnt ≤ 0x07B0 ∧ ucNBytes usCoilCnt = pucFrame 5 then
      let r := eMBRegCoilsCBWrite (fun i => pucFrame (6 + i)) usRegAddress usCoilCnt sv
      ⟨prveMBError2Exception r.1, pucFrame, if r.1 = .mbEnoerr then 5 else usLen, r.2⟩
    else ⟨.mbExIllegalDataValue, pucFrame, usLen, sv⟩
  else ⟨.mbExIllegalDataValue, pucFrame, usLen, sv⟩

def eMBFuncWriteHoldingRegister : MbHandler := fun pucFrame usLen sv =>
  if usLen = 5 then
    let usRegAddress := frameWord pucFrame 1 + 1
    let r := eMBRegHoldingCBWrite (fun i => pucFrame (3 + i)) usRegAddress 1 sv
    ⟨prveMBError2Exception r.1, pucFrame, usLen, r.2⟩
  else ⟨.mbExIllegalDataValue, pucFrame, usLen, sv⟩

def eMBFuncWriteMultipleHoldingRegister : MbHandler := fun pucFrame usLen sv =>
  if usLen ≥ 6 then
    let usRegAddress := frameWord pucFrame 1 + 1
    let usRegCount := frameWord pucFrame 3
    if 1 ≤ usRegCount ∧ usRegCount ≤ 0x0078 ∧ pucFrame 5 = (2 * usRegCount).toUInt8 then
      let r := eMBRegHoldingCBWrite (fun i => pucFrame (6 + i)) usRegAddress usRegCount sv
      ⟨prveMBError2Exception r.1, pucFrame, if r.1 = .mbEnoerr then 5 else usLen, r.2⟩
    else ⟨.mbExIllegalDataValue, pucFrame, usLen, sv⟩
  else ⟨.mbExIllegalDataValue, pucFrame, usLen, sv⟩

/-- The registers are written before it is known whether the others can be read,
and a request that is too short is no error. -/
def eMBFuncReadWriteMultipleHoldingRegister : MbHandler := fun pucFrame usLen sv =>
  if usLen ≥ 10 then
    let usRegReadAddress := frameWord pucFrame 1 + 1
    let usRegReadCount := frameWord pucFrame 3
    let usRegWriteAddress := frameWord pucFrame 5 + 1
    let usRegWriteCount := frameWord pucFrame 7
    if 1 ≤ usRegReadCount ∧ usRegReadCount ≤ 0x7D ∧ 1 ≤ usRegWriteCount ∧ usRegWriteCount ≤ 0x79 ∧
        2 * usRegWriteCount.toNat = (pucFrame 9).toNat then
      let r := eMBRegHoldingCBWrite (fun i => pucFrame (10 + i)) usRegWriteAddress usRegWriteCount sv
      if r.1 = .mbEnoerr then
        let pucFrame := Function.update (Function.update pucFrame 0 23) 1 (usRegReadCount * 2).toUInt8
        match eMBRegHoldingCBRead r.2 2 usRegReadAddress usRegReadCount pucFrame with
        | none => ⟨prveMBError2Exception .mbEnoreg, pucFrame, 2, r.2⟩
        | some pucFrame => ⟨.mbExNone, pucFrame, 2 + 2 * usRegReadCount.toNat, r.2⟩
      else ⟨prveMBError2Exception r.1, pucFrame, usLen, r.2⟩
    else ⟨.mbExIllegalDataValue, pucFrame, usLen, sv⟩
  else ⟨.mbExNone, pucFrame, usLen, sv⟩

/-- Nothing calls `eMBSetSlaveID`, so `usMBSlaveIDLen` is 0. -/
def eMBFuncReportSlaveID : MbHandler := fun pucFrame _ sv => ⟨.mbExNone, pucFrame, 1, sv⟩

/-! Execution. -/

def xFuncHandlers : List (UInt8 × MbHandler) :=
  [(17, eMBFuncReportSlaveID), (4, eMBFuncReadInputRegister), (3, eMBFuncReadHoldingRegister),
    (16, eMBFuncWriteMultipleHoldingRegister), (6, eMBFuncWriteHoldingRegister),
    (23, eMBFuncReadWriteMultipleHoldingRegister), (1, eMBFuncReadCoils), (5, eMBFuncWriteCoil),
    (15, eMBFuncWriteMultipleCoils), (2, eMBFuncReadDiscreteInputs)]

/-- `case EV_EXECUTE`, up to the exception. -/
def mbExecute (ucMBFrame : Nat → UInt8) (usLength : Nat) (sv : MbServer) : MbReply :=
  match xFuncHandlers.find? (·.1 = ucMBFrame 0) with
  | none => ⟨.mbExIllegalFunction, ucMBFrame, usLength, sv⟩
  | some h => h.2 ucMBFrame usLength sv

/-- The reply of `case EV_EXECUTE`: an exception replaces what the function left. -/
def mbReply (ucMBFrame : Nat → UInt8) (usLength : Nat) (sv : MbServer) : MbReply :=
  let r := mbExecute ucMBFrame usLength sv
  if r.eException ≠ .mbExNone then
    { r with
      pucFrame := Function.update (Function.update r.pucFrame 0 (ucMBFrame 0 ||| 0x80)) 1 r.eException.code
      usLen := 2 }
  else r

end Aqualarm
