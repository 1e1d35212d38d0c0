import Aqualarm.Flashwork

/-
  The unit's shared variables as one record, and the two ways code acts on it
  from outside its own file: changing one part, and handing a frame to the radio
  queue.

  `tx` holds the frames enqueued since the current event began.
-/

namespace Aqualarm

structure MainUnit where
  cfg : Config
  env : Env
  core : Core := {}
  storage : Storage
  heart : Heart := {}
  tx : List SendMsg := []

namespace MainUnit

def onCore (f : Core → Core) (u : MainUnit) : MainUnit := { u with core := f u.core }

def onStorage (f : Storage → Storage) (u : MainUnit) : MainUnit := { u with storage := f u.storage }

section
variable (f : Core → Core) (g : Storage → Storage) (u : MainUnit)

@[simp] theorem onCore_cfg : (u.onCore f).cfg = u.cfg := rfl
@[simp] theorem onCore_env : (u.onCore f).env = u.env := rfl
@[simp] theorem onCore_core : (u.onCore f).core = f u.core := rfl
@[simp] theorem onCore_storage : (u.onCore f).storage = u.storage := rfl
@[simp] theorem onCore_heart : (u.onCore f).heart = u.heart := rfl
@[simp] theorem onCore_tx : (u.onCore f).tx = u.tx := rfl
@[simp] theorem onStorage_cfg : (u.onStorage g).cfg = u.cfg := rfl
@[simp] theorem onStorage_env : (u.onStorage g).env = u.env := rfl
@[simp] theorem onStorage_core : (u.onStorage g).core = u.core := rfl
@[simp] theorem onStorage_storage : (u.onStorage g).storage = g u.storage := rfl
@[simp] theorem onStorage_heart : (u.onStorage g).heart = u.heart := rfl
@[simp] theorem onStorage_tx : (u.onStorage g).tx = u.tx := rfl

end

end MainUnit

def getLocalAddress (u : MainUnit) : UInt32 := u.cfg.localAddress

/-- `DeviceStatus`. -/
def warningStatusGet (u : MainUnit) : DeviceStatus := u.core.deviceStatus

def getValveStatus (u : MainUnit) : ValveStatus := u.core.valveStatus

/-- `lora_tx_enqueue`, for the frame the `set_lora_tx_*` calls have built. -/
def loraTxEnqueue (frame : TxFormat) (needAck : Bool) (parameter : UInt8) (u : MainUnit) : MainUnit :=
  { u with tx := u.tx ++ [{ frame, needAck, parameter, valveStatus := u.core.valveStatus }] }

/-- The body the five `radio_*_command_send` functions share; `parameter`
selects the send frequency. -/
def radioCommandSend (parameter : UInt8) (frame : TxFormat) (u : MainUnit) : MainUnit :=
  loraTxEnqueue frame (frame.msgType = msgConfirmedUplink) parameter u

/-- `radio_gateway_command_send`: without a gateway (`dest_addr == 0`) nothing
is sent. -/
def radioGatewayCommandSend (frame : TxFormat) (u : MainUnit) : MainUnit :=
  if frame.destAddr = 0 then u else radioCommandSend 0 frame u

def radioEndunitCommandSend : TxFormat → MainUnit → MainUnit := radioCommandSend 1

def radioDoorunitCommandSend : TxFormat → MainUnit → MainUnit := radioCommandSend 1

def radioMotionCommandSend : TxFormat → MainUnit → MainUnit := radioCommandSend 1

section
variable (parameter : UInt8) (frame : TxFormat) (u : MainUnit)

@[simp] theorem radioCommandSend_cfg : (radioCommandSend parameter frame u).cfg = u.cfg := rfl
@[simp] theorem radioCommandSend_env : (radioCommandSend parameter frame u).env = u.env := rfl
@[simp] theorem radioCommandSend_core : (radioCommandSend parameter frame u).core = u.core := rfl
@[simp] theorem radioCommandSend_storage : (radioCommandSend parameter frame u).storage = u.storage := rfl
@[simp] theorem radioCommandSend_heart : (radioCommandSend parameter frame u).heart = u.heart := rfl

@[simp] theorem radioGatewayCommandSend_cfg : (radioGatewayCommandSend frame u).cfg = u.cfg := by
  unfold radioGatewayCommandSend; split <;> rfl
@[simp] theorem radioGatewayCommandSend_env : (radioGatewayCommandSend frame u).env = u.env := by
  unfold radioGatewayCommandSend; split <;> rfl
@[simp] theorem radioGatewayCommandSend_core : (radioGatewayCommandSend frame u).core = u.core := by
  unfold radioGatewayCommandSend; split <;> rfl
@[simp] theorem radioGatewayCommandSend_storage :
    (radioGatewayCommandSend frame u).storage = u.storage := by
  unfold radioGatewayCommandSend; split <;> rfl
@[simp] theorem radioGatewayCommandSend_heart : (radioGatewayCommandSend frame u).heart = u.heart := by
  unfold radioGatewayCommandSend; split <;> rfl

end

end Aqualarm
