import Aqualarm.Frames
import Aqualarm.Registry

/-
  What one event can do to the unit, said once: every handler is a chain of the
  effects below, each under the guard its code tests. The invariants are then
  checked on the effects, not on the handlers.

  An effect refers to the unit at the start of the event (`u₀`) and to the event
  itself where its guard does.
-/

namespace Aqualarm

/-! Guards. -/

/-- The states in which some command moves the valve. -/
def DeviceStatus.Operable (d : DeviceStatus) : Prop :=
  d.Idle ∨ d = .slaverLowPower ∨ d = .masterSensorLost

/-- Why `warning_all_clear` is called outside the learn mode. -/
inductive ClearCause (u : MainUnit) : Prop
  | leak (h : u.core.deviceStatus = .slaverSensorLeak) (hf : aqDeviceWaterleakFind u.storage = false)
  | lost (h : u.core.deviceStatus = .slaverSensorLost) (hf : aqDeviceWirelostFind u.storage = false)
  | offline (h : u.core.deviceStatus = .slaverOffline)
      (hf : aqDeviceEndunitOfflineFind u.storage = false)
  | abnormal (h : u.core.deviceStatus = .masterSensorAbnormal)

/-- Why a warning other than a leak or a lost sensor is raised. -/
inductive RaiseCause (u : MainUnit) : Warning → Prop
  | lowPower : RaiseCause u .slaverLowPower
  | ultraLowPower : RaiseCause u .slaverUltraLowPower
  | offline (h : aqDeviceEndunitOfflineFind u.storage = true) : RaiseCause u .slaverOffline
  | valveFail (side : Side) (h : u.core.valveValid = false) : RaiseCause u side.failEvent

/-- A valve report in `frame` is true of `u`, or is a close confirmed while
`SlaverOffline` shows, or follows a refused open. -/
def Reports (u₀ : MainUnit) (e : Event) (u : MainUnit) (frame : TxFormat) : Prop :=
  ∀ v, frame.valveReport = some v →
    v = u.core.valveStatus.code ∨ v = 0 ∧ u.core.deviceStatus = .slaverOffline ∨ RefusedOpen u₀ e

inductive Effect (u₀ : MainUnit) (e : Event) : MainUnit → MainUnit → Prop
  /-- A change of the retry counter or the connect timer. -/
  | heart (u : MainUnit) (h : Heart) : Effect u₀ e u { u with heart := h }
  | send (u : MainUnit) (frame : TxFormat) (needAck : Bool) (parameter : UInt8)
      (h : Reports u₀ e u frame) : Effect u₀ e u (loraTxEnqueue frame needAck parameter u)
  | registry (u : MainUnit) (op : RegOp) (h : op.Quiet) : Effect u₀ e u (u.onStorage op.apply)
  /-- Adding the frame's source; `ms` are the messages about replaced units. -/
  | enrol (u : MainUnit) (rx : RxFrame) (hf : e.Frame u₀ rx) (ha : rx.AddDevice u₀)
      (hu : u.storage = u₀.storage) (rssiLevel : UInt8) (ms : List SendMsg)
      (hms : ∀ m ∈ ms, m.frame.valveReport = none) :
      Effect u₀ e u
        { u with
          storage :=
            (learnStorage u₀.env.mallocDevice rssiLevel rx.deviceType rx.sourceAddr u.storage).2
          tx := u.tx ++ ms }
  | leak (u : MainUnit) (deviceId : UInt32) (value : UInt8) (h : value ≠ 0) :
      Effect u₀ e u
        (warningEnable .slaverSensorLeak (u.onStorage (aqDeviceWaterleakSet deviceId value)))
  | lost (u : MainUnit) (deviceId : UInt32) (value : UInt8) (h : value ≠ 0) :
      Effect u₀ e u
        (warningEnable .slaverSensorLost (u.onStorage (aqDeviceWirelostSet deviceId value)))
  | raise (u : MainUnit) (w : Warning) (h : RaiseCause u w) : Effect u₀ e u (warningEnable w u)
  | clear (u : MainUnit) (h : ClearCause u) : Effect u₀ e u (u.onCore warningAllClear)
  | closeValve (u : MainUnit) (h : u.core.deviceStatus.Operable) :
      Effect u₀ e u (u.onCore fun c => (valveClose c).2)
  | lockClose (u : MainUnit) (h : u.core.deviceStatus.Idle) :
      Effect u₀ e u ((valveLock u).onCore fun c => (valveClose c).2)
  | openValve (u : MainUnit) (h₀ : u₀.core.deviceStatus.Operable) (h : u.core.deviceStatus.Operable) :
      Effect u₀ e u (u.onCore fun c => (valveOpen c).2)
  | unlockOpen (u : MainUnit) (h₀ : u₀.core.deviceStatus.Operable) (h : u.core.deviceStatus.Idle) :
      Effect u₀ e u ((valveUnlock u).onCore fun c => (valveOpen c).2)
  | learnStart (u : MainUnit) (h : u.core.deviceStatus.Idle) :
      Effect u₀ e u
        (u.onCore fun c =>
          { c with deviceStatus := .learnDevice, allowAddDevice := true, radioLearnTimer := true })
  | learnStop (u : MainUnit) (h : u.core.deviceStatus = .learnDevice) :
      Effect u₀ e u
        (u.onCore fun c => warningAllClear { c with radioLearnTimer := false, allowAddDevice := false })
  | learnTimeout (u : MainUnit) (h : e = .timer .radioLearn) (hu : u.storage = u₀.storage) :
      Effect u₀ e u (u.onCore fun c => warningAllClear { c with allowAddDevice := false })
  | learnRefresh (u : MainUnit) (rx : RxFrame) (hf : e.Frame u₀ rx) (ha : rx.AddDevice u₀) :
      Effect u₀ e u (u.onCore radioRefreshLearnDevice)
  | delayControl (u : MainUnit) (value : Bool) (h : value = true → u.core.deviceStatus.Idle) :
      Effect u₀ e u (u.onCore (valveDelayControl value))
  | checkStart (u : MainUnit) : Effect u₀ e u (u.onCore (valveCheckStart u.env.fullyOpen))
  | disarm (u : MainUnit) (t : Timer) (h : e = .timer t) : Effect u₀ e u (t.disarm u)
  | turnBackPass (u : MainUnit) (side : Side) (h : e = .timer (.turnBack side))
      (hp : u₀.env.fullyOpen side = .pinHigh) (hu : u.core.valveStatus = u₀.core.valveStatus) :
      Effect u₀ e u
        (u.onCore fun c => c.setMotor side fun m =>
          { m with controlPin := .pinLow, mbValveControlState := true, turnCheckTimer := true })
  | turnBackFail (u : MainUnit) (side : Side) (h : e = .timer (.turnBack side)) :
      Effect u₀ e u
        (u.onCore fun c =>
          { c.setMotor side fun m => { m with checkResult := true, mbValveCheckState := false } with
            valveValid := false })
  | turnCheckStart (u : MainUnit) (side : Side) (h : e = .timer (.turnCheck side)) :
      Effect u₀ e u (u.onCore fun c => c.setMotor side fun m => { m with mbValveCheckState := false })
  | turnCheckValid (u : MainUnit) (side : Side) (h : e = .timer (.turnCheck side))
      (hr : (u.core.motor side.other).checkResult = false) :
      Effect u₀ e u (u.onCore fun c => valvefailWarningDisable { c with valveValid := true })
  | turnCheckPass (u : MainUnit) (side : Side) (h : e = .timer (.turnCheck side)) :
      Effect u₀ e u (u.onCore fun c => c.setMotor side fun m => { m with checkResult := false })
  | turnCheckFail (u : MainUnit) (side : Side) (h : e = .timer (.turnCheck side)) :
      Effect u₀ e u
        (u.onCore fun c =>
          { c.setMotor side fun m => { m with checkResult := true } with valveValid := false })
  | boot (u : MainUnit) (h : Resets u₀ e) : Effect u₀ e u u.boot
  /-- The environment erased, then the reset. -/
  | factoryReset (u : MainUnit) (h : Resets u₀ e) :
      Effect u₀ e u (u.onStorage fun st => { st with flash := Flash.default }).boot

/-- A chain of effects. -/
abbrev Path (u₀ : MainUnit) (e : Event) : MainUnit → MainUnit → Prop :=
  Relation.ReflTransGen (Effect u₀ e)

end Aqualarm
