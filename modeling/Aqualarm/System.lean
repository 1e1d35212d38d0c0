import Aqualarm.RadioProtocol
import Aqualarm.Lib.Machine

/-
  The unit as a machine: the events of every thread, interrupt and timer, each
  handled to completion, and what the environment decides about each.
-/

namespace Aqualarm

/-- The one-shot timers. -/
inductive Timer where
  | radioLearn | valveDelayClose | valveDetectOnce
  | turnBack (side : Side) | turnCheck (side : Side)
  | heartConnect
  deriving DecidableEq, Repr

/-- What the unit reacts to. `rtc*` are the jobs of the RTC thread, `heart*`
those of the heart thread; `rfAckInit` is the sender thread preparing to wait
for an acknowledgement. -/
inductive Event where
  | radio (rssi snr : Int) (data : Nat → UInt8) (len : Nat)
  | keyOnClick | keyOffClick
  | keyOnLongHold | keyOnLongFree | keyOffLongHold | keyOffLongFree
  | modbusCoils (reg : Nat → UInt8) (usAddress usNCoils : UInt16)
  | modbusHolding (reg : Nat → UInt8) (usAddress usNRegs : UInt16)
  | dryContact (level : PinLevel)
  | rtcValveCheck | rtcDeviceHeartCheck | rtcGatewayHeartCheck
  | heartConnectStart | heartUpload
  | rfAckInit
  | timer (t : Timer)
  | reboot

namespace Timer

def armed (t : Timer) (u : MainUnit) : Bool :=
  match t with
  | .radioLearn => u.core.radioLearnTimer
  | .valveDelayClose => u.core.valveDelayCloseTimer
  | .valveDetectOnce => u.core.valveDetectOnceTimer
  | .turnBack side => (u.core.motor side).turnBackTimer
  | .turnCheck side => (u.core.motor side).turnCheckTimer
  | .heartConnect => u.heart.heartConnectTimer

/-- A one-shot timer is stopped before its callback runs. -/
def disarm (t : Timer) (u : MainUnit) : MainUnit :=
  match t with
  | .radioLearn => u.onCore fun c => { c with radioLearnTimer := false }
  | .valveDelayClose => u.onCore fun c => { c with valveDelayCloseTimer := false }
  | .valveDetectOnce => u.onCore fun c => { c with valveDetectOnceTimer := false }
  | .turnBack side => u.onCore fun c => c.setMotor side fun m => { m with turnBackTimer := false }
  | .turnCheck side => u.onCore fun c => c.setMotor side fun m => { m with turnCheckTimer := false }
  | .heartConnect => { u with heart := { u.heart with heartConnectTimer := false } }

def callback : Timer → MainUnit → MainUnit
  | .radioLearn => radioLearnTimerCallback
  | .valveDelayClose => valveDelayCloseTimerCallback
  | .valveDetectOnce => valveDetectOnceTimerCallback
  | .turnBack side => turnBackTimerCallback side
  | .turnCheck side => turnCheckTimerCallback side
  | .heartConnect => heartConnectTimerCallback

end Timer

/-- What runs for an event. -/
def Event.handle : Event → State → State
  | .radio rssi snr data len => radioProtocolParse rssi snr data len
  | .keyOnClick => State.onUnit keyOnClickHandle
  | .keyOffClick => State.onUnit keyOffClickHandle
  | .keyOnLongHold => keyOnLongHoldHandle
  | .keyOnLongFree => keyOnLongFreeHandle
  | .keyOffLongHold => keyOffLongHoldHandle
  | .keyOffLongFree => keyOffLongFreeHandle
  | .modbusCoils reg usAddress usNCoils => mbWriteCoils reg usAddress usNCoils
  | .modbusHolding reg usAddress usNRegs => mbWriteHolding reg usAddress usNRegs
  | .dryContact level => dryContactPollingTimerCallback level
  | .rtcValveCheck => fun s => s.onCore (valveCheckStart s.unit.env.fullyOpen)
  | .rtcDeviceHeartCheck => State.onUnit aqDeviceHeartCheck
  | .rtcGatewayHeartCheck => State.onUnit gatewayHeartCheck
  | .heartConnectStart => State.onUnit gatewayConnectStart
  | .heartUpload => State.onUnit heartThreadUpload
  | .rfAckInit => fun s => { s with rfAckSem := false }
  | .timer t => State.onUnit fun u => t.callback (t.disarm u)
  | .reboot => rtHwCpuReset

/-- A timer that is not armed does not expire, and after a fault only a reset
happens. -/
def Event.enabled (e : Event) (s : State) : Bool :=
  match e with
  | .timer t => !s.ota.fault && t.armed s.unit
  | .reboot => true
  | _ => !s.ota.fault

/-- The unit as an event under `env` finds it: nothing enqueued and nothing
written yet. -/
def MainUnit.begin (env : Env) (u : MainUnit) : MainUnit :=
  { u with
    env := env, tx := []
    storage := { u.storage with writeOk := env.efSetEnvBlob, writes := [] } }

/-- Applying power to a unit with the given contents of the two flash areas. -/
def powerOn (cfg : Config) (env : Env) (flash : Flash) (download : Nat → UInt8) : State :=
  rtHwCpuReset
    { unit := { cfg, env, storage := { flash, writeOk := env.efSetEnvBlob } }, ota := { download } }

/-- A unit started with nothing stored: no device, no slot, not locked. -/
theorem powerOn_default (cfg : Config) (env : Env) (download : Nat → UInt8) :
    (powerOn cfg env Flash.default download).unit.core.lockStatus = 0 ∧
      (powerOn cfg env Flash.default download).unit.storage.deviceList = [] ∧
      (powerOn cfg env Flash.default download).unit.storage.totalSlot = 0 ∧
      (powerOn cfg env Flash.default download).unit.storage.flash = Flash.default := by
  have hlist : ∀ st : Storage, st.flash = Flash.default → st.deviceList = [] →
      (readDeviceFromFlash st).deviceList = [] := by
    intro st hf hl
    simp [readDeviceFromFlash, hf, hl, Flash.default]
  have hleak : aqDeviceWaterleakFind
      (readDeviceFromFlash { flash := Flash.default, writeOk := env.efSetEnvBlob }) = false := by
    simp [aqDeviceWaterleakFind, hlist]
  have hunit : (powerOn cfg env Flash.default download).unit =
      MainUnit.onStorage aqDeviceHeartRecvClear
        (MainUnit.onCore
          (fun c => { c with
            lockStatus := 0
            motor := fun side => { c.motor side with controlPin := .pinHigh } })
          { cfg, env,
            storage := readDeviceFromFlash { flash := Flash.default, writeOk := env.efSetEnvBlob } }) := by
    simp only [powerOn, rtHwCpuReset, MainUnit.boot, valveInit, MainUnit.onCore_storage, hleak]
    rfl
  rw [hunit]
  refine ⟨rfl, ?_, rfl, rfl⟩
  simp [aqDeviceHeartRecvClear, hlist]

/-- The unit as a machine over events, each with its environment. -/
def system (cfg : Config) : Lib.Machine State (Env × Event) where
  start s := ∃ env flash download, s = powerOn cfg env flash download
  next s i := if i.2.enabled s then some (i.2.handle (s.onUnit (MainUnit.begin i.1))) else none

theorem system_next_eq_some {cfg : Config} {s s' : State} {i : Env × Event} :
    (system cfg).next s i = some s' ↔
      i.2.enabled s = true ∧ i.2.handle (s.onUnit (MainUnit.begin i.1)) = s' := by
  simp [system]

/-! What the CRC peripheral computes as `radio_crc_init` sets it up: polynomial
0x07, initial value 0, nothing inverted. -/

/-- One bit of the division. -/
def crcShift (crc : UInt8) : UInt8 :=
  if crc &&& 0x80 ≠ 0 then crc <<< 1 ^^^ 0x07 else crc <<< 1

def crc8 (pack : List UInt8) : UInt8 :=
  pack.foldl (fun crc byte => (List.range 8).foldl (fun crc _ => crcShift crc) (crc ^^^ byte)) 0

/-! A concrete unit and concrete frames, for runs on given inputs. -/

def sampleConfig : Config := { flashWord := 10000001, crc := crc8 }

def sampleStart : State := powerOn sampleConfig sampleEnv Flash.default fun _ => 0xFF

/-- The bytes of a frame to the sample unit with the given message. -/
def sampleBytes (deviceType : UInt8) (sourceAddr : UInt32) (message : List UInt8) : List UInt8 :=
  let body := [frameStart, netRegionSelect <<< 4 ||| networkVersion, deviceType <<< 3 ||| msgConfirmedUplink] ++
    beBytes sampleConfig.localAddress ++ beBytes sourceAddr ++ message
  body ++ [crc8 body]

/-- Its arrival. -/
def sampleFrame (deviceType : UInt8) (sourceAddr : UInt32) (message : List UInt8) : Event :=
  let bytes := sampleBytes deviceType sourceAddr message
  .radio (-60) 5 (fun i => bytes.getD i 0) bytes.length

end Aqualarm
