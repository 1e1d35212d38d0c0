import Aqualarm.HeaderGrammar
import Aqualarm.Retransmission

/-
  Frames that are not for this unit.

  What is proved: `foreign_frame_ignored` — a frame whose destination is neither
  this unit nor, while devices may be added, everyone changes nothing: whatever
  its device type, command and sub-command, no variable, no stored key, no frame
  sent.

  Each handler runs the learn part before it looks at the destination, so the
  learn parts have to look themselves.
-/

namespace Aqualarm

/-- The destination is another unit, or everyone while `allow_add_device` is 0. -/
def ForOthers (destAddr : UInt32) (u : MainUnit) : Prop :=
  destAddr ≠ getLocalAddress u ∧ destAddr ≠ 0xFFFFFFFF ∨ destAddr = 0xFFFFFFFF ∧ u.core.allowAddDevice = false

section
variable {rx : RxFrame} {u : MainUnit}

theorem ForOthers.notLocal (h : ForOthers rx.destAddr u) : rx.destAddr ≠ getLocalAddress u := by
  rcases h with ⟨h, _⟩ | ⟨h, _⟩
  · exact h
  · rw [h]
    exact u.cfg.localAddress_ne_broadcast.symm

theorem ForOthers.notLearning (h : ForOthers rx.destAddr u) :
    ¬ (rx.destAddr = 0xFFFFFFFF ∧ u.core.allowAddDevice = true) := by
  rintro ⟨hd, ha⟩
  rcases h with ⟨_, h⟩ | ⟨_, h⟩
  · exact h hd
  · exact Bool.false_ne_true (h.symm.trans ha)

theorem ForOthers.notFromListed (h : ForOthers rx.destAddr u) : ¬ rx.FromListed u := fun hf => h.notLocal hf.toUnit

/-! The learn parts. -/

theorem motionLearn_foreign (h : ForOthers rx.destAddr u) : radioFrameMotionParseLearn rx u = u := by
  rw [radioFrameMotionParseLearn, if_neg h.notLearning, if_neg h.notLocal]

theorem endunitLearn_foreign (h : ForOthers rx.destAddr u) : radioFrameEndunitParseLearn rx u = u := by
  rw [radioFrameEndunitParseLearn, if_neg h.notLearning, if_neg h.notLocal]

theorem doorunitLearn_foreign (h : ForOthers rx.destAddr u) : radioFrameDoorunitParseLearn rx u = u := by
  rw [radioFrameDoorunitParseLearn, if_neg h.notLearning, if_neg h.notLocal]

theorem gatewayLearn_foreign (h : ForOthers rx.destAddr u) : radioFrameGatewayParseLearn rx u = u := by
  rw [radioFrameGatewayParseLearn, if_neg h.notLearning, if_neg h.notLocal]

end

/-- Every handler leaves the state as it is. -/
theorem Handler.parse_foreign (handler : Handler) {rx : RxFrame} {s : State} (h : ForOthers rx.destAddr s.unit) :
    handler.parse rx s = s := by
  cases handler with
  | motion =>
    change s.onUnit (radioFrameMotionParse rx) = s
    rw [State.onUnit, motionParse_other h.notFromListed, motionLearn_foreign h, ite_self]
  | endunit =>
    change s.onUnit (radioFrameEndunitParse rx) = s
    rw [State.onUnit, endunitParse_other h.notFromListed, endunitLearn_foreign h, ite_self]
  | doorunit =>
    change s.onUnit (radioFrameDoorunitParse rx) = s
    rw [State.onUnit, doorunitParse_other h.notFromListed, doorunitLearn_foreign h, ite_self]
  | gateway =>
    change radioFrameGatewayParse rx s = s
    rw [gatewayParse_other h.notFromListed, State.onUnit, gatewayLearn_foreign h, ite_self]
  | factory =>
    change radioFrameFactoryParse rx s = s
    rw [radioFrameFactoryParse, if_pos (Or.inl h.notLocal)]

/-- **Frames for others have no effect.** -/
theorem foreign_frame_ignored (rssi snr : Int) (data : Nat → UInt8) (len : Nat) (s : State)
    (h : ForOthers (beWord (data 3) (data 4) (data 5) (data 6)) s.unit) :
    radioProtocolParse rssi snr data len s = s := by
  rw [radioProtocolParse, radioProtocolParseOn_handed]
  split
  · exact Handler.parse_foreign _ h
  · rfl

/-- A request to be added, sent to everyone while no device may be added. -/
theorem foreign_frame_ignored_sample : ∃ data len,
    ForOthers (beWord (data 3) (data 4) (data 5) (data 6)) sampleStart.unit ∧
      (handedTo sampleConfig data len).isSome = true ∧ radioProtocolParse (-60) 5 data len sampleStart = sampleStart := by
  let body : List UInt8 := [frameStart, netRegionSelect <<< 4 ||| networkVersion,
    deviceTypeEndunit <<< 3 ||| msgConfirmedUplink, 0xFF, 0xFF, 0xFF, 0xFF, 0, 0, 0, 7, learnDeviceCmd, 1, 1]
  let data : Nat → UInt8 := fun i => (body ++ [crc8 body]).getD i 0
  have h : ForOthers (beWord (data 3) (data 4) (data 5) (data 6)) sampleStart.unit :=
    Or.inr ⟨by decide +kernel, by decide +kernel⟩
  exact ⟨data, 15, h, by decide +kernel, foreign_frame_ignored (-60) 5 data 15 sampleStart h⟩

end Aqualarm
