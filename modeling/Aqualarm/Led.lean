import Aqualarm.SignalLed

/-
  led.c and ws2812b.c: the lights and the beeper of the main unit.

  What is proved:
    1. `led_runs` — however the calls of led.c and the ticks of its thread interleave,
       a colour or the beeper that is on belongs to a light that is started, is the
       green of a dry contact or has been on from before; and `led_ticks` returns.
    2. `pause_dark` — from `led_valve_on_pause` on the green light of the open valve
       stays dark until `led_valve_on_resume`, whatever is called meanwhile.

  The ids of `led_dry_contact_set` are those of its callers. Sending the pixels is
  left out. As in SignalLed no call overlaps with `led_ticks`: its callers have the
  higher priority, and `on_green_on`, preempted by `led_valve_on_pause` behind its
  test of the flag, would light the green once more.
-/

namespace Aqualarm

open Lib

/-! ws2812b.c. -/

def code1 : UInt32 := 39

def code0 : UInt32 := 18

inductive Colour where
  | green
  | red
  | blue
  deriving DecidableEq

def Colour.first : Colour → Nat
  | .green => 0
  | .red => 8
  | .blue => 16

/-- `Pixel_Buf`, by row and column. -/
abbrev PixelBuf := Nat → Nat → UInt32

/-- The loop over the eight columns of a colour. -/
def setColour (c : Colour) (id value : UInt8) (buf : PixelBuf) : PixelBuf := fun row i =>
  if row = id.toNat ∧ c.first ≤ i ∧ i < c.first + 8 then
    if value.toNat.testBit (c.first + 7 - i) then code1 else code0
  else buf row i

def ws2812bGreen (id value : UInt8) : PixelBuf → PixelBuf := setColour .green id (if value ≠ 0 then 25 else 0)

def ws2812bRed (id value : UInt8) : PixelBuf → PixelBuf := setColour .red id (if value ≠ 0 then 25 else 0)

def ws2812bBlue (id value : UInt8) : PixelBuf → PixelBuf := setColour .blue id (if value ≠ 0 then 25 else 0)

def rgbSetColor (id r g b : UInt8) (buf : PixelBuf) : PixelBuf :=
  setColour .blue id b (setColour .red id r (setColour .green id g buf))

/-- The colours at the end of `ws2812b_init`. -/
def ws2812bInit (buf : PixelBuf) : PixelBuf := [0, 1, 2, 3, 4, 5, 6].foldl (fun buf id => rgbSetColor id 0 0 0 buf) buf

/-! The lights of led.c. -/

structure LedWorld where
  pixelBuf : PixelBuf := fun _ _ => 0
  beepPin : Bool := false
  ledValveOnPauseFlag : Bool := false

namespace LedWorld

def pixels (change : PixelBuf → PixelBuf) (w : LedWorld) : LedWorld := { w with pixelBuf := change w.pixelBuf }

def gwGreenOn : LedWorld → LedWorld := pixels (ws2812bGreen 0 1)
def gwGreenOff : LedWorld → LedWorld := pixels (ws2812bGreen 0 0)
def gwRedOn : LedWorld → LedWorld := pixels (ws2812bRed 0 1)
def gwRedOff : LedWorld → LedWorld := pixels (ws2812bRed 0 0)
def gwBlueOn : LedWorld → LedWorld := pixels (ws2812bBlue 0 1)
def gwBlueOff : LedWorld → LedWorld := pixels (ws2812bBlue 0 0)
def offRedOn : LedWorld → LedWorld := pixels (ws2812bRed 1 1)
def offRedOff : LedWorld → LedWorld := pixels (ws2812bRed 1 0)
def onGreenOn (w : LedWorld) : LedWorld := if w.ledValveOnPauseFlag = false then w.pixels (ws2812bGreen 1 1) else w
def onGreenOff : LedWorld → LedWorld := pixels (ws2812bGreen 1 0)
def beepOn (w : LedWorld) : LedWorld := { w with beepPin := true }
def beepClose (w : LedWorld) : LedWorld := { w with beepPin := false }

end LedWorld

inductive LedObj where
  | offRed
  | lossRed
  | offRedOnce
  | offRedThree
  | onGreen
  | beep
  | beepLoss
  | beepOnce
  | beepThree
  | beepLearn
  | wifiGreenLed
  | wifiRedLed
  | wifiBlueLed
  deriving DecidableEq

namespace LedObj

/-- `switch_on` and `switch_off` in `led_init`. -/
def created : LedObj → (LedWorld → LedWorld) × (LedWorld → LedWorld)
  | offRed | lossRed | offRedOnce | offRedThree => (.offRedOn, .offRedOff)
  | onGreen => (.onGreenOn, .onGreenOff)
  | beep | beepLoss | beepOnce | beepThree | beepLearn => (.beepOn, .beepClose)
  | wifiGreenLed => (.gwGreenOn, .gwGreenOff)
  | wifiRedLed => (.gwRedOn, .gwRedOff)
  | wifiBlueLed => (.gwBlueOn, .gwBlueOff)

/-- In the order of `led_init`. -/
def all : List LedObj :=
  [offRed, lossRed, offRedOnce, offRedThree, onGreen, beep, beepLoss, beepOnce, beepThree, beepLearn, wifiGreenLed,
    wifiRedLed, wifiBlueLed]

/-- The loop and the pattern in `led_init`. -/
def initMode : LedObj → UInt8 × String
  | offRed => (255, "200,1,")
  | lossRed => (255, "200,200,")
  | offRedOnce => (1, "200,1,")
  | offRedThree => (3, "200,200,")
  | onGreen => (3, "200,200,")
  | beep => (255, "200,200,")
  | beepLoss => (255, "200,200,")
  | beepOnce => (1, "200,1,")
  | beepThree => (3, "200,200,")
  | beepLearn => (3, "50,50,200,200,")
  | wifiGreenLed => (255, "200,200,")
  | wifiRedLed => (255, "200,200,")
  | wifiBlueLed => (1, "50,50,")

end LedObj

def ledSwitches : LedSwitches LedObj LedWorld := fun a on => if on then a.created.1 else a.created.2

def ledText (text : String) : List UInt8 := text.toList.map byteOf

/-- `led_init`: each light is created, which switches it off, and is given a pattern. -/
def ledInit (w : LedWorld) : LedPanel LedObj LedWorld :=
  LedObj.all.foldl
    (fun p a => { p with world := ledSwitches a false p.world }.ledSetMode a a.initMode.1 (ledText a.initMode.2))
    { world := w }

/-! The functions of led.c. -/

inductive LedCall where
  | beepThreeTimes
  | wifiCommunicationBlink
  | wifiLed (num : UInt8)
  | ledDryContactSet (id level : UInt8) (callers : 3 ≤ id ∧ id ≤ 6)
  | ledValveFail
  | ledNoticeOnce
  | ledFactoryStart
  | ledLearnStart
  | ledSlaveLowStart
  | ledMotoFailStart
  | ledOfflineStart
  | ledMasterLostStart
  | ledWaterAlarmStart
  | beepStop
  | beepKeyDown
  | beepOnce
  | learnFailRing
  | ledRelearn
  | ledValveOnPause
  | ledValveOnResume (valveStatus : UInt8)
  | ledNtcAlarm
  | ledValveOn
  | ledValveOff
  | ledWarnOff
  | ledLossOff
  | ledFactoryGwBlink
  | ledRunInit
  | ledRunTick

/-- The pattern of `led_ntc_alarm`, with the blanks that its second line begins with. -/
def ntcText : String :=
  "50,50,50,50,50,50,50,50,50,50,50,50,50,50,50,50,50,50,50,50" ++ "                            " ++
    ",50,50,50,50,50,50,50,50,50,50,50,50,50,50,50,50,50,50,50,2000,"

namespace LedCall

/-- `led_set_mode` with a text of led.c. -/
def mode (a : LedObj) (loop : UInt8) (text : String) : LedInput LedObj LedWorld := .setMode a loop (ledText text)

/-- A pattern for the beeper and for the red light, and both started. -/
def beepAndRed (loop : UInt8) (text : String) : List (LedInput LedObj LedWorld) :=
  [mode .beep loop text, .start .beep, mode .offRed loop text, .start .offRed]

/-- What a function calls, one after the other. -/
def steps : LedCall → List (LedInput LedObj LedWorld)
  | beepThreeTimes => [.start .beepThree, .start .offRedThree]
  | wifiCommunicationBlink => [.start .wifiBlueLed]
  | wifiLed num =>
    match num with
    | 0 => [.stop .wifiRedLed, mode .wifiGreenLed 255 "500,500,", .start .wifiGreenLed]
    | 1 => [.stop .wifiRedLed, mode .wifiGreenLed 255 "200,0,", .start .wifiGreenLed]
    | 2 => [.stop .wifiGreenLed, mode .wifiRedLed 255 "200,0,", .start .wifiRedLed]
    | _ => []
  | ledDryContactSet id level _ => [.other (LedWorld.pixels (ws2812bGreen id level))]
  | ledValveFail => beepAndRed 3 "200,200,"
  | ledNoticeOnce => beepAndRed 1 "200,0,"
  | ledFactoryStart => .stop .onGreen :: beepAndRed 5 "200,200,"
  | ledLearnStart =>
    [mode .beep 5 "200,200,", .start .beep, mode .offRed 75 "200,200,", .start .offRed]
  | ledSlaveLowStart => beepAndRed 255 "200,5000,"
  | ledMotoFailStart => beepAndRed 255 "200,200,200,200,200,200,200,200,200,200,200,10000,"
  | ledOfflineStart => beepAndRed 255 "200,200,200,200,200,200,200,5000,"
  | ledMasterLostStart =>
    [mode .beepLoss 255 "200,200,200,5000,", .start .beepLoss, mode .lossRed 255 "200,200,200,5000,", .start .lossRed]
  | ledWaterAlarmStart => beepAndRed 255 "200,200,200,200,200,5000,"
  | beepStop => [.stop .beepLoss, .stop .beep]
  | beepKeyDown => [.start .beepOnce, .start .offRedOnce]
  | beepOnce => [.start .beepOnce]
  | learnFailRing => [.start .beepLearn]
  | ledRelearn => [mode .offRed 75 "200,200,", .start .offRed]
  | ledValveOnPause => [.stop .onGreen, .other fun w => { w with ledValveOnPauseFlag := true }]
  | ledValveOnResume valveStatus =>
    .other (fun w => { w with ledValveOnPauseFlag := false }) :: if valveStatus ≠ 0 then [.start .onGreen] else []
  | ledNtcAlarm =>
    [mode .beep 255 ntcText, mode .offRed 255 ntcText, mode .onGreen 255 ntcText, .start .offRed, .start .onGreen,
      .start .beep]
  | ledValveOn => [.stop .offRed, mode .onGreen 255 "200,0,", .start .onGreen]
  | ledValveOff => [.stop .onGreen]
  | ledWarnOff => [.stop .offRed]
  | ledLossOff => [.stop .lossRed]
  | ledFactoryGwBlink =>
    [mode .wifiGreenLed 255 "500,500,", mode .wifiRedLed 255 "0,500,500,", .start .wifiGreenLed, .start .wifiRedLed]
  | ledRunInit => [.other (LedWorld.pixels ws2812bInit)]
  | ledRunTick => [.ticks]

end LedCall

/-- A step of one of these functions. -/
def LedIssued (i : LedInput LedObj LedWorld) : Prop := ∃ call : LedCall, i ∈ call.steps

/-! What the lights share. -/

inductive LedChannel where
  | pixel (id : UInt8) (c : Colour)
  | beeper
  deriving DecidableEq

def LedObj.channel : LedObj → LedChannel
  | offRed | lossRed | offRedOnce | offRedThree => .pixel 1 .red
  | onGreen => .pixel 1 .green
  | beep | beepLoss | beepOnce | beepThree | beepLearn => .beeper
  | wifiGreenLed => .pixel 0 .green
  | wifiRedLed => .pixel 0 .red
  | wifiBlueLed => .pixel 0 .blue

/-- A bit of the colour is 1, or the pin is high. -/
def Shines : LedChannel → LedWorld → Prop
  | .pixel id c, w => ∃ i, c.first ≤ i ∧ i < c.first + 8 ∧ w.pixelBuf id.toNat i = code1
  | .beeper, w => w.beepPin = true

theorem columns_disjoint {c c' : Colour} {i : Nat} (h : c.first ≤ i ∧ i < c.first + 8)
    (h' : c'.first ≤ i ∧ i < c'.first + 8) : c = c' := by
  cases c <;> cases c' <;> simp only [Colour.first] at h h' <;> first | rfl | omega

theorem setColour_shines {c c' : Colour} {id id' value : UInt8} {w : LedWorld}
    (h : Shines (.pixel id' c') (w.pixels (setColour c id value))) :
    (id' = id ∧ c' = c ∧ value ≠ 0) ∨ Shines (.pixel id' c') w := by
  obtain ⟨i, hlow, hhigh, hone⟩ := h
  change setColour c id value w.pixelBuf id'.toNat i = code1 at hone
  unfold setColour at hone
  split at hone
  · rename_i hin
    refine Or.inl ⟨UInt8.toNat_inj.1 hin.1, columns_disjoint ⟨hlow, hhigh⟩ hin.2, ?_⟩
    rintro rfl
    rw [if_neg (by simp)] at hone
    cases hone
  · exact Or.inr ⟨i, hlow, hhigh, hone⟩

theorem setColour_dark (c : Colour) (id : UInt8) (w : LedWorld) :
    ¬ Shines (.pixel id c) (w.pixels (setColour c id 0)) := by
  rintro ⟨i, hlow, hhigh, hone⟩
  change setColour c id 0 w.pixelBuf id.toNat i = code1 at hone
  rw [setColour, if_pos ⟨rfl, hlow, hhigh⟩, if_neg (by simp)] at hone
  cases hone

/-- What a switch function does. -/
inductive Switched (channel : LedChannel) (on : Bool) (w : LedWorld) : LedWorld → Prop where
  | paused (hon : on = true) (hflag : w.ledValveOnPauseFlag = true) : Switched channel on w w
  | pixel (c : Colour) (id value : UInt8) (hchannel : channel = .pixel id c) (hvalue : on = false → value = 0)
    (hpause : channel = .pixel 1 .green → on = true → w.ledValveOnPauseFlag = false) :
    Switched channel on w (w.pixels (setColour c id value))
  | beeper (hchannel : channel = .beeper) : Switched channel on w { w with beepPin := on }

theorem switch_cases (a : LedObj) (on : Bool) (w : LedWorld) : Switched a.channel on w (ledSwitches a on w) := by
  cases a with
  | offRed | lossRed | offRedOnce | offRedThree | wifiGreenLed | wifiRedLed | wifiBlueLed =>
    cases on with
    | true => exact .pixel _ _ 25 rfl (fun h => by cases h) (fun h => absurd h (by decide))
    | false => exact .pixel _ _ 0 rfl (fun _ => rfl) (fun h => absurd h (by decide))
  | onGreen =>
    cases on with
    | true =>
      change Switched _ _ _ w.onGreenOn
      unfold LedWorld.onGreenOn
      split
      · rename_i hflag
        exact .pixel _ _ 25 rfl (fun h => by cases h) (fun _ _ => hflag)
      · rename_i hflag
        exact .paused rfl (by simpa using hflag)
    | false => exact .pixel _ _ 0 rfl (fun _ => rfl) (fun _ h => by cases h)
  | beep | beepLoss | beepOnce | beepThree | beepLearn => cases on <;> exact .beeper rfl

/-- A switch function lights nothing but its channel. -/
theorem switch_shines {a : LedObj} {channel : LedChannel} (on : Bool) (w : LedWorld) (hne : channel ≠ a.channel)
    (h : Shines channel (ledSwitches a on w)) : Shines channel w := by
  have hcases := switch_cases a on w
  revert h hcases
  generalize ledSwitches a on w = w'
  intro h hcases
  cases hcases with
  | paused => exact h
  | pixel c id value hchannel =>
    cases channel with
    | pixel id' c' =>
      refine (setColour_shines h).resolve_left fun ⟨hid, hc, _⟩ => hne ?_
      rw [hchannel, hid, hc]
    | beeper => exact h
  | beeper hchannel =>
    cases channel with
    | pixel id' c' => exact h
    | beeper => exact absurd hchannel.symm hne

theorem led_wired : Wired ledSwitches LedObj.channel Shines where
  off a w h := by
    have hcases := switch_cases a false w
    revert h hcases
    generalize ledSwitches a false w = w'
    intro h hcases
    cases hcases with
    | paused hon => cases hon
    | pixel c id value hchannel hvalue =>
      rw [hchannel, hvalue rfl] at h
      exact setColour_dark c id w h
    | beeper hchannel =>
      rw [hchannel] at h
      cases h
  others on w hne h := switch_shines on w hne h

/-! Every order of the calls' steps. -/

/-- What led.c does to the lights and their world; only a function that resumes
clears the flag. -/
def LedKnown (resumes : Bool) : LedInput LedObj LedWorld → Prop
  | .setMode _ _ blinkMode => blinkMode ≠ [] ∧ timesIn blinkMode ≤ 255
  | .other change =>
    (∃ id level, (3 ≤ id ∧ id ≤ 6) ∧ change = LedWorld.pixels (ws2812bGreen id level)) ∨
      change = LedWorld.pixels ws2812bInit ∨
      ∃ flag, (flag = false → resumes = true) ∧ change = fun w => { w with ledValveOnPauseFlag := flag }
  | _ => True

def LedCall.resumes : LedCall → Bool
  | ledValveOnResume _ => true
  | _ => false

theorem ntcText_fits : ledText ntcText ≠ [] ∧ timesIn (ledText ntcText) ≤ 255 := by decide +kernel

theorem steps_known (call : LedCall) : ∀ i ∈ call.steps, LedKnown call.resumes i := by
  cases call with
  | ledDryContactSet id level callers =>
    rintro i hi
    obtain rfl := List.mem_singleton.1 hi
    exact Or.inl ⟨id, level, callers, rfl⟩
  | ledRunInit =>
    rintro i hi
    obtain rfl := List.mem_singleton.1 hi
    exact Or.inr (Or.inl rfl)
  | ledValveOnPause => exact List.forall_mem_cons.2 ⟨trivial, List.forall_mem_singleton.2
      (Or.inr (Or.inr ⟨true, (fun h => by cases h), rfl⟩))⟩
  | ledValveOnResume valveStatus =>
    refine List.forall_mem_cons.2 ⟨Or.inr (Or.inr ⟨false, fun _ => rfl, rfl⟩), ?_⟩
    split <;> simp [LedKnown]
  | wifiLed num =>
    unfold LedCall.steps
    dsimp only
    split <;> simp [LedCall.mode, LedKnown] <;> decide
  | ledNtcAlarm => simp [LedCall.steps, LedCall.mode, LedKnown, ntcText_fits]
  | _ => simp [LedCall.steps, LedCall.beepAndRed, LedCall.mode, LedKnown] <;> decide

theorem LedKnown.fits {r : Bool} {i : LedInput LedObj LedWorld} (h : LedKnown r i) : i.Fits := by
  cases i with
  | setMode a loop blinkMode => exact h
  | start a | stop a | ticks | other change => trivial

/-- `ws2812b_init` lights nothing. -/
theorem ws2812bInit_shines {channel : LedChannel} {w : LedWorld} (h : Shines channel (w.pixels ws2812bInit)) :
    Shines channel w := by
  have hcolour : ∀ (c : Colour) (id : UInt8) (w : LedWorld), Shines channel (w.pixels (setColour c id 0)) →
      Shines channel w := by
    intro c id w h
    cases channel with
    | pixel id' c' => exact (setColour_shines h).resolve_left fun ⟨_, _, hne⟩ => hne rfl
    | beeper => exact h
  have hpixel : ∀ (id : UInt8) (w : LedWorld), Shines channel (w.pixels (rgbSetColor id 0 0 0)) → Shines channel w :=
    fun id w h => hcolour .green id w (hcolour .red id _ (hcolour .blue id _ h))
  exact hpixel 0 w (hpixel 1 _ (hpixel 2 _ (hpixel 3 _ (hpixel 4 _ (hpixel 5 _ (hpixel 6 _ h))))))

theorem LedKnown.not_lights {r : Bool} {i : LedInput LedObj LedWorld} (h : LedKnown r i) :
    ¬ i.Lights LedObj.channel Shines := by
  cases i with
  | setMode a loop blinkMode | start a | stop a | ticks => exact id
  | other change =>
    rintro ⟨a, w, hon, hdark⟩
    rcases h with ⟨id, level, hid, rfl⟩ | rfl | ⟨flag, -, rfl⟩
    · -- a dry contact has a pixel of its own
      cases hchannel : a.channel with
      | pixel id' c' =>
        rw [hchannel] at hon hdark
        obtain ⟨hsame, -, -⟩ := (setColour_shines hon).resolve_right hdark
        have hother : id' ≠ id := by
          rintro rfl
          cases a <;> cases hchannel <;> exact absurd hid.1 (by decide)
        exact hother hsame
      | beeper =>
        rw [hchannel] at hon hdark
        exact hdark hon
    · exact hdark (ws2812bInit_shines hon)
    · refine hdark ?_
      cases hchannel : a.channel with
      | pixel id' c' | beeper =>
        rw [hchannel] at hon
        exact hon

theorem ledInit_explained (w : LedWorld) : (ledInit w).Explained LedObj.channel Shines := by
  intro a hon
  have hmem : a ∈ LedObj.all := by cases a <;> decide
  exact absurd hon (led_wired.dark hmem w)

theorem ledInit_start (w : LedWorld) :
    (ledPanel ledSwitches).start { world := w } ∧
      ∃ is, (∀ i ∈ is, i.Fits) ∧ (ledPanel ledSwitches).run { world := w } is = some (ledInit w) := by
  refine ⟨⟨rfl, rfl, rfl⟩, LedObj.all.flatMap fun a =>
    [.other (ledSwitches a false), .setMode a a.initMode.1 (ledText a.initMode.2)], ?_, rfl⟩
  intro i hi
  obtain ⟨a, -, hi⟩ := List.mem_flatMap.1 hi
  rcases List.mem_cons.1 hi with rfl | hi
  · trivial
  · obtain rfl := List.mem_singleton.1 hi
    cases a <;> exact ⟨by decide, by decide⟩

/-! Channels that no light switches. -/

def dryContactChannel (channel : LedChannel) : Prop := ∃ id : UInt8, (3 ≤ id ∧ id ≤ 6) ∧ channel = .pixel id .green

theorem ledInit_shines {w : LedWorld} {channel : LedChannel} (hother : ∀ a : LedObj, channel ≠ a.channel)
    (h : Shines channel (ledInit w).world) : Shines channel w := by
  have hoff : ∀ (as : List LedObj) (w : LedWorld),
      Shines channel (as.foldl (fun w a => ledSwitches a false w) w) → Shines channel w := by
    intro as
    induction as with
    | nil => exact fun w h => h
    | cons a as ih => exact fun w h => switch_shines false w (hother a) (ih _ h)
  exact hoff LedObj.all w h

/-- Only a dry contact lights a channel that is no light's. -/
theorem LedKnown.keeps_dark {r : Bool} {i : LedInput LedObj LedWorld} {channel : LedChannel} {w₀ : LedWorld}
    (h : LedKnown r i) (hdry : ¬ dryContactChannel channel) :
    i.Keeps fun w => Shines channel w → Shines channel w₀ := by
  cases i with
  | setMode a loop blinkMode | start a | stop a | ticks => trivial
  | other change =>
    intro w hw hon
    rcases h with ⟨id, level, hid, rfl⟩ | rfl | ⟨flag, -, rfl⟩
    · cases channel with
      | pixel id' c =>
        refine hw ((setColour_shines hon).resolve_left ?_)
        rintro ⟨rfl, rfl, -⟩
        exact hdry ⟨id', hid, rfl⟩
      | beeper => exact hw hon
    · exact hw (ws2812bInit_shines hon)
    · cases channel with
      | pixel id c => exact hw hon
      | beeper => exact hw hon

/-- **The lights of the main unit**: in every order of the steps of led.c, a colour or
the beeper that is on belongs to a light that is started and was last switched on, or
it is the green of a dry contact, or no light switches it and it was on before
`led_init`; and `led_ticks` returns. -/
theorem led_runs {w : LedWorld} {is : List (LedInput LedObj LedWorld)} {p : LedPanel LedObj LedWorld}
    (hissued : ∀ i ∈ is, LedIssued i) (hr : (ledPanel ledSwitches).run (ledInit w) is = some p) :
    (∀ channel, Shines channel p.world →
      (∃ b ∈ p.started, b.channel = channel ∧ p.lit b = true) ∨ dryContactChannel channel ∨
        (∀ a : LedObj, channel ≠ a.channel) ∧ Shines channel w) ∧
      ∃ p', p.ledTicks ledSwitches = some p' := by
  have hknown : ∀ i ∈ is, ∃ r, LedKnown r i := fun i hi =>
    (hissued i hi).elim fun call hmem => ⟨call.resumes, steps_known call i hmem⟩
  have hexplained : p.Explained LedObj.channel Shines :=
    (ledInit_explained w).run led_wired List.nodup_nil (fun i hi => (hknown i hi).elim fun _ h => h.not_lights) hr
  obtain ⟨hstart, is₀, hfits, hinit⟩ := ledInit_start w
  have hfull : (ledPanel ledSwitches).run { world := w } (is₀ ++ is) = some p := by
    rw [Machine.run_append, hinit]
    exact hr
  have hfits' : ∀ i ∈ is₀ ++ is, i.Fits := by
    intro i hi
    rcases List.mem_append.1 hi with hi | hi
    · exact hfits i hi
    · exact (hknown i hi).elim fun _ h => h.fits
  refine ⟨fun channel hon => ?_, (ticks_return hstart hfits' hfull).2⟩
  by_cases hlight : ∃ a : LedObj, a.channel = channel
  · obtain ⟨a, rfl⟩ := hlight
    exact Or.inl (hexplained a hon)
  · have hother : ∀ a : LedObj, channel ≠ a.channel := fun a heq => hlight ⟨a, heq.symm⟩
    by_cases hdry : dryContactChannel channel
    · exact Or.inr (Or.inl hdry)
    · have hkept := world_run (P := fun w' => Shines channel w' → Shines channel w)
        (fun a v w' h hon => h (switch_shines v w' (hother a) hon)) (ledInit_shines hother)
        (fun i hi => (hknown i hi).elim fun _ h => h.keeps_dark hdry) hr
      exact Or.inr (Or.inr ⟨hother, hkept hon⟩)

/-- The valve is shown open, a leak is shown, and the alarm is cleared. -/
def sampleLedCalls : List LedCall :=
  [.ledRunInit, .ledDryContactSet 3 1 (by decide), .ledValveOn, .ledRunTick, .ledRunTick, .ledWaterAlarmStart,
    .ledRunTick, .beepStop, .ledWarnOff]

theorem led_runs_sample :
    ∃ p, (ledPanel ledSwitches).run (ledInit {}) (sampleLedCalls.flatMap LedCall.steps) = some p ∧
      ∀ channel, Shines channel p.world →
        (∃ b ∈ p.started, b.channel = channel ∧ p.lit b = true) ∨ dryContactChannel channel ∨
          (∀ a : LedObj, channel ≠ a.channel) ∧ Shines channel {} := by
  obtain ⟨p, hp⟩ := Option.isSome_iff_exists.1
    (by decide +kernel :
      ((ledPanel ledSwitches).run (ledInit {}) (sampleLedCalls.flatMap LedCall.steps)).isSome = true)
  have hissued : ∀ i ∈ sampleLedCalls.flatMap LedCall.steps, LedIssued i := by
    intro i hi
    obtain ⟨call, -, hmem⟩ := List.mem_flatMap.1 hi
    exact ⟨call, hmem⟩
  exact ⟨p, hp, (led_runs hissued hp).1⟩

/-! The pause of the valve's light. -/

structure LedWorld.Paused (w : LedWorld) : Prop where
  flag : w.ledValveOnPauseFlag = true
  dark : ¬ Shines (.pixel 1 .green) w

theorem LedWorld.Paused.switch {w : LedWorld} (h : w.Paused) (a : LedObj) (on : Bool) :
    (ledSwitches a on w).Paused := by
  have hcases := switch_cases a on w
  revert hcases
  generalize ledSwitches a on w = w'
  intro hcases
  cases hcases with
  | paused => exact h
  | pixel c id value hchannel hvalue hpause =>
    refine ⟨h.flag, fun hon => ?_⟩
    rcases setColour_shines hon with ⟨rfl, rfl, hne⟩ | hon
    · cases on with
      | true => exact absurd (h.flag.symm.trans (hpause hchannel rfl)) (by decide)
      | false => exact hne (hvalue rfl)
    · exact h.dark hon
  | beeper => exact ⟨h.flag, h.dark⟩

theorem LedKnown.keeps {i : LedInput LedObj LedWorld} (hknown : LedKnown false i) : i.Keeps LedWorld.Paused := by
  cases i with
  | setMode a loop blinkMode | start a | stop a | ticks => trivial
  | other change =>
    intro w h
    rcases hknown with ⟨id, level, hid, rfl⟩ | rfl | ⟨flag, hflag, rfl⟩
    · refine ⟨h.flag, fun hon => h.dark ((setColour_shines hon).resolve_left ?_)⟩
      rintro ⟨rfl, -, -⟩
      exact absurd hid.1 (by decide)
    · exact ⟨h.flag, fun hon => h.dark (ws2812bInit_shines hon)⟩
    · cases flag with
      | true => exact ⟨rfl, h.dark⟩
      | false => exact absurd (hflag rfl) (by decide)

/-- **The pause**: from `led_valve_on_pause` on the green light of the valve is dark,
whatever happens but `led_valve_on_resume`. -/
theorem pause_dark {p q p' : LedPanel LedObj LedWorld} {is : List (LedInput LedObj LedWorld)}
    (hpause : (ledPanel ledSwitches).run p LedCall.ledValveOnPause.steps = some q)
    (hothers : ∀ i ∈ is, ∃ call : LedCall, call.resumes = false ∧ i ∈ call.steps)
    (hr : (ledPanel ledSwitches).run q is = some p') : ¬ Shines (.pixel 1 .green) p'.world := by
  obtain rfl := Option.some_inj.1 hpause
  have hpaused : LedWorld.Paused { p.world.onGreenOff with ledValveOnPauseFlag := true } :=
    ⟨rfl, setColour_dark .green 1 p.world⟩
  have hkeeps : ∀ i ∈ is, i.Keeps LedWorld.Paused := by
    intro i hi
    obtain ⟨call, hresumes, hmem⟩ := hothers i hi
    have hknown := steps_known call i hmem
    rw [hresumes] at hknown
    exact hknown.keeps
  exact (world_run (P := LedWorld.Paused) (fun a on w h => h.switch a on) hpaused hkeeps hr).dark

theorem pause_dark_sample :
    ∃ q p', (ledPanel ledSwitches).run (ledInit {}) LedCall.ledValveOnPause.steps = some q ∧
      (ledPanel ledSwitches).run q (sampleLedCalls.flatMap LedCall.steps) = some p' ∧
      ¬ Shines (.pixel 1 .green) p'.world := by
  obtain ⟨q, hq⟩ : ∃ q, (ledPanel ledSwitches).run (ledInit {}) LedCall.ledValveOnPause.steps = some q := ⟨_, rfl⟩
  have hsome : (((ledPanel ledSwitches).run (ledInit {}) LedCall.ledValveOnPause.steps).bind fun q =>
      (ledPanel ledSwitches).run q (sampleLedCalls.flatMap LedCall.steps)).isSome = true := by decide +kernel
  rw [hq] at hsome
  obtain ⟨p', hp'⟩ := Option.isSome_iff_exists.1 hsome
  refine ⟨q, p', hq, hp', pause_dark hq (fun i hi => ?_) hp'⟩
  obtain ⟨call, hcall, hmem⟩ := List.mem_flatMap.1 hi
  have hnone : ∀ r ∈ sampleLedCalls.map LedCall.resumes, r = false := by decide
  exact ⟨call, hnone _ (List.mem_map_of_mem hcall), hmem⟩

end Aqualarm
