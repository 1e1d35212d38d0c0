import Aqualarm.Lib.DecimalBytes
import Aqualarm.Lib.Machine
import Mathlib.Data.List.GetD
import Mathlib.Logic.Function.Basic

/-
  signal_led.c: lights that follow a pattern of times, written as text.

  What is proved:
    1. `blink_mode_read` — the text of up to 256 times is read as these times, rounded
       up to ticks; of more times the last 256 come over the ones before them.
    2. `ticks_return` — `led_ticks` returns in every state that patterns of up to
       255 times lead to, and reads within their arrays.
    3. `pattern_plays` — a light that is started shows its pattern tick by tick,
       each round one tick longer than its times, as often as it was told to, and
       is then switched off and taken out of the list, whatever happens to other
       lights meanwhile.
    4. `Explained.run` — where lights share what they switch, what is on belongs to a
       light that is in the list and shown as on.
    5. `world_run` — what all switch functions keep holds of the world along a run.

  `blink_over_callback` is never set, and `led_toggle` never called. Calls do not
  overlap with `led_ticks`, `malloc` always has memory, and a text has fewer than
  65536 times, so that `mode_cnt` does not come round.
-/

namespace Aqualarm

open Lib

/-! The text of a pattern. -/

def ledTickTime : UInt32 := 50

/-- A time in ticks, rounded up. -/
def blinkTicks (v : Int) : UInt32 :=
  let ms := UInt32.ofInt v
  if ms % ledTickTime ≠ 0 then ms / ledTickTime + 1 else ms / ledTickTime

/-- `mode_cnt` as `led_get_blink_arr` counts it; the text is not empty. -/
def blinkCount (blinkMode : List UInt8) : UInt16 :=
  let modeCnt := blinkMode.foldl (fun modeCnt c => if c = 44 then modeCnt + 1 else modeCnt) 0
  if blinkMode.getLast? = some 44 then modeCnt else modeCnt + 1

/-- The loop that stores: a time is read where the text begins and behind each
comma, and goes to `blinkCntNum`, which comes round after 256 times. -/
def storeTimes : Bool → List UInt8 → UInt8 → List UInt32 → List UInt32
  | _, [], _, blinkArr => blinkArr
  | isTime, c :: cs, blinkCntNum, blinkArr =>
    if isTime then
      storeTimes (c = 44) cs (blinkCntNum + 1) (blinkArr.set blinkCntNum.toNat (blinkTicks (atolBytes (c :: cs))))
    else storeTimes (c = 44) cs blinkCntNum blinkArr

/-- `blink_arr`, with 0 for what malloc leaves in it. -/
def ledGetBlinkArr (blinkMode : List UInt8) : List UInt32 :=
  storeTimes true blinkMode 0 (List.replicate (blinkCount blinkMode).toNat 0)

theorem length_storeTimes (isTime : Bool) (cs : List UInt8) (blinkCntNum : UInt8) (blinkArr : List UInt32) :
    (storeTimes isTime cs blinkCntNum blinkArr).length = blinkArr.length := by
  induction cs generalizing isTime blinkCntNum blinkArr with
  | nil => rfl
  | cons c cs ih =>
    unfold storeTimes
    split
    · rw [ih, List.length_set]
    · exact ih ..

/-- The array is as long as counted. -/
theorem length_ledGetBlinkArr (blinkMode : List UInt8) :
    (ledGetBlinkArr blinkMode).length = (blinkCount blinkMode).toNat := by
  rw [ledGetBlinkArr, length_storeTimes, List.length_replicate]

/-- The times of a text. -/
def timesIn (blinkMode : List UInt8) : Nat := blinkMode.count 44 + if blinkMode.getLast? = some 44 then 0 else 1

theorem blinkCount_eq (blinkMode : List UInt8) : blinkCount blinkMode = UInt16.ofNat (timesIn blinkMode) := by
  have hcommas : ∀ (cs : List UInt8) (n : Nat),
      cs.foldl (fun modeCnt c => if c = 44 then modeCnt + 1 else modeCnt) (UInt16.ofNat n) =
        UInt16.ofNat (n + cs.count 44) := by
    intro cs
    induction cs with
    | nil => exact fun n => rfl
    | cons c cs ih =>
      intro n
      rw [List.foldl_cons, List.count_cons]
      by_cases hc : c = 44
      · have hnext : UInt16.ofNat n + 1 = UInt16.ofNat (n + 1) := (UInt16.ofNat_add n 1).symm
        rw [if_pos hc, if_pos (by simpa using hc), hnext, ih, Nat.add_right_comm, Nat.add_assoc]
      · rw [if_neg hc, if_neg (by simpa using hc), ih, Nat.add_zero]
  have hall := hcommas blinkMode 0
  rw [Nat.zero_add] at hall
  unfold blinkCount timesIn
  dsimp only
  change (if _ then List.foldl _ (UInt16.ofNat 0) _ else List.foldl _ (UInt16.ofNat 0) _ + 1) = _
  rw [hall]
  split
  · rfl
  · rw [UInt16.ofNat_add]
    rfl

theorem toNat_blinkCount {blinkMode : List UInt8} (h : timesIn blinkMode < 65536) :
    (blinkCount blinkMode).toNat = timesIn blinkMode := by
  rw [blinkCount_eq]
  exact UInt16.toNat_ofNat_of_lt' h

/-- The text of times, each with a comma behind it. -/
def blinkText (times : List Nat) : List UInt8 := times.flatMap fun t => printIntBytes t ++ [44]

theorem isDigitByte_printIntBytes (t : Nat) : ∀ b ∈ printIntBytes t, isDigitByte b = true := by
  rw [printIntBytes_nonneg (Int.natCast_nonneg t)]
  intro b hb
  obtain ⟨c, hc, rfl⟩ := List.mem_map.1 hb
  exact isDigitByte_byteOf (isDigit_toDigits _ c hc)

theorem comma_not_mem (t : Nat) : (44 : UInt8) ∉ printIntBytes t := fun h =>
  absurd (isDigitByte_printIntBytes t 44 h) (by decide)

theorem printIntBytes_ne_nil (t : Nat) : printIntBytes t ≠ [] := fun h =>
  printInt_ne_nil t (List.map_eq_nil_iff.1 h)

theorem count_blinkText (times : List Nat) : (blinkText times).count 44 = times.length := by
  induction times with
  | nil => rfl
  | cons t times ih =>
    have hsplit : blinkText (t :: times) = printIntBytes t ++ (44 :: blinkText times) := by simp [blinkText]
    rw [hsplit, List.count_append, List.count_eq_zero_of_not_mem (comma_not_mem t), List.count_cons_self, ih,
      Nat.zero_add, List.length_cons]

/-- With its last comma or without it the text has as many times. -/
theorem timesIn_blinkText {times : List Nat} (hne : times ≠ []) :
    ∀ blinkMode ∈ [blinkText times, (blinkText times).dropLast], timesIn blinkMode = times.length := by
  have hcount := count_blinkText times
  obtain ⟨init, t, rfl⟩ := (List.eq_nil_or_concat' times).resolve_left hne
  have hsplit : blinkText (init ++ [t]) = (blinkText init ++ printIntBytes t) ++ [44] := by simp [blinkText]
  intro blinkMode hmode
  unfold timesIn
  rcases List.mem_cons.1 hmode with rfl | hmode
  · rw [hcount, if_pos (by rw [hsplit, List.getLast?_concat])]
    rfl
  · obtain rfl := List.mem_singleton.1 hmode
    rw [hsplit, List.count_append, List.count_singleton_self] at hcount
    have hlast : (blinkText init ++ printIntBytes t).getLast? ≠ some 44 := by
      rw [List.getLast?_append_of_ne_nil _ (printIntBytes_ne_nil t)]
      exact fun h => comma_not_mem t (List.mem_of_getLast? h)
    rw [hsplit, List.dropLast_concat, if_neg hlast, hcount]

/-- Behind the place where a time is read the text is passed over up to a comma. -/
theorem storeTimes_pass {cs : List UInt8} (h : 44 ∉ cs) (rest : List UInt8) (k : UInt8) (blinkArr : List UInt32) :
    storeTimes false (cs ++ rest) k blinkArr = storeTimes false rest k blinkArr := by
  induction cs with
  | nil => rfl
  | cons c cs ih =>
    have hc : c ≠ 44 := fun hc => h (hc ▸ List.mem_cons_self)
    rw [List.cons_append, storeTimes, decide_eq_false hc, ih fun hmem => h (List.mem_cons_of_mem _ hmem)]
    rfl

theorem storeTimes_time (t : Nat) {rest : List UInt8} (h : ∀ b ∈ rest.head?, isDigitByte b = false) (k : UInt8)
    (blinkArr : List UInt32) :
    storeTimes true (printIntBytes t ++ rest) k blinkArr =
      storeTimes false rest (k + 1) (blinkArr.set k.toNat (blinkTicks t)) := by
  have hread : atolBytes (printIntBytes t ++ rest) = t := atolBytes_printIntBytes t h
  have hcomma := comma_not_mem t
  cases htext : printIntBytes t with
  | nil => exact absurd htext (printIntBytes_ne_nil t)
  | cons c cs =>
    rw [htext] at hread hcomma
    have hc : c ≠ 44 := fun hc => hcomma (hc ▸ List.mem_cons_self)
    rw [List.cons_append] at hread ⊢
    rw [storeTimes, hread, decide_eq_false hc, if_pos rfl,
      storeTimes_pass fun hmem => hcomma (List.mem_cons_of_mem _ hmem)]

/-- The entries that values stored from an index of 8 bits on give. -/
def storedFrom : UInt8 → List UInt32 → List UInt32 → List UInt32
  | _, [], blinkArr => blinkArr
  | k, t :: ts, blinkArr => storedFrom (k + 1) ts (blinkArr.set k.toNat t)

theorem storedFrom_append (k : UInt8) (ts ts' : List UInt32) (blinkArr : List UInt32) :
    storedFrom k (ts ++ ts') blinkArr = storedFrom (k + UInt8.ofNat ts.length) ts' (storedFrom k ts blinkArr) := by
  induction ts generalizing k blinkArr with
  | nil => simp [storedFrom]
  | cons t ts ih =>
    rw [List.cons_append, storedFrom, ih, storedFrom, List.length_cons, UInt8.ofNat_add, UInt8.add_assoc,
      UInt8.add_comm (UInt8.ofNat ts.length)]
    rfl

theorem storeTimes_text (times : List Nat) (rest : List UInt8) (k : UInt8) (blinkArr : List UInt32) :
    storeTimes true (blinkText times ++ rest) k blinkArr =
      storeTimes true rest (k + UInt8.ofNat times.length)
        (storedFrom k (times.map fun t : Nat => blinkTicks t) blinkArr) := by
  induction times generalizing k blinkArr with
  | nil => simp [blinkText, storedFrom]
  | cons t times ih =>
    have hsplit : blinkText (t :: times) ++ rest = printIntBytes t ++ (44 :: (blinkText times ++ rest)) := by
      simp [blinkText]
    rw [hsplit, storeTimes_time t (by simp [isDigitByte]), storeTimes, if_neg (by decide), decide_eq_true rfl, ih,
      List.length_cons, UInt8.ofNat_add, UInt8.add_assoc, UInt8.add_comm (UInt8.ofNat times.length)]
    rfl

/-- Both texts of a pattern store its times. -/
theorem ledGetBlinkArr_text {times : List Nat} (hne : times ≠ []) :
    ∀ blinkMode ∈ [blinkText times, (blinkText times).dropLast], ledGetBlinkArr blinkMode =
      storedFrom 0 (times.map fun t : Nat => blinkTicks t) (List.replicate (blinkCount blinkMode).toNat 0) := by
  intro blinkMode hmode
  unfold ledGetBlinkArr
  generalize List.replicate (blinkCount blinkMode).toNat (0 : UInt32) = blinkArr
  rcases List.mem_cons.1 hmode with rfl | hmode
  · have htext := storeTimes_text times [] 0 blinkArr
    rw [List.append_nil] at htext
    exact htext
  · obtain rfl := List.mem_singleton.1 hmode
    obtain ⟨init, t, rfl⟩ := (List.eq_nil_or_concat' times).resolve_left hne
    have hsplit : blinkText (init ++ [t]) = blinkText init ++ printIntBytes t ++ [44] := by simp [blinkText]
    have hlast := @storeTimes_time t [] (by simp)
    rw [hsplit, List.dropLast_concat, storeTimes_text, List.map_append, storedFrom_append, List.length_map]
    rw [List.append_nil] at hlast
    rw [hlast]
    rfl

/-- An entry that no index comes to is kept. -/
theorem storedFrom_keeps {k : UInt8} {ts blinkArr : List UInt32} {j : Nat}
    (h : ∀ i < ts.length, (k + UInt8.ofNat i).toNat ≠ j) : (storedFrom k ts blinkArr)[j]? = blinkArr[j]? := by
  induction ts generalizing k blinkArr with
  | nil => rfl
  | cons t ts ih =>
    have hfirst : k.toNat ≠ j := by
      have hzero := h 0 (Nat.succ_pos _)
      change (k + 0).toNat ≠ j at hzero
      rwa [UInt8.add_zero] at hzero
    have hrest : ∀ i < ts.length, (k + 1 + UInt8.ofNat i).toNat ≠ j := by
      intro i hi
      have hnext := h (i + 1) (Nat.succ_lt_succ hi)
      rwa [UInt8.ofNat_add, UInt8.add_comm (UInt8.ofNat i), ← UInt8.add_assoc] at hnext
    rw [storedFrom, ih hrest, List.getElem?_set_ne hfirst]

theorem toNat_add_ofNat (k : UInt8) (i : Nat) : (k + UInt8.ofNat i).toNat = (k.toNat + i) % 256 := by
  rw [UInt8.toNat_add, UInt8.toNat_ofNat']
  omega

/-- Each of the last 256 values stands at its index modulo 256. -/
theorem storedFrom_getElem {k : UInt8} {ts blinkArr : List UInt32} {i : Nat} (hi : i < ts.length)
    (hlast : ts.length ≤ i + 256) (hin : (k.toNat + i) % 256 < blinkArr.length) :
    (storedFrom k ts blinkArr)[(k.toNat + i) % 256]? = some ts[i] := by
  induction ts generalizing k blinkArr i with
  | nil => exact absurd hi (Nat.not_lt_zero i)
  | cons t ts ih =>
    have hk := k.toNat_lt
    rw [List.length_cons] at hi hlast
    cases i with
    | zero =>
      have hkeeps : ∀ m < ts.length, (k + 1 + UInt8.ofNat m).toNat ≠ k.toNat := by
        intro m hm
        rw [toNat_add_ofNat, UInt8.toNat_add]
        change ((k.toNat + 1) % 256 + m) % 256 ≠ _
        omega
      have hmod : (k.toNat + 0) % 256 = k.toNat := by omega
      rw [hmod] at hin ⊢
      rw [storedFrom, storedFrom_keeps hkeeps, List.getElem?_set_self hin]
      rfl
    | succ i =>
      have hmod : (k.toNat + (i + 1)) % 256 = ((k + 1).toNat + i) % 256 := by
        rw [UInt8.toNat_add]
        change _ = ((k.toNat + 1) % 256 + i) % 256
        omega
      rw [hmod] at hin ⊢
      rw [storedFrom, ih (by omega) (by omega) (by rwa [List.length_set]), List.getElem_cons_succ]

theorem toNat_blinkTicks {t : Nat} (h : t < 2147483648) : (blinkTicks t).toNat = (t + 49) / 50 := by
  have hms : (UInt32.ofInt t).toNat = t := by
    have hmod : ((t : Int) % 2 ^ 32).toNat = t := by omega
    rw [UInt32.ofInt, hmod]
    exact UInt32.toNat_ofNat_of_lt' (by omega : t < 4294967296)
  unfold blinkTicks ledTickTime
  dsimp only
  have hmod : UInt32.ofInt t % 50 ≠ 0 ↔ t % 50 ≠ 0 := by
    rw [ne_eq, ← UInt32.toNat_inj, UInt32.toNat_mod, hms]
    rfl
  have hdiv : (UInt32.ofInt t / 50).toNat = t / 50 := by rw [UInt32.toNat_div, hms]; rfl
  by_cases hzero : t % 50 = 0
  · rw [if_neg (mt hmod.1 (not_not.2 hzero)), hdiv]
    omega
  · rw [if_pos (hmod.2 hzero), UInt32.toNat_add, hdiv]
    change (t / 50 + 1) % 4294967296 = _
    omega

/-- **The text of a pattern**, with its last comma or without it: its times are
counted, and the last 256 of them stand, in ticks rounded up, at their places
modulo 256; up to 256 times are read as they are written. -/
theorem blink_mode_read {times : List Nat} (hne : times ≠ []) (hlength : times.length < 65536)
    (h : ∀ t ∈ times, t < 2147483648) :
    ∀ blinkMode ∈ [blinkText times, (blinkText times).dropLast],
      (blinkCount blinkMode).toNat = times.length ∧ (ledGetBlinkArr blinkMode).length = times.length ∧
        (∀ (i : Nat) (hi : i < times.length), times.length ≤ i + 256 →
          ((ledGetBlinkArr blinkMode)[i % 256]?).map UInt32.toNat = some ((times[i] + 49) / 50)) ∧
        (times.length ≤ 256 →
          (ledGetBlinkArr blinkMode).map UInt32.toNat = times.map (fun t => (t + 49) / 50)) := by
  intro blinkMode hmode
  have hcount : (blinkCount blinkMode).toNat = times.length := by
    rw [toNat_blinkCount (by rwa [timesIn_blinkText hne _ hmode]), timesIn_blinkText hne _ hmode]
  have hall : (ledGetBlinkArr blinkMode).length = times.length := by rw [length_ledGetBlinkArr, hcount]
  have hentry : ∀ (i : Nat) (hi : i < times.length), times.length ≤ i + 256 →
      ((ledGetBlinkArr blinkMode)[i % 256]?).map UInt32.toNat = some ((times[i] + 49) / 50) := by
    intro i hi hlast
    have hstored := @storedFrom_getElem 0 (times.map fun t : Nat => blinkTicks t)
      (List.replicate (blinkCount blinkMode).toNat 0) i (by rwa [List.length_map]) (by rwa [List.length_map])
      (by rw [List.length_replicate, hcount, UInt8.toNat_zero]; omega)
    rw [UInt8.toNat_zero, Nat.zero_add, List.getElem_map] at hstored
    rw [ledGetBlinkArr_text hne _ hmode, hstored, Option.map_some, toNat_blinkTicks (h _ (List.getElem_mem hi))]
  refine ⟨hcount, hall, hentry, fun hshort => List.ext_getElem? fun i => ?_⟩
  rw [List.getElem?_map, List.getElem?_map]
  by_cases hi : i < times.length
  · have hplace := hentry i hi (by omega)
    rw [Nat.mod_eq_of_lt (by omega)] at hplace
    rw [hplace, List.getElem?_eq_getElem hi]
    rfl
  · rw [List.getElem?_eq_none (by omega), List.getElem?_eq_none (by omega)]
    rfl

theorem blink_mode_read_sample :
    (ledGetBlinkArr (blinkText [200, 5030]).dropLast).map UInt32.toNat = [4, 101] ∧
      (blinkCount (blinkText [200, 5030]).dropLast).toNat = 2 :=
  have hread := blink_mode_read (List.cons_ne_nil 200 [5030]) (by decide) (by decide) _
    (List.mem_cons_of_mem _ List.mem_cons_self)
  ⟨hread.2.2.2 (by decide), hread.1⟩

/-! A light. -/

def loopPermanent : UInt16 := 0xFF

/-- `led_internal_t`. -/
structure Led where
  modePointer : UInt8 := 0
  modeCnt : UInt16 := 0
  handleCnt : UInt16 := 0
  loop : UInt16 := 0
  loopTemp : UInt16 := 0
  blinkPoint : UInt32 := 0
  blinkArr : List UInt32 := []

namespace Led

def setMode (loop : UInt8) (blinkMode : List UInt8) (_ : Led) : Led :=
  { loop := loop.toUInt16, loopTemp := loop.toUInt16, handleCnt := 0, blinkPoint := 0, modePointer := 0
    modeCnt := blinkCount blinkMode, blinkArr := ledGetBlinkArr blinkMode }

/-- A round of the pattern is over. -/
def reset (l : Led) : Led :=
  { l with
    modePointer := 0, blinkPoint := 0, handleCnt := 0
    loopTemp := if l.loopTemp ≠ loopPermanent then l.loopTemp - 1 else l.loopTemp }

/-- `led_handle` from `__repeat` on, and the switch function it calls. After 256
times of 0 `mode_pointer` has come round, and the loop never ends. -/
def repeatFrom : Nat → Led → Option (Led × Option Bool)
  | 0, _ => none
  | n + 1, l =>
    if l.handleCnt.toUInt32 - 1 = l.blinkPoint then
      if l.modePointer.toUInt16 < l.modeCnt then
        let time := l.blinkArr.getD l.modePointer.toNat 0
        let next := { l with blinkPoint := l.blinkPoint + time, modePointer := l.modePointer + 1 }
        if time = 0 then repeatFrom n next else some (next, some (l.modePointer % 2 = 0))
      else some (l.reset, none)
    else some (l, none)

/-- `led_handle` of a light that has rounds left. -/
def handle (l : Led) : Option (Led × Option Bool) := repeatFrom 257 { l with handleCnt := l.handleCnt + 1 }

end Led

/-! The lights. -/

/-- The lights by name, which of its switch functions each has had called last,
the list from `first_handle` on, and what the switch functions work on. -/
structure LedPanel (α ω : Type) where
  leds : α → Led := fun _ => {}
  lit : α → Bool := fun _ => false
  started : List α := []
  world : ω

/-- What `led_create` is given: `switch_on` and `switch_off`. -/
def LedSwitches (α ω : Type) := α → Bool → ω → ω

/-- The calls, and what changes the world otherwise. -/
inductive LedInput (α ω : Type) where
  | setMode (a : α) (loop : UInt8) (blinkMode : List UInt8)
  | start (a : α)
  | stop (a : α)
  | ticks
  | other (change : ω → ω)

namespace LedPanel

variable {α ω : Type} [DecidableEq α]

def switched (sw : LedSwitches α ω) (a : α) (on : Bool) (p : LedPanel α ω) : LedPanel α ω :=
  { p with lit := Function.update p.lit a on, world := sw a on p.world }

def setLed (a : α) (l : Led) (p : LedPanel α ω) : LedPanel α ω := { p with leds := Function.update p.leds a l }

def ledSetMode (a : α) (loop : UInt8) (blinkMode : List UInt8) (p : LedPanel α ω) : LedPanel α ω :=
  p.setLed a ((p.leds a).setMode loop blinkMode)

def ledStart (a : α) (p : LedPanel α ω) : LedPanel α ω :=
  let p := p.setLed a { p.leds a with loopTemp := (p.leds a).loop }
  if a ∈ p.started then p else { p with started := a :: p.started }

def ledStop (sw : LedSwitches α ω) (a : α) (p : LedPanel α ω) : LedPanel α ω :=
  let p := p.switched sw a false
  { p with started := p.started.filter (· ≠ a) }

/-- What becomes of the light is stored, and the switch function called. -/
def handled (sw : LedSwitches α ω) (a : α) (r : Led × Option Bool) (p : LedPanel α ω) : LedPanel α ω :=
  match r.2 with
  | some on => (p.setLed a r.1).switched sw a on
  | none => p.setLed a r.1

/-- `led_handle`. -/
def ledHandle (sw : LedSwitches α ω) (p : LedPanel α ω) (a : α) : Option (LedPanel α ω) :=
  if (p.leds a).loopTemp ≠ 0 then (p.leds a).handle.map fun r => p.handled sw a r else some (p.ledStop sw a)

/-- `led_ticks`. A light that stops takes itself out of the list, and its `next`
still leads on. -/
def ledTicks (sw : LedSwitches α ω) (p : LedPanel α ω) : Option (LedPanel α ω) := p.started.foldlM (ledHandle sw) p

def next (sw : LedSwitches α ω) (p : LedPanel α ω) : LedInput α ω → Option (LedPanel α ω)
  | .setMode a loop blinkMode => some (p.ledSetMode a loop blinkMode)
  | .start a => some (p.ledStart a)
  | .stop a => some (p.ledStop sw a)
  | .ticks => p.ledTicks sw
  | .other change => some { p with world := change p.world }

end LedPanel

/-- The lights from `led_create` on. -/
def ledPanel {α ω : Type} [DecidableEq α] (sw : LedSwitches α ω) : Machine (LedPanel α ω) (LedInput α ω) where
  start p := p.leds = (fun _ => {}) ∧ p.lit = (fun _ => false) ∧ p.started = []
  next := LedPanel.next sw

/-! `led_ticks` returns. -/

/-- The array is as long as counted, and the pointer is in it or at its end. -/
structure Led.Sane (l : Led) : Prop where
  counted : l.modeCnt.toNat = l.blinkArr.length
  short : l.blinkArr.length ≤ 255
  pointer : l.modePointer.toNat ≤ l.blinkArr.length

namespace Led

variable {l : Led}

theorem pointer_lt (h : l.Sane) (hlt : l.modePointer.toUInt16 < l.modeCnt) :
    l.modePointer.toNat < l.blinkArr.length := by
  rw [UInt16.lt_iff_toNat_lt, UInt8.toNat_toUInt16, h.counted] at hlt
  exact hlt

theorem toNat_succ_pointer (h : l.Sane) (hlt : l.modePointer.toNat < l.blinkArr.length) :
    (l.modePointer + 1).toNat = l.modePointer.toNat + 1 := by
  have hshort := h.short
  rw [UInt8.toNat_add]
  change (l.modePointer.toNat + 1) % 256 = _
  omega

theorem Sane.advance (h : l.Sane) (hlt : l.modePointer.toNat < l.blinkArr.length) (point : UInt32) :
    Sane { l with blinkPoint := point, modePointer := l.modePointer + 1 } :=
  ⟨h.counted, h.short, by rw [toNat_succ_pointer h hlt]; exact hlt⟩

/-- The loop passes over no more times of 0 than are left. -/
theorem repeatFrom_returns (n : Nat) (h : l.Sane) (hn : l.blinkArr.length < l.modePointer.toNat + n) :
    ∃ r, repeatFrom n l = some r ∧ r.1.Sane := by
  induction n generalizing l with
  | zero =>
    have hpointer := h.pointer
    omega
  | succ n ih =>
    unfold repeatFrom
    dsimp only
    split
    · split
      · rename_i hlt
        have hlt := pointer_lt h hlt
        have hadvance := h.advance hlt (l.blinkPoint + l.blinkArr.getD l.modePointer.toNat 0)
        split
        · refine ih hadvance ?_
          dsimp only
          rw [toNat_succ_pointer h hlt]
          omega
        · exact ⟨_, rfl, hadvance⟩
      · exact ⟨_, rfl, h.counted, h.short, Nat.zero_le _⟩
    · exact ⟨_, rfl, h⟩

theorem handle_returns (h : l.Sane) : ∃ r, l.handle = some r ∧ r.1.Sane := by
  refine repeatFrom_returns 257 ⟨h.counted, h.short, h.pointer⟩ ?_
  have hshort := h.short
  dsimp only
  omega

theorem setMode_sane {blinkMode : List UInt8} (loop : UInt8) (h : timesIn blinkMode ≤ 255) :
    (l.setMode loop blinkMode).Sane where
  counted := (length_ledGetBlinkArr blinkMode).symm
  short := by
    change (ledGetBlinkArr blinkMode).length ≤ 255
    rw [length_ledGetBlinkArr, toNat_blinkCount (by omega)]
    exact h
  pointer := Nat.zero_le _

end Led

/-- A text that is not empty, of up to 255 times. -/
def LedInput.Fits {α ω : Type} : LedInput α ω → Prop
  | .setMode _ _ blinkMode => blinkMode ≠ [] ∧ timesIn blinkMode ≤ 255
  | _ => True

namespace LedPanel

variable {α ω : Type} [DecidableEq α] {sw : LedSwitches α ω} {p p' : LedPanel α ω}

def Sane (p : LedPanel α ω) : Prop := ∀ a, (p.leds a).Sane

@[simp] theorem leds_setLed (p : LedPanel α ω) (a : α) (l : Led) : (p.setLed a l).leds a = l := Function.update_self ..

@[simp] theorem leds_setLed_of_ne (p : LedPanel α ω) {a b : α} (h : b ≠ a) (l : Led) :
    (p.setLed a l).leds b = p.leds b := Function.update_of_ne h ..

theorem Sane.setLed (h : p.Sane) {a : α} {l : Led} (hl : l.Sane) : (p.setLed a l).Sane := by
  intro b
  by_cases hb : b = a
  · rw [hb, leds_setLed]
    exact hl
  · rw [leds_setLed_of_ne p hb]
    exact h b

theorem handle_returns (h : p.Sane) (a : α) : ∃ p', p.ledHandle sw a = some p' ∧ p'.Sane := by
  unfold ledHandle
  split
  · obtain ⟨r, hr, hsane⟩ := Led.handle_returns (h a)
    rw [hr]
    refine ⟨_, rfl, ?_⟩
    change (p.handled sw a r).Sane
    unfold handled
    split <;> exact h.setLed hsane
  · exact ⟨_, rfl, h⟩

theorem fold_returns (h : p.Sane) (as : List α) : ∃ p', as.foldlM (ledHandle sw) p = some p' ∧ p'.Sane := by
  induction as generalizing p with
  | nil => exact ⟨p, rfl, h⟩
  | cons a as ih =>
    obtain ⟨m, hm, hsane⟩ := @handle_returns _ _ _ sw p h a
    obtain ⟨p', hp', hsane'⟩ := ih hsane
    refine ⟨p', ?_, hsane'⟩
    rw [List.foldlM_cons, hm]
    exact hp'

theorem Sane.next (h : p.Sane) {i : LedInput α ω} (hfits : i.Fits) (hn : p.next sw i = some p') : p'.Sane := by
  cases i with
  | setMode a loop blinkMode =>
    obtain rfl := Option.some_inj.1 hn
    exact h.setLed (Led.setMode_sane loop hfits.2)
  | start a =>
    obtain rfl := Option.some_inj.1 hn
    have hset : (p.setLed a { p.leds a with loopTemp := (p.leds a).loop }).Sane :=
      h.setLed ⟨(h a).counted, (h a).short, (h a).pointer⟩
    unfold ledStart
    dsimp only
    split <;> exact hset
  | stop a | other change =>
    obtain rfl := Option.some_inj.1 hn
    exact h
  | ticks =>
    obtain ⟨p'', hp, hsane⟩ := @fold_returns _ _ _ sw p h p.started
    obtain rfl : p'' = p' := Option.some_inj.1 (hp.symm.trans hn)
    exact hsane

end LedPanel

/-- **`led_ticks` returns**, and each pointer is in its array or at its end, in
every state that patterns of up to 255 times lead to. -/
theorem ticks_return {α ω : Type} [DecidableEq α] {sw : LedSwitches α ω} {p₀ p : LedPanel α ω}
    {is : List (LedInput α ω)} (hstart : (ledPanel sw).start p₀) (hfits : ∀ i ∈ is, i.Fits)
    (hr : (ledPanel sw).run p₀ is = some p) : p.Sane ∧ ∃ p', p.ledTicks sw = some p' := by
  have hsane₀ : p₀.Sane := by
    intro a
    rw [hstart.1]
    exact ⟨rfl, Nat.zero_le _, le_rfl⟩
  have hstep : ∀ (s : LedPanel α ω) (i : LedInput α ω) (s' : LedPanel α ω),
      s.Sane → i.Fits → s.next sw i = some s' → s'.Sane := fun s i s' hs hi hn => hs.next hi hn
  have hsane : p.Sane := Machine.run_inv (M := ledPanel sw) hstep hsane₀ hfits hr
  obtain ⟨p', hp', -⟩ := @LedPanel.fold_returns _ _ _ sw p hsane p.started
  exact ⟨hsane, p', hp'⟩

/-- Two lights that share what they switch; one is set to end after its first round. -/
def samplePanel : LedPanel Bool Bool := { world := false }

def samplePanelInputs : List (LedInput Bool Bool) :=
  [.setMode true 1 (blinkText [0, 50, 100]), .start true, .setMode false 255 (blinkText [200]), .start false, .ticks]

def sampleSwitches : LedSwitches Bool Bool := fun _ on _ => on

theorem ticks_return_sample :
    ∃ p, (ledPanel sampleSwitches).run samplePanel samplePanelInputs = some p ∧
      p.Sane ∧ ∃ p', p.ledTicks sampleSwitches = some p' := by
  obtain ⟨p, hp⟩ := Option.isSome_iff_exists.1
    (by decide +kernel : ((ledPanel sampleSwitches).run samplePanel samplePanelInputs).isSome = true)
  refine ⟨p, hp, ticks_return ⟨rfl, rfl, rfl⟩ (fun i hi => ?_) hp⟩
  simp only [samplePanelInputs, List.mem_cons, List.not_mem_nil, or_false] at hi
  rcases hi with rfl | rfl | rfl | rfl | rfl
  · exact ⟨by decide, by decide⟩
  · trivial
  · exact ⟨by decide, by decide⟩
  · trivial
  · trivial

/-! What a pattern shows. -/

/-- Whether the light is on at tick `j` of a round that goes on with `times`: `on`
is what the first of them means, and `lit` what the light has come with. -/
def shown : List Nat → Bool → Bool → Nat → Bool
  | [], _, lit, _ => lit
  | t :: times, on, lit, j =>
    if t = 0 then shown times (!on) lit j else if j < t then on else shown times (!on) on (j - t)

/-- With a time that is not 0 the light no longer shows what it came with. -/
theorem shown_lit {times : List Nat} (h : ∃ t ∈ times, t ≠ 0) (on lit lit' : Bool) (j : Nat) :
    shown times on lit j = shown times on lit' j := by
  induction times generalizing on with
  | nil =>
    obtain ⟨t, ht, -⟩ := h
    cases ht
  | cons t times ih =>
    unfold shown
    by_cases ht : t = 0
    · rw [if_pos ht, if_pos ht]
      obtain ⟨t', hmem, hne⟩ := h
      rcases List.mem_cons.1 hmem with rfl | hmem
      · exact absurd ht hne
      · exact ih ⟨t', hmem, hne⟩ (!on)
    · rw [if_neg ht, if_neg ht]

/-- A pattern with a time that is not 0, of up to 255 times, that a counter of 16
bits can follow. -/
structure Pattern (times : List Nat) : Prop where
  nonzero : ∃ t ∈ times, t ≠ 0
  short : times.length ≤ 255
  total : times.sum < 65535

/-- The text has these times, in ticks. -/
structure Spells (blinkMode : List UInt8) (times : List Nat) : Prop where
  nonempty : blinkMode ≠ []
  counted : timesIn blinkMode = times.length
  read : (ledGetBlinkArr blinkMode).map UInt32.toNat = times

instance (times : List Nat) : Decidable (Pattern times) :=
  decidable_of_iff ((∃ t ∈ times, t ≠ 0) ∧ times.length ≤ 255 ∧ times.sum < 65535)
    ⟨fun h => ⟨h.1, h.2.1, h.2.2⟩, fun h => ⟨h.nonzero, h.short, h.total⟩⟩

/-- The light `l` is in round `k` of its pattern, at tick `j`. -/
structure Plays (times : List Nat) (loop : UInt8) (l : Led) (lit : Bool) (k j : Nat) : Prop where
  blinkArr : l.blinkArr.map UInt32.toNat = times
  modeCnt : l.modeCnt.toNat = times.length
  loops : l.loopTemp.toNat = if loop.toNat = 255 then 255 else loop.toNat - k
  handleCnt : l.handleCnt.toNat = j
  pointer : l.modePointer.toNat ≤ times.length
  point : l.blinkPoint.toNat = (times.take l.modePointer.toNat).sum
  inside : j ≤ l.blinkPoint.toNat
  ahead : ∀ m, j ≤ m + 1 → shown times true false m =
    if m < l.blinkPoint.toNat then lit
    else shown (times.drop l.modePointer.toNat) (l.modePointer.toNat % 2 = 0) lit (m - l.blinkPoint.toNat)
  before : 0 < k → j = 0 → lit = shown times true false times.sum

namespace Led

theorem parity_succ (n : Nat) : decide ((n + 1) % 2 = 0) = !decide (n % 2 = 0) := by
  by_cases h : n % 2 = 0
  · rw [decide_eq_true h, decide_eq_false (by omega)]
    rfl
  · rw [decide_eq_false h, decide_eq_true (by omega)]
    rfl

theorem parity_pointer (b : UInt8) : decide (b % 2 = 0) = decide (b.toNat % 2 = 0) := by
  refine decide_eq_decide.2 ?_
  rw [← UInt8.toNat_inj, UInt8.toNat_mod]
  rfl

theorem sum_take_le (times : List Nat) (n : Nat) : (times.take n).sum ≤ times.sum := by
  have hsum := congrArg List.sum (List.take_append_drop n times)
  rw [List.sum_append] at hsum
  omega

/-- **At a breakpoint** the loop passes over the times of 0: at the end of the
pattern the round is over, and else the light switches for the next time. -/
theorem repeatFrom_plays (n : Nat) {l : Led} {times : List Nat} (harr : l.blinkArr.map UInt32.toNat = times)
    (hcnt : l.modeCnt.toNat = times.length) (hptr : l.modePointer.toNat ≤ times.length) (hshort : times.length ≤ 255)
    (htotal : times.sum < 65535) (hpoint : l.blinkPoint.toNat = (times.take l.modePointer.toNat).sum)
    (hmatch : l.handleCnt.toUInt32 - 1 = l.blinkPoint) (hn : times.length < l.modePointer.toNat + n) :
    ((times.drop l.modePointer.toNat).sum = 0 ∧ repeatFrom n l = some (l.reset, none) ∧
      ∀ on lit m, shown (times.drop l.modePointer.toNat) on lit m = lit) ∨
    ∃ (pointer : UInt8) (point : UInt32) (b : Bool),
      repeatFrom n l = some ({ l with modePointer := pointer, blinkPoint := point }, some b) ∧
      pointer.toNat ≤ times.length ∧ point.toNat = (times.take pointer.toNat).sum ∧
      l.blinkPoint.toNat < point.toNat ∧
      ∀ lit m, shown (times.drop l.modePointer.toNat) (l.modePointer.toNat % 2 = 0) lit m =
        if m < point.toNat - l.blinkPoint.toNat then b
        else shown (times.drop pointer.toNat) (pointer.toNat % 2 = 0) b (m - (point.toNat - l.blinkPoint.toNat)) := by
  induction n generalizing l with
  | zero => omega
  | succ n ih =>
    have hlength : l.blinkArr.length = times.length := by rw [← harr, List.length_map]
    have hsane : l.Sane := ⟨hcnt.trans hlength.symm, hlength ▸ hshort, hlength ▸ hptr⟩
    unfold repeatFrom
    dsimp only
    rw [if_pos hmatch]
    by_cases hlt : l.modePointer.toNat < times.length
    · -- there is a next time
      have hlt' : l.modePointer.toUInt16 < l.modeCnt := by
        rw [UInt16.lt_iff_toNat_lt, UInt8.toNat_toUInt16, hcnt]
        exact hlt
      have hsucc := toNat_succ_pointer hsane (hlength ▸ hlt)
      rw [if_pos hlt']
      generalize htime : l.blinkArr.getD l.modePointer.toNat 0 = time
      have helem : times[l.modePointer.toNat] = time.toNat := by
        rw [← htime, List.getD_eq_getElem _ _ (hlength ▸ hlt)]
        subst harr
        exact List.getElem_map ..
      have hdrop : times.drop l.modePointer.toNat = time.toNat :: times.drop (l.modePointer.toNat + 1) := by
        rw [List.drop_eq_getElem_cons hlt, helem]
      have htake : (times.take (l.modePointer.toNat + 1)).sum = l.blinkPoint.toNat + time.toNat := by
        rw [List.take_succ_eq_append_getElem hlt, List.sum_append, List.sum_singleton, helem, hpoint]
      have hle : (times.take (l.modePointer.toNat + 1)).sum ≤ times.sum := sum_take_le _ _
      have hpoint' : (l.blinkPoint + time).toNat = l.blinkPoint.toNat + time.toNat := by
        rw [UInt32.toNat_add]
        exact Nat.mod_eq_of_lt (by omega)
      by_cases hzero : time = 0
      · rw [if_pos hzero]
        have hzero' : time.toNat = 0 := by rw [hzero]; rfl
        have hstay : l.blinkPoint + time = l.blinkPoint := by rw [hzero, UInt32.add_zero]
        have hrest := @ih { l with blinkPoint := l.blinkPoint + time, modePointer := l.modePointer + 1 } harr hcnt
          (by dsimp only; omega) (by dsimp only; rw [hpoint', hsucc, htake]) (by rw [hstay]; exact hmatch)
          (by dsimp only; omega)
        dsimp only at hrest
        rw [hsucc, hpoint'] at hrest
        rw [hdrop, hzero']
        rcases hrest with ⟨hsum, hrun, hshown⟩ | ⟨pointer, point, b, hrun, hle', hsum, hlater, hshown⟩
        · refine Or.inl ⟨by rw [List.sum_cons, hsum], hrun, fun on lit m => ?_⟩
          rw [shown, if_pos rfl]
          exact hshown (!on) lit m
        · refine Or.inr ⟨pointer, point, b, hrun, hle', hsum, by omega, fun lit m => ?_⟩
          rw [shown, if_pos rfl, ← parity_succ, hshown, hzero', Nat.add_zero]
      · rw [if_neg hzero]
        have hpos : time.toNat ≠ 0 := fun h => hzero (UInt32.toNat_inj.1 h)
        refine Or.inr ⟨l.modePointer + 1, l.blinkPoint + time, _, rfl, by omega, ?_, by omega, fun lit m => ?_⟩
        · rw [hpoint', hsucc, htake]
        · rw [hpoint', hsucc, hdrop, shown, if_neg hpos, Nat.add_sub_cancel_left, parity_succ, ← parity_pointer]
    · -- the pattern is at its end
      have hend : times.drop l.modePointer.toNat = [] := List.drop_eq_nil_of_le (by omega)
      have hge : ¬ l.modePointer.toUInt16 < l.modeCnt := by
        rw [UInt16.lt_iff_toNat_lt, UInt8.toNat_toUInt16, hcnt]
        exact hlt
      rw [if_neg hge, hend]
      exact Or.inl ⟨rfl, rfl, fun _ _ _ => rfl⟩

end Led

section
variable {times : List Nat} {loop : UInt8} {l : Led} {lit : Bool} {k j : Nat}

theorem Plays.point_le (h : Plays times loop l lit k j) : l.blinkPoint.toNat ≤ times.sum := by
  rw [h.point]
  exact Led.sum_take_le _ _

theorem Plays.le (h : Plays times loop l lit k j) : j ≤ times.sum := h.inside.trans h.point_le

theorem Plays.reset_loops (h : Plays times loop l lit k j) (hleft : l.loopTemp ≠ 0) :
    (if l.loopTemp ≠ loopPermanent then l.loopTemp - 1 else l.loopTemp).toNat =
      if loop.toNat = 255 then 255 else loop.toNat - (k + 1) := by
  have hloops := h.loops
  have hlt := loop.toNat_lt
  by_cases hpermanent : loop.toNat = 255
  · rw [if_pos hpermanent] at hloops ⊢
    rw [if_neg (not_not.2 (UInt16.toNat_inj.1 hloops)), hloops]
  · rw [if_neg hpermanent] at hloops ⊢
    have hne : l.loopTemp ≠ loopPermanent := by
      intro heq
      rw [heq] at hloops
      change 255 = _ at hloops
      omega
    have hone : (1 : UInt16).toNat ≤ l.loopTemp.toNat :=
      Nat.one_le_iff_ne_zero.2 fun hzero => hleft (UInt16.toNat_inj.1 hzero)
    rw [if_pos hne, UInt16.toNat_sub_of_le _ _ (UInt16.le_iff_toNat_le.2 hone), hloops]
    rfl

/-- **A tick**: the next one of the round, or behind the last one the next round. -/
theorem Plays.tick (hp : Pattern times) (h : Plays times loop l lit k j) (hleft : l.loopTemp ≠ 0) :
    ∃ r, l.handle = some r ∧
      if j < times.sum then Plays times loop r.1 (r.2.getD lit) k (j + 1)
      else Plays times loop r.1 (r.2.getD lit) (k + 1) 0 := by
  have hle := h.le
  have htotal := hp.total
  have hcount : (l.handleCnt + 1).toNat = j + 1 := by
    rw [UInt16.toNat_add, h.handleCnt]
    change (j + 1) % 65536 = _
    omega
  have hbefore : ((l.handleCnt + 1).toUInt32 - 1).toNat = j := by
    have hone : 1 ≤ (l.handleCnt + 1).toUInt32 := by
      rw [UInt32.le_iff_toNat_le, UInt16.toNat_toUInt32, hcount]
      exact Nat.le_add_left 1 j
    rw [UInt32.toNat_sub_of_le _ _ hone, UInt16.toNat_toUInt32, hcount]
    rfl
  have hpoint := h.point_le
  by_cases hmatch : j = l.blinkPoint.toNat
  · have hmatch' : (l.handleCnt + 1).toUInt32 - 1 = l.blinkPoint := UInt32.toNat_inj.1 (hbefore.trans hmatch)
    have hplays := @Led.repeatFrom_plays 257 { l with handleCnt := l.handleCnt + 1 } times h.blinkArr h.modeCnt
      h.pointer hp.short htotal h.point hmatch' (by have := hp.short; omega)
    dsimp only at hplays
    rcases hplays with ⟨hsum, hrun, hshown⟩ | ⟨pointer, point, b, hrun, hptr, hpt, hlater, hshown⟩
    · -- the round is over
      have hend : j = times.sum := by
        have hsplit := congrArg List.sum (List.take_append_drop l.modePointer.toNat times)
        rw [List.sum_append, hsum, ← h.point] at hsplit
        omega
      refine ⟨_, hrun, ?_⟩
      rw [if_neg (by omega)]
      exact
        { blinkArr := h.blinkArr
          modeCnt := h.modeCnt
          loops := h.reset_loops hleft
          handleCnt := rfl
          pointer := Nat.zero_le _
          point := rfl
          inside := le_rfl
          ahead := fun m _ => shown_lit hp.nonzero true false lit m
          before := fun _ _ => by
            have hlast := h.ahead times.sum (by omega)
            rw [if_neg (by omega), hshown] at hlast
            exact hlast.symm }
    · -- the light switches
      have hnext : point.toNat ≤ times.sum := hpt ▸ Led.sum_take_le _ _
      refine ⟨_, hrun, ?_⟩
      rw [if_pos (by omega)]
      exact
        { blinkArr := h.blinkArr
          modeCnt := h.modeCnt
          loops := h.loops
          handleCnt := hcount
          pointer := hptr
          point := hpt
          inside := by dsimp only; omega
          ahead := fun m hm => by
            rw [h.ahead m (by omega), if_neg (by omega), hshown]
            dsimp only [Option.getD_some]
            by_cases hm' : m < point.toNat
            · rw [if_pos (by omega), if_pos hm']
            · rw [if_neg (by omega), if_neg hm']
              congr 1
              omega
          before := fun _ hzero => absurd hzero (Nat.succ_ne_zero j) }
  · -- between two breakpoints
    have hmatch' : ¬ (l.handleCnt + 1).toUInt32 - 1 = l.blinkPoint := fun heq =>
      hmatch (hbefore.symm.trans (congrArg _ heq))
    have hinside := h.inside
    have hrun : l.handle = some ({ l with handleCnt := l.handleCnt + 1 }, none) := by
      unfold Led.handle Led.repeatFrom
      exact if_neg hmatch'
    refine ⟨_, hrun, ?_⟩
    rw [if_pos (by omega)]
    exact
      { blinkArr := h.blinkArr
        modeCnt := h.modeCnt
        loops := h.loops
        handleCnt := hcount
        pointer := h.pointer
        point := h.point
        inside := by dsimp only; omega
        ahead := fun m hm => h.ahead m (by omega)
        before := fun _ hzero => absurd hzero (Nat.succ_ne_zero j) }

end

/-! A light among others. -/

namespace LedPanel

variable {α ω : Type} {sw : LedSwitches α ω} {p p' : LedPanel α ω} {a b : α}

/-- What others do leaves `b` as it is. -/
structure Keeps (b : α) (p p' : LedPanel α ω) : Prop where
  leds : p'.leds b = p.leds b
  lit : p'.lit b = p.lit b
  started : b ∈ p'.started ↔ b ∈ p.started

theorem Keeps.refl (b : α) (p : LedPanel α ω) : Keeps b p p := ⟨rfl, rfl, Iff.rfl⟩

theorem Keeps.trans {p'' : LedPanel α ω} (h : Keeps b p p') (h' : Keeps b p' p'') : Keeps b p p'' :=
  ⟨h'.leds.trans h.leds, h'.lit.trans h.lit, h'.started.trans h.started⟩

variable [DecidableEq α]

theorem ledStop_keeps (hne : b ≠ a) : Keeps b p (p.ledStop sw a) where
  leds := rfl
  lit := Function.update_of_ne hne ..
  started := by
    change b ∈ p.started.filter (· ≠ a) ↔ _
    rw [List.mem_filter, decide_eq_true hne]
    exact and_iff_left rfl

theorem ledHandle_keeps (hne : b ≠ a) (h : p.ledHandle sw a = some p') : Keeps b p p' := by
  unfold ledHandle at h
  split at h
  · obtain ⟨r, -, rfl⟩ := Option.map_eq_some_iff.1 h
    unfold handled
    split
    · exact ⟨leds_setLed_of_ne p hne r.1, Function.update_of_ne hne .., Iff.rfl⟩
    · exact ⟨leds_setLed_of_ne p hne r.1, rfl, Iff.rfl⟩
  · obtain rfl := Option.some_inj.1 h
    exact ledStop_keeps hne

theorem ledHandle_sublist (h : p.ledHandle sw a = some p') : p'.started.Sublist p.started := by
  unfold ledHandle at h
  split at h
  · obtain ⟨r, -, rfl⟩ := Option.map_eq_some_iff.1 h
    unfold handled
    split <;> exact List.Sublist.refl _
  · obtain rfl := Option.some_inj.1 h
    exact List.filter_sublist

theorem handled_self (r : Led × Option Bool) :
    (p.handled sw a r).leds a = r.1 ∧ (p.handled sw a r).lit a = r.2.getD (p.lit a) ∧
      (p.handled sw a r).started = p.started := by
  unfold handled
  split
  · rename_i on hon
    exact ⟨leds_setLed p a r.1, by rw [hon]; exact Function.update_self .., rfl⟩
  · rename_i hnone
    exact ⟨leds_setLed p a r.1, by rw [hnone]; rfl, rfl⟩

/-- The loop of `led_ticks`, its inputs the lights it comes to. -/
def ledLoop (sw : LedSwitches α ω) : Machine (LedPanel α ω) α where
  start _ := True
  next := ledHandle sw

theorem fold_keeps {as : List α} (hb : b ∉ as) (h : as.foldlM (ledHandle sw) p = some p') : Keeps b p p' := by
  have hstep : ∀ (s : LedPanel α ω) (a : α) (s' : LedPanel α ω),
      Keeps b p s → b ≠ a → s.ledHandle sw a = some s' → Keeps b p s' :=
    fun s a s' hs hne hn => hs.trans (ledHandle_keeps hne hn)
  exact Machine.run_inv (M := ledLoop sw) hstep (.refl b p) (fun a ha heq => hb (heq ▸ ha)) h

theorem fold_sublist {as : List α} (h : as.foldlM (ledHandle sw) p = some p') : p'.started.Sublist p.started := by
  have hstep : ∀ (s : LedPanel α ω) (a : α) (s' : LedPanel α ω),
      s.started.Sublist p.started → True → s.ledHandle sw a = some s' → s'.started.Sublist p.started :=
    fun s a s' hs _ hn => (ledHandle_sublist hn).trans hs
  exact Machine.run_inv (M := ledLoop sw) hstep (.refl _) (fun _ _ => trivial) h

/-- **`led_ticks`** handles each light of its list once. -/
theorem ticks_handles (hnodup : p.started.Nodup) (hb : b ∈ p.started) (h : p.ledTicks sw = some p') :
    ∃ m m', Keeps b p m ∧ m.ledHandle sw b = some m' ∧ Keeps b m' p' := by
  obtain ⟨as, bs, hsplit⟩ := List.append_of_mem hb
  unfold ledTicks at h
  rw [hsplit] at hnodup h
  obtain ⟨-, hnodup', hdisjoint⟩ := List.nodup_append.1 hnodup
  have has : b ∉ as := fun hmem => hdisjoint b hmem b List.mem_cons_self rfl
  rw [List.foldlM_append] at h
  obtain ⟨m, hm, h⟩ := Option.bind_eq_some_iff.1 h
  rw [List.foldlM_cons] at h
  obtain ⟨m', hm', h⟩ := Option.bind_eq_some_iff.1 h
  exact ⟨m, m', fold_keeps has hm, hm', fold_keeps (List.nodup_cons.1 hnodup').1 h⟩

end LedPanel

/-- The light an input is for. -/
def LedInput.about {α ω : Type} : LedInput α ω → Option α
  | .setMode a _ _ | .start a | .stop a => some a
  | .ticks | .other _ => none

def LedInput.isTicks {α ω : Type} : LedInput α ω → Bool
  | .ticks => true
  | _ => false

section
variable {α ω : Type} {sw : LedSwitches α ω} {p p' : LedPanel α ω} {a b : α} {times : List Nat} {loop : UInt8} {t : Nat}

/-- `t` ticks after its start the light is in its pattern, or has left the list. -/
structure Follows (times : List Nat) (loop : UInt8) (a : α) (t : Nat) (p : LedPanel α ω) : Prop where
  nodup : p.started.Nodup
  playing : loop.toNat = 255 ∨ t ≤ (times.sum + 1) * loop.toNat → a ∈ p.started ∧
    Plays times loop (p.leds a) (p.lit a) (t / (times.sum + 1)) (t % (times.sum + 1))
  ended : ¬ (loop.toNat = 255 ∨ t ≤ (times.sum + 1) * loop.toNat) → a ∉ p.started ∧ p.lit a = false

theorem Follows.keeps (h : Follows times loop a t p) (hkeeps : LedPanel.Keeps a p p') (hnodup : p'.started.Nodup) :
    Follows times loop a t p' where
  nodup := hnodup
  playing ht := by
    rw [hkeeps.leds, hkeeps.lit, hkeeps.started]
    exact h.playing ht
  ended ht := by
    rw [hkeeps.lit, hkeeps.started]
    exact h.ended ht

variable [DecidableEq α]

/-- The list has no light twice. -/
theorem next_nodup {i : LedInput α ω} (h : p.started.Nodup) (hn : p.next sw i = some p') : p'.started.Nodup := by
  cases i with
  | setMode a loop blinkMode | other change =>
    obtain rfl := Option.some_inj.1 hn
    exact h
  | start a =>
    obtain rfl := Option.some_inj.1 hn
    unfold LedPanel.ledStart
    dsimp only
    split
    · exact h
    · rename_i hnot
      exact List.nodup_cons.2 ⟨hnot, h⟩
  | stop a =>
    obtain rfl := Option.some_inj.1 hn
    exact h.filter _
  | ticks => exact (LedPanel.fold_sublist hn).nodup h

theorem started_nodup (h : (ledPanel sw).Reachable p) : p.started.Nodup := by
  refine @Machine.reachable_inv _ _ (ledPanel sw) (fun p => p.started.Nodup) ?_ ?_ p h
  · rintro p ⟨-, -, hstarted⟩
    rw [hstarted]
    exact List.nodup_nil
  · exact fun p i p' hp hn => next_nodup hp hn

theorem next_keeps_others {i : LedInput α ω} (habout : i.about ≠ some b) (hticks : i.isTicks = false)
    (hn : p.next sw i = some p') : LedPanel.Keeps b p p' := by
  cases i with
  | setMode a loop blinkMode =>
    obtain rfl := Option.some_inj.1 hn
    have hne : b ≠ a := fun h => habout (congrArg some h.symm)
    exact ⟨LedPanel.leds_setLed_of_ne p hne _, rfl, Iff.rfl⟩
  | start a =>
    obtain rfl := Option.some_inj.1 hn
    have hne : b ≠ a := fun h => habout (congrArg some h.symm)
    unfold LedPanel.ledStart
    dsimp only
    split
    · exact ⟨LedPanel.leds_setLed_of_ne p hne _, rfl, Iff.rfl⟩
    · refine ⟨LedPanel.leds_setLed_of_ne p hne _, rfl, ?_⟩
      exact List.mem_cons.trans (or_iff_right hne)
  | stop a =>
    obtain rfl := Option.some_inj.1 hn
    exact LedPanel.ledStop_keeps fun h => habout (congrArg some h.symm)
  | ticks => cases hticks
  | other change =>
    obtain rfl := Option.some_inj.1 hn
    exact ⟨rfl, rfl, Iff.rfl⟩

theorem div_mod_succ (t n : Nat) :
    (t % (n + 1) < n → (t + 1) / (n + 1) = t / (n + 1) ∧ (t + 1) % (n + 1) = t % (n + 1) + 1) ∧
      (¬ t % (n + 1) < n → (t + 1) / (n + 1) = t / (n + 1) + 1 ∧ (t + 1) % (n + 1) = 0) := by
  have hpos : 0 < n + 1 := by omega
  have hsplit := Nat.mod_add_div t (n + 1)
  have hlt := Nat.mod_lt t hpos
  constructor
  · intro h
    refine (Nat.div_mod_unique hpos).2 ⟨?_, by omega⟩
    omega
  · intro h
    refine (Nat.div_mod_unique hpos).2 ⟨?_, hpos⟩
    rw [Nat.mul_add]
    omega

theorem Follows.tick (hp : Pattern times) (h : Follows times loop a t p) (hn : p.next sw .ticks = some p') :
    Follows times loop a (t + 1) p' := by
  have hnodup := next_nodup h.nodup hn
  have hsplit := Nat.div_add_mod t (times.sum + 1)
  have hlt := Nat.mod_lt t (by omega : 0 < times.sum + 1)
  by_cases ht : loop.toNat = 255 ∨ t ≤ (times.sum + 1) * loop.toNat
  · obtain ⟨hmem, hplays⟩ := h.playing ht
    have hloops := hplays.loops
    obtain ⟨m, m', hbefore, hhandle, hafter⟩ := LedPanel.ticks_handles h.nodup hmem hn
    rw [LedPanel.ledHandle, hbefore.leds] at hhandle
    by_cases hleft : (p.leds a).loopTemp ≠ 0
    · rw [if_pos hleft] at hhandle
      obtain ⟨r, hr, hnext⟩ := hplays.tick hp hleft
      rw [hr] at hhandle
      obtain rfl := Option.some_inj.1 hhandle
      obtain ⟨hleds, hlit, hstarted⟩ := @LedPanel.handled_self _ _ sw m a _ r
      have hrounds : loop.toNat = 255 ∨ t + 1 ≤ (times.sum + 1) * loop.toNat := by
        refine or_iff_not_imp_left.2 fun hne => ?_
        have hround : t / (times.sum + 1) + 1 ≤ loop.toNat := by
          rw [if_neg hne] at hloops
          have hpos : (p.leds a).loopTemp.toNat ≠ 0 := fun hzero => hleft (UInt16.toNat_inj.1 hzero)
          omega
        have hmul := Nat.mul_le_mul_left (times.sum + 1) hround
        rw [Nat.mul_add] at hmul
        omega
      refine ⟨hnodup, fun _ => ⟨hafter.started.2 (hstarted ▸ hbefore.started.2 hmem), ?_⟩, fun h => absurd hrounds h⟩
      rw [hafter.leds, hafter.lit, hleds, hlit, hbefore.lit]
      by_cases hround : t % (times.sum + 1) < times.sum
      · rw [if_pos hround] at hnext
        obtain ⟨hdiv, hmod⟩ := (div_mod_succ t times.sum).1 hround
        rw [hdiv, hmod]
        exact hnext
      · rw [if_neg hround] at hnext
        obtain ⟨hdiv, hmod⟩ := (div_mod_succ t times.sum).2 hround
        rw [hdiv, hmod]
        exact hnext
    · rw [if_neg hleft] at hhandle
      obtain rfl := Option.some_inj.1 hhandle
      have hrounds : ¬ (loop.toNat = 255 ∨ t + 1 ≤ (times.sum + 1) * loop.toNat) := by
        rw [not_not.1 hleft] at hloops
        rintro (hpermanent | hle)
        · rw [if_pos hpermanent] at hloops
          cases hloops
        · split at hloops
          · cases hloops
          · have hround : loop.toNat ≤ t / (times.sum + 1) := by
              change 0 = _ at hloops
              omega
            have hmul := Nat.mul_le_mul_left (times.sum + 1) hround
            omega
      refine ⟨hnodup, fun h => absurd h hrounds, fun _ => ⟨mt hafter.started.1 ?_, hafter.lit.trans ?_⟩⟩
      · change a ∉ m.started.filter (· ≠ a)
        simp
      · exact Function.update_self ..
  · obtain ⟨hnot, hlit⟩ := h.ended ht
    have hkeeps := LedPanel.fold_keeps hnot hn
    have ht' : ¬ (loop.toNat = 255 ∨ t + 1 ≤ (times.sum + 1) * loop.toNat) := by omega
    exact ⟨hnodup, fun h => absurd h ht', fun _ => ⟨mt hkeeps.started.1 hnot, hkeeps.lit.trans hlit⟩⟩

theorem Follows.run (hp : Pattern times) (h : Follows times loop a t p) {is : List (LedInput α ω)}
    (hothers : ∀ i ∈ is, i.about ≠ some a) (hr : (ledPanel sw).run p is = some p') :
    Follows times loop a (t + is.countP LedInput.isTicks) p' := by
  induction is generalizing t p with
  | nil =>
    cases hr
    exact h
  | cons i is ih =>
    obtain ⟨m, hn, hlater⟩ := Option.bind_eq_some_iff.1 hr
    have hrest := fun j hj => hothers j (List.mem_cons_of_mem i hj)
    rw [List.countP_cons]
    cases hticks : i.isTicks with
    | true =>
      obtain rfl : i = .ticks := by
        cases i with
        | ticks => rfl
        | _ => cases hticks
      have hrun := ih (h.tick hp hn) hrest hlater
      rw [Nat.add_right_comm] at hrun
      exact hrun
    | false =>
      have hkeeps := next_keeps_others (hothers i List.mem_cons_self) hticks hn
      exact ih (h.keeps hkeeps (next_nodup h.nodup hn)) hrest hlater

/-- A light that is given a pattern and started. -/
theorem follows_start {blinkMode : List UInt8} (hnodup : p.started.Nodup) (hspells : Spells blinkMode times)
    (hp : Pattern times) : Follows times loop a 0 ((p.ledSetMode a loop blinkMode).ledStart a) := by
  have hlength : (blinkCount blinkMode).toNat = times.length := by
    rw [← length_ledGetBlinkArr, ← hspells.read, List.length_map]
  have hled : ((p.ledSetMode a loop blinkMode).ledStart a).leds a = (p.leds a).setMode loop blinkMode := by
    unfold LedPanel.ledStart
    dsimp only
    split <;> simp [LedPanel.ledSetMode, Led.setMode]
  have hmem : a ∈ ((p.ledSetMode a loop blinkMode).ledStart a).started := by
    unfold LedPanel.ledStart
    dsimp only
    split
    · assumption
    · exact List.mem_cons_self
  refine ⟨?_, fun _ => ⟨hmem, ?_⟩, fun h => absurd (Or.inr (Nat.zero_le _)) h⟩
  · exact @next_nodup _ _ (fun _ _ w => w) (p.ledSetMode a loop blinkMode) _ _ (.start a) hnodup rfl
  · rw [hled, Nat.zero_div, Nat.zero_mod]
    exact
      { blinkArr := hspells.read
        modeCnt := hlength
        loops := by
          change loop.toUInt16.toNat = _
          rw [UInt8.toNat_toUInt16]
          split <;> omega
        handleCnt := rfl
        pointer := Nat.zero_le _
        point := rfl
        inside := le_rfl
        ahead := fun m _ => shown_lit hp.nonzero true false _ m
        before := fun h => absurd h (lt_irrefl 0) }

/-- **What a light shows**: from its start on, whatever is done to other lights and
to the world meanwhile, it shows its times in turn, each round one tick longer than
they are, for as many rounds as it was given; with the tick behind them it is off
and out of the list. -/
theorem pattern_plays {blinkMode : List UInt8} (hreach : (ledPanel sw).Reachable p)
    (hspells : Spells blinkMode times) (hp : Pattern times) {is : List (LedInput α ω)}
    (hothers : ∀ i ∈ is, i.about ≠ some a)
    (hr : (ledPanel sw).run ((p.ledSetMode a loop blinkMode).ledStart a) is = some p') :
    let t := is.countP LedInput.isTicks
    if loop.toNat = 255 ∨ t ≤ (times.sum + 1) * loop.toNat then
      a ∈ p'.started ∧ (0 < t → p'.lit a = shown times true false ((t - 1) % (times.sum + 1)))
    else a ∉ p'.started ∧ p'.lit a = false := by
  intro t
  have hstarted := @follows_start _ _ p a times loop _ blinkMode (started_nodup hreach) hspells hp
  have hfollows := hstarted.run hp hothers hr
  rw [Nat.zero_add] at hfollows
  change Follows times loop a t p' at hfollows
  split
  · rename_i hrounds
    obtain ⟨hmem, hplays⟩ := hfollows.playing hrounds
    refine ⟨hmem, fun hpos => ?_⟩
    have hsplit := Nat.div_add_mod t (times.sum + 1)
    have hdiv := div_mod_succ (t - 1) times.sum
    rw [Nat.sub_add_cancel hpos] at hdiv
    by_cases hround : (t - 1) % (times.sum + 1) < times.sum
    · have hj := (hdiv.1 hround).2
      rw [hj] at hplays
      have hahead := hplays.ahead ((t - 1) % (times.sum + 1)) le_rfl
      rw [if_pos (Nat.lt_of_succ_le hplays.inside)] at hahead
      exact hahead.symm
    · obtain ⟨hk, hj⟩ := hdiv.2 hround
      rw [hk, hj] at hplays
      have hend : (t - 1) % (times.sum + 1) = times.sum := by
        have hlt := Nat.mod_lt (t - 1) (by omega : 0 < times.sum + 1)
        omega
      rw [hend]
      exact hplays.before (Nat.succ_pos _) rfl
  · rename_i hrounds
    exact hfollows.ended hrounds

end

theorem pattern_plays_sample :
    ∃ p, (ledPanel sampleSwitches).run ((samplePanel.ledSetMode true 2 (blinkText [50, 50])).ledStart true)
        [.ticks, .start false, .ticks, .ticks, .ticks] = some p ∧ true ∈ p.started ∧ p.lit true = true := by
  have hsome : ((ledPanel sampleSwitches).run ((samplePanel.ledSetMode true 2 (blinkText [50, 50])).ledStart true)
      [.ticks, .start false, .ticks, .ticks, .ticks]).isSome = true := by decide +kernel
  obtain ⟨p, hp⟩ := Option.isSome_iff_exists.1 hsome
  have hreach : (ledPanel sampleSwitches).Reachable samplePanel := Machine.reachable_start ⟨rfl, rfl, rfl⟩
  have hspells : Spells (blinkText [50, 50]) [1, 1] := ⟨by decide, by decide, by decide +kernel⟩
  have hplays := pattern_plays hreach hspells (by decide) (by simp [LedInput.about]) hp
  exact ⟨p, hp, hplays.1, hplays.2 (by decide)⟩

/-! Lights that share what they switch. -/

/-- Switching a light off darkens its channel, and no switch lights another one. -/
structure Wired {α ω χ : Type} (sw : LedSwitches α ω) (channel : α → χ) (on : χ → ω → Prop) : Prop where
  off : ∀ a w, ¬ on (channel a) (sw a false w)
  others : ∀ {a b} v w, channel b ≠ channel a → on (channel b) (sw a v w) → on (channel b) w

/-- A channel that is on belongs to a light in the list whose last switch was on. -/
def LedPanel.Explained {α ω χ : Type} (channel : α → χ) (on : χ → ω → Prop) (p : LedPanel α ω) : Prop :=
  ∀ a, on (channel a) p.world → ∃ b ∈ p.started, channel b = channel a ∧ p.lit b = true

section
variable {α ω χ : Type} {sw : LedSwitches α ω} {channel : α → χ} {on : χ → ω → Prop} {p p' : LedPanel α ω}

/-- A world in which a light is switched off last, then others. -/
theorem Wired.dark (hw : Wired sw channel on) {a : α} {as : List α} (h : a ∈ as) (w : ω) :
    ¬ on (channel a) (as.foldl (fun w b => sw b false w) w) := by
  have hstays : ∀ (as : List α) w, ¬ on (channel a) w → ¬ on (channel a) (as.foldl (fun w b => sw b false w) w) := by
    intro as
    induction as with
    | nil => exact fun w h => h
    | cons b as ih =>
      intro w h
      refine ih _ fun hon => ?_
      by_cases hb : channel a = channel b
      · exact hw.off b w (hb ▸ hon)
      · exact h (hw.others false w hb hon)
  induction as generalizing w with
  | nil => cases h
  | cons b as ih =>
    rcases List.mem_cons.1 h with rfl | h
    · exact hstays as _ (hw.off a w)
    · exact ih h _

variable [DecidableEq α]

theorem LedPanel.Explained.switched (hw : Wired sw channel on) (h : p.Explained channel on) {a : α}
    (hmem : a ∈ p.started) (v : Bool) : (p.switched sw a v).Explained channel on := by
  intro b hon
  by_cases hb : channel b = channel a
  · cases v with
    | true => exact ⟨a, hmem, hb.symm, Function.update_self ..⟩
    | false => exact absurd (hb ▸ hon) (hw.off a p.world)
  · obtain ⟨c, hc, hchannel, hlit⟩ := h b (hw.others v p.world hb hon)
    have hne : c ≠ a := fun heq => hb (hchannel.symm.trans (congrArg channel heq))
    exact ⟨c, hc, hchannel, (Function.update_of_ne hne ..).trans hlit⟩

theorem LedPanel.Explained.ledStop (hw : Wired sw channel on) (h : p.Explained channel on) (a : α) :
    (p.ledStop sw a).Explained channel on := by
  intro b hon
  have hb : channel b ≠ channel a := fun heq => hw.off a p.world (heq ▸ hon)
  obtain ⟨c, hc, hchannel, hlit⟩ := h b (hw.others false p.world hb hon)
  have hne : c ≠ a := fun heq => hb (hchannel.symm.trans (congrArg channel heq))
  have hkeeps : LedPanel.Keeps c p (p.ledStop sw a) := LedPanel.ledStop_keeps hne
  exact ⟨c, hkeeps.started.2 hc, hchannel, hkeeps.lit.trans hlit⟩

theorem LedPanel.Explained.ledHandle (hw : Wired sw channel on) (h : p.Explained channel on) {a : α}
    (hmem : a ∈ p.started) (hn : p.ledHandle sw a = some p') : p'.Explained channel on := by
  unfold LedPanel.ledHandle at hn
  split at hn
  · obtain ⟨r, -, rfl⟩ := Option.map_eq_some_iff.1 hn
    unfold LedPanel.handled
    split
    · exact LedPanel.Explained.switched (p := p.setLed a r.1) hw h hmem _
    · exact h
  · obtain rfl := Option.some_inj.1 hn
    exact h.ledStop hw a

theorem LedPanel.Explained.fold (hw : Wired sw channel on) (h : p.Explained channel on) {as : List α}
    (hnodup : as.Nodup) (hmem : ∀ a ∈ as, a ∈ p.started) (hn : as.foldlM (LedPanel.ledHandle sw) p = some p') :
    p'.Explained channel on := by
  induction as generalizing p with
  | nil =>
    obtain rfl := Option.some_inj.1 hn
    exact h
  | cons a as ih =>
    rw [List.foldlM_cons] at hn
    obtain ⟨m, hm, hn⟩ := Option.bind_eq_some_iff.1 hn
    obtain ⟨hnot, hnodup⟩ := List.nodup_cons.1 hnodup
    refine ih (h.ledHandle hw (hmem a List.mem_cons_self) hm) hnodup (fun b hb => ?_) hn
    have hne : b ≠ a := fun heq => hnot (heq ▸ hb)
    exact (LedPanel.ledHandle_keeps hne hm).started.2 (hmem b (List.mem_cons_of_mem a hb))

/-- A change of the world that lights a channel. -/
def LedInput.Lights (channel : α → χ) (on : χ → ω → Prop) : LedInput α ω → Prop
  | .other change => ∃ a w, on (channel a) (change w) ∧ ¬ on (channel a) w
  | _ => False

theorem LedPanel.Explained.next (hw : Wired sw channel on) (h : p.Explained channel on) (hnodup : p.started.Nodup)
    {i : LedInput α ω} (hi : ¬ i.Lights channel on) (hn : p.next sw i = some p') : p'.Explained channel on := by
  cases i with
  | setMode a loop blinkMode =>
    obtain rfl := Option.some_inj.1 hn
    exact h
  | start a =>
    obtain rfl := Option.some_inj.1 hn
    unfold LedPanel.ledStart
    dsimp only
    split
    · exact h
    · intro b hon
      obtain ⟨c, hc, hc'⟩ := h b hon
      exact ⟨c, List.mem_cons_of_mem a hc, hc'⟩
  | stop a =>
    obtain rfl := Option.some_inj.1 hn
    exact h.ledStop hw a
  | ticks => exact h.fold hw hnodup (fun a ha => ha) hn
  | other change =>
    obtain rfl := Option.some_inj.1 hn
    intro a hon
    exact h a (by_contra fun hdark => hi ⟨a, p.world, hon, hdark⟩)

theorem LedPanel.Explained.run (hw : Wired sw channel on) (h : p.Explained channel on) (hnodup : p.started.Nodup)
    {is : List (LedInput α ω)} (hi : ∀ i ∈ is, ¬ i.Lights channel on) (hr : (ledPanel sw).run p is = some p') :
    p'.Explained channel on := by
  have hstep : ∀ (s : LedPanel α ω) (i : LedInput α ω) (s' : LedPanel α ω),
      s.Explained channel on ∧ s.started.Nodup → ¬ i.Lights channel on → s.next sw i = some s' →
        s'.Explained channel on ∧ s'.started.Nodup :=
    fun s i s' hs hi hn => ⟨hs.1.next hw hs.2 hi hn, next_nodup hs.2 hn⟩
  exact (Machine.run_inv (M := ledPanel sw) hstep ⟨h, hnodup⟩ hi hr).1

end

/-! What holds of the world. -/

section
variable {α ω : Type} {sw : LedSwitches α ω} {P : ω → Prop} {p p' : LedPanel α ω} [DecidableEq α]

theorem ledHandle_world (hsw : ∀ a on w, P w → P (sw a on w)) (h : P p.world) {a : α}
    (hn : p.ledHandle sw a = some p') : P p'.world := by
  unfold LedPanel.ledHandle at hn
  split at hn
  · obtain ⟨r, -, rfl⟩ := Option.map_eq_some_iff.1 hn
    unfold LedPanel.handled
    split
    · exact hsw a _ p.world h
    · exact h
  · obtain rfl := Option.some_inj.1 hn
    exact hsw a false p.world h

theorem ledTicks_world (hsw : ∀ a on w, P w → P (sw a on w)) (h : P p.world)
    (hn : p.ledTicks sw = some p') : P p'.world := by
  have hstep : ∀ (s : LedPanel α ω) (a : α) (s' : LedPanel α ω),
      P s.world → True → s.ledHandle sw a = some s' → P s'.world :=
    fun s a s' hs _ hn => ledHandle_world hsw hs hn
  exact Machine.run_inv (M := LedPanel.ledLoop sw) hstep h (fun _ _ => trivial) hn

/-- A change of the world that keeps `P`, or none. -/
def LedInput.Keeps (P : ω → Prop) : LedInput α ω → Prop
  | .other change => ∀ w, P w → P (change w)
  | _ => True

theorem next_world (hsw : ∀ a on w, P w → P (sw a on w)) (h : P p.world) {i : LedInput α ω} (hi : i.Keeps P)
    (hn : p.next sw i = some p') : P p'.world := by
  cases i with
  | setMode a loop blinkMode =>
    obtain rfl := Option.some_inj.1 hn
    exact h
  | start a =>
    obtain rfl := Option.some_inj.1 hn
    unfold LedPanel.ledStart
    dsimp only
    split <;> exact h
  | stop a =>
    obtain rfl := Option.some_inj.1 hn
    exact hsw a false p.world h
  | ticks => exact ledTicks_world hsw h hn
  | other change =>
    obtain rfl := Option.some_inj.1 hn
    exact hi p.world h

/-- What the switch functions and the other changes keep holds along a run. -/
theorem world_run (hsw : ∀ a on w, P w → P (sw a on w)) (h : P p.world) {is : List (LedInput α ω)}
    (hkeeps : ∀ i ∈ is, i.Keeps P) (hr : (ledPanel sw).run p is = some p') : P p'.world := by
  have hstep : ∀ (s : LedPanel α ω) (i : LedInput α ω) (s' : LedPanel α ω),
      P s.world → i.Keeps P → s.next sw i = some s' → P s'.world := fun s i s' hs hi hn => next_world hsw hs hi hn
  exact Machine.run_inv (M := ledPanel sw) hstep h hkeeps hr

end

end Aqualarm
