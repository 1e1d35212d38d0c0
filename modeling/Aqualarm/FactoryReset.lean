import Aqualarm.Board
import Aqualarm.Retransmission

/-
  The factory reset: both keys held erase what is stored and reset the unit
  (`key_on_off_long_click_handle`).

  What is proved: `factory_reset_held` — in every run of the firmware, a factory
  reset comes at a sample of a key that sees it pressed, as every sample since its
  press did, five seconds ago or more; the other one was seen pressed four seconds
  after its press, and in every sample since the press but perhaps its newest.
-/

namespace Aqualarm

open Lib

/-! The counters of key.c. -/

namespace Key

def other : Key → Key
  | .on => .off
  | .off => .on

/-- `key_on_count` and `key_off_count`. -/
def count : Key → Keys → Nat
  | .on, keys => keys.keyOnCount
  | .off, keys => keys.keyOffCount

end Key

section
variable {s : State} {e : Event} {rx : RxFrame}

theorem dispatch_key (hend : ¬ rx.OtaEnd s.unit) : (radioFrameDispatch rx s).key = s.key := by
  unfold radioFrameDispatch
  by_cases hg : rx.deviceType = deviceTypeGateway
  · rw [if_neg (by rw [hg]; decide), if_neg (by rw [hg]; decide), if_neg (by rw [hg]; decide), if_pos hg]
    by_cases hup : rx.Updates s.unit
    · have hreg := aqDeviceFind_isSome.2 hup.fromListed.listed
      have hsub : rx.rxData 2 ≠ 3 := fun h₃ => hend ⟨hg, hup.command, h₃, hup.fromListed.toUnit, hreg⟩
      have hparse := dispatch_update hg hup.command hup.fromListed.toUnit hreg
      unfold radioFrameDispatch at hparse
      rw [if_neg (by rw [hg]; decide), if_neg (by rw [hg]; decide), if_neg (by rw [hg]; decide), if_pos hg] at hparse
      rw [hparse, gatewayParseOta_eq, if_neg hsub]
      have honOta : ∀ (f : Ota → Option OtaReply × Ota) (s : State), (s.onOta f).key = s.key := by
        intro f s
        unfold State.onOta
        dsimp only
        split <;> rfl
      split_ifs
      · exact honOta _ _
      · exact honOta _ _
      · rfl
    · by_cases hfrom : rx.FromListed s.unit
      · have hcmd : rx.rxData 0 ≠ firmwareUpdateCmd := fun h => hup ⟨hg, h, hfrom⟩
        unfold radioFrameGatewayParse
        simp only [if_neg hcmd]
        split_ifs <;> rfl
      · rw [gatewayParse_other hfrom]
        split <;> rfl
  · rw [if_neg hg]
    split_ifs
    any_goals rfl
    unfold radioFrameFactoryParse
    split_ifs <;> rfl

/-- Where the unit is not reset, both keys held do nothing. -/
theorem longClick_keeps (hno : ¬ (s.key.keyOnCount > 3 ∧ s.key.keyOffCount > 3 ∧ s.key.keyOnOffFlag = false)) :
    keyOnOffLongClickHandle s = s := by
  unfold keyOnOffLongClickHandle
  split
  · rename_i hcounts
    rw [if_neg fun hflag => hno ⟨hcounts.1, hcounts.2, hflag⟩]
  · rfl

theorem count_hold (k : Key) (hno : k.hold.resetsUnit s = false) :
    k.count (k.hold.handle s).key = (if k.count s.key < 4 then k.count s.key + 1 else k.count s.key) ∧
      k.other.count (k.hold.handle s).key = k.other.count s.key := by
  have hkeeps : keyOnOffLongClickHandle s = s := by
    apply longClick_keeps
    cases k <;> exact of_decide_eq_false hno
  cases k with
  | on =>
    change Key.on.count (keyOnLongHoldHandle s).key = _ ∧ Key.off.count (keyOnLongHoldHandle s).key = _
    unfold keyOnLongHoldHandle
    rw [hkeeps]
    change _ = (if s.key.keyOnCount < 4 then _ else _) ∧ _
    split
    · exact ⟨rfl, rfl⟩
    · split_ifs <;> exact ⟨rfl, rfl⟩
  | off =>
    change Key.off.count (keyOffLongHoldHandle s).key = _ ∧ Key.on.count (keyOffLongHoldHandle s).key = _
    unfold keyOffLongHoldHandle
    rw [hkeeps]
    change _ = (if s.key.keyOffCount < 4 then _ else _) ∧ _
    split
    · exact ⟨rfl, rfl⟩
    · split_ifs <;> exact ⟨rfl, rfl⟩

theorem count_free (k : Key) :
    k.count (k.free.handle s).key = 0 ∧ k.other.count (k.free.handle s).key = k.other.count s.key := by
  cases k <;> exact ⟨rfl, rfl⟩

/-- No other event counts. -/
theorem handle_key (hno : e.resetsUnit s = false) (hother : ∀ k : Key, e ≠ k.hold ∧ e ≠ k.free) :
    (e.handle s).key = s.key := by
  cases e with
  | radio rssi snr data len =>
    rw [Event.handle, radioProtocolParse_eq]
    split
    · rename_i hacc
      exact dispatch_key fun hend => of_decide_eq_false hno ⟨hacc, hend⟩
    · rfl
  | keyOnLongHold => exact absurd rfl (hother .on).1
  | keyOnLongFree => exact absurd rfl (hother .on).2
  | keyOffLongHold => exact absurd rfl (hother .off).1
  | keyOffLongFree => exact absurd rfl (hother .off).2
  | modbusCoils reg usAddress usNCoils =>
    unfold Event.handle mbWriteCoils
    dsimp only
    split
    · split
      · rfl
      · split
        · unfold mbValveSingleControlWriteCallback
          split <;> rfl
        · rfl
    · rfl
  | modbusHolding reg usAddress usNRegs =>
    unfold Event.handle mbWriteHolding
    dsimp only
    split
    · split
      · rfl
      · split <;> rfl
    · rfl
  | dryContact level =>
    unfold Event.handle dryContactPollingTimerCallback
    dsimp only
    split <;> rfl
  | reboot => cases hno
  | keyOnClick | keyOffClick | rtcValveCheck | rtcDeviceHeartCheck | rtcGatewayHeartCheck | heartConnectStart
  | heartUpload | rfAckInit | timer t => rfl

theorem longClick_resets (h : s.key.keyOnCount > 3 ∧ s.key.keyOffCount > 3 ∧ s.key.keyOnOffFlag = false) :
    (keyOnOffLongClickHandle s).key = {} := by
  unfold keyOnOffLongClickHandle
  rw [if_pos ⟨h.1, h.2.1⟩, if_pos h.2.2]
  rfl

/-- A reset clears the counters. -/
theorem key_reset (hreset : e.resetsUnit s = true) : (e.handle s).key = {} := by
  cases e with
  | radio rssi snr data len =>
    obtain ⟨hacc, hend⟩ := of_decide_eq_true hreset
    rw [Event.handle, radioProtocolParse_eq, if_pos hacc, hend.dispatch]
    rfl
  | keyOnLongHold =>
    have hcounts : s.key.keyOnCount > 3 ∧ s.key.keyOffCount > 3 ∧ s.key.keyOnOffFlag = false := of_decide_eq_true hreset
    change (keyOnLongHoldHandle s).key = {}
    unfold keyOnLongHoldHandle
    rw [if_neg (by omega), if_pos (by omega)]
    exact longClick_resets hcounts
  | keyOffLongHold =>
    have hcounts : s.key.keyOnCount > 3 ∧ s.key.keyOffCount > 3 ∧ s.key.keyOnOffFlag = false := of_decide_eq_true hreset
    change (keyOffLongHoldHandle s).key = {}
    unfold keyOffLongHoldHandle
    rw [if_neg (by omega), if_pos (by omega)]
    exact longClick_resets hcounts
  | reboot => rfl
  | _ => cases hreset

end

/-! A key that is held. -/

/-- The time of a press is later than the one before, on a clock that may wrap once. -/
theorem heldFor_mono {p a b : Nat} (hpa : p ≤ a) (hab : a ≤ b) (hb : b < p + 4294967296) :
    (heldFor (UInt32.ofNat a) (UInt32.ofNat p)).toNat ≤ (heldFor (UInt32.ofNat b) (UInt32.ofNat p)).toNat := by
  rcases hab.eq_or_lt with rfl | hlt
  · exact le_rfl
  · have hle := (heldFor_le hpa (by omega : a < p + 4294967296)).1
    have hge := (heldFor_le (by omega : p ≤ b) hb).2
    omega

/-- The samples later than `since` all saw the key pressed. -/
def PressedSince (since : Nat) (samples : List (Nat × Bool)) : Prop := ∀ x ∈ samples, since < x.1 → x.2 = true

/-- The press reported in the sample at `since` was counted `count` times up to the
sample at `last`; `samples` are all, `held` those in which the key is still held. -/
structure HeldFrom (boot count since last : Nat) (samples held : List (Nat × Bool)) : Prop where
  booted : boot ≤ since
  reported : ∃ read, (since, read) ∈ samples
  le : since ≤ last
  newest : ∃ x ∈ samples.head?, last ≤ x.1
  seen : 0 < count → (last, true) ∈ samples
  pressed : PressedSince since held
  counted : since + 1000 * count ≤ last

/-- What a key's counter says about its samples: while the button counts a hold,
`count` seconds have gone by from `since`, the start of the press, to `last`, the
latest hold; a counter that is left when the button is let go was reached before. -/
structure Counted (k : Key) (p : State × Board) : Prop where
  bound : k.count p.1.key ≤ 4
  cycle : (p.2.btn k).holdCycleTime = 1000
  booted : p.2.boot ≤ p.2.time
  sampled : ∀ x ∈ p.2.scans k, x.1 ≤ p.2.time
  idle : (p.2.btn k).state ≠ .pressHold → (p.2.btn k).state ≠ .holdFree → k.count p.1.key = 0
  flag : (p.2.btn k).state = .pressHold → k.count p.1.key ≠ 0 → (p.2.btn k).holdFlag = true
  held : (p.2.btn k).state = .pressHold → ∃ since last,
    HeldFrom p.2.boot (k.count p.1.key) since last (p.2.scans k) (p.2.scans k) ∧
    (p.2.btn k).tickTimeout = UInt32.ofNat (since - p.2.boot) ∧
    (since + 4294967296 ≤ last ∨
      (p.2.btn k).prevHoldTime =
          heldFor (UInt32.ofNat (last - p.2.boot)) (UInt32.ofNat (since - p.2.boot)) ∧
        1000 * k.count p.1.key ≤ (p.2.btn k).prevHoldTime.toNat)
  left : (p.2.btn k).state = .holdFree → ∃ since last,
    HeldFrom p.2.boot (k.count p.1.key) since last (p.2.scans k) (p.2.scans k).tail

/-- Nothing is counted while the button is not held. -/
theorem Counted.resting {k : Key} {p : State × Board} (hkey : k.count p.1.key = 0)
    (hcycle : (p.2.btn k).holdCycleTime = 1000) (hboot : p.2.boot ≤ p.2.time)
    (hsampled : ∀ x ∈ p.2.scans k, x.1 ≤ p.2.time)
    (hstate : (p.2.btn k).state ≠ .pressHold ∧ (p.2.btn k).state ≠ .holdFree) : Counted k p where
  bound := by omega
  cycle := hcycle
  booted := hboot
  sampled := hsampled
  idle _ _ := hkey
  flag h := absurd h hstate.1
  held h := absurd h hstate.1
  left h := absurd h hstate.2

/-- Time goes by, and what is counted and sampled stays. -/
theorem Counted.frame {k : Key} {p p' : State × Board} (h : Counted k p) (hkey : k.count p'.1.key = k.count p.1.key)
    (hbtn : p'.2.btn k = p.2.btn k) (hboot : p'.2.boot = p.2.boot) (htime : p.2.time ≤ p'.2.time)
    (hscans : p'.2.scans k = p.2.scans k) : Counted k p' where
  bound := hkey ▸ h.bound
  cycle := hbtn ▸ h.cycle
  booted := hboot ▸ h.booted.trans htime
  sampled x hx := (h.sampled x (hscans ▸ hx)).trans htime
  idle := by
    rw [hkey, hbtn]
    exact h.idle
  flag := by
    rw [hkey, hbtn]
    exact h.flag
  held := by
    rw [hkey, hbtn, hboot, hscans]
    exact h.held
  left := by
    rw [hkey, hbtn, hboot, hscans]
    exact h.left

theorem process_cycle (active : Bool) (now : UInt32) (btn : AgileBtn) :
    (agileBtnProcess active now btn).1.holdCycleTime = btn.holdCycleTime := by
  cases hstate : btn.state with
  | nonePress =>
    cases active with
    | true => rw [process_nonePress_active now hstate]
    | false => rw [process_nonePress_idle now hstate]
  | checkPress =>
    cases active with
    | true => rw [process_checkPress_active now hstate]
    | false => rw [process_checkPress_idle now hstate]
  | pressDown => rw [process_pressDown now hstate]
  | pressHold =>
    cases active with
    | true =>
      rw [process_pressHold_active now hstate]
      split <;> rfl
    | false => rw [process_pressHold_idle now hstate]
  | holdFree => rw [process_holdFree now hstate]
  | pressUp => rw [process_pressUp now hstate]

/-! What one input makes of the counters. -/

theorem job_key {e : Event} (h : e.Job) (s : State) : e.resetsUnit s = false ∧ (e.handle s).key = s.key := by
  rcases h with rfl | rfl | rfl <;> exact ⟨rfl, rfl⟩

theorem jobs_key {cfg : Config} {s s' : State} {env : Env} {es : List Event} (hjobs : ∀ e ∈ es, e.Job)
    (hrun : (system cfg).run s (es.map (env, ·)) = some s') : s'.key = s.key := by
  induction es generalizing s with
  | nil =>
    cases hrun
    rfl
  | cons e es ih =>
    obtain ⟨m, hn, hr⟩ := Option.bind_eq_some_iff.1 hrun
    obtain ⟨-, rfl⟩ := system_next_eq_some.1 hn
    exact (ih (fun e he => hjobs e (List.mem_cons_of_mem _ he)) hr).trans (job_key (hjobs e List.mem_cons_self) _).2

/-- What a step that does not reset the unit does to a counter. -/
def Counts (k : Key) (es : List Event) (c c' : Nat) : Prop :=
  (es = [k.hold] → c' = if c < 4 then c + 1 else c) ∧ (es = [k.free] → c' = 0) ∧
    (es ≠ [k.hold] → es ≠ [k.free] → c' = c)

theorem counts_event {s : State} {e : Event} (hno : e.resetsUnit s = false) (k : Key) :
    Counts k [e] (k.count s.key) (k.count (e.handle s).key) := by
  have hdiff : k.hold ≠ k.free := by cases k <;> intro h <;> cases h
  have hne : ∀ {a b : Event}, a ≠ b → [a] ≠ [b] := fun hab h => hab (List.cons.inj h).1
  by_cases hkey : ∃ k' : Key, e = k'.hold ∨ e = k'.free
  · obtain ⟨k', rfl | rfl⟩ := hkey
    · have hcount := count_hold k' hno
      by_cases hk : k' = k
      · subst hk
        exact ⟨fun _ => hcount.1, fun h => absurd h (hne hdiff), fun h => absurd rfl h⟩
      · obtain rfl : k = k'.other := by cases k <;> cases k' <;> first | rfl | exact absurd rfl hk
        have hother : k'.hold ≠ k'.other.hold ∧ k'.hold ≠ k'.other.free := by
          cases k' <;> exact ⟨by simp [Key.hold, Key.other], by simp [Key.hold, Key.free, Key.other]⟩
        exact ⟨fun h => absurd h (hne hother.1), fun h => absurd h (hne hother.2), fun _ _ => hcount.2⟩
    · have hcount := @count_free s k'
      by_cases hk : k' = k
      · subst hk
        exact ⟨fun h => absurd h (hne hdiff.symm), fun _ => hcount.1, fun _ h => absurd rfl h⟩
      · obtain rfl : k = k'.other := by cases k <;> cases k' <;> first | rfl | exact absurd rfl hk
        have hother : k'.free ≠ k'.other.hold ∧ k'.free ≠ k'.other.free := by
          cases k' <;> exact ⟨by simp [Key.hold, Key.free, Key.other], by simp [Key.free, Key.other]⟩
        exact ⟨fun h => absurd h (hne hother.1), fun h => absurd h (hne hother.2), fun _ _ => hcount.2⟩
  · have hother : ∀ k : Key, e ≠ k.hold ∧ e ≠ k.free := fun k =>
      ⟨fun h => hkey ⟨k, Or.inl h⟩, fun h => hkey ⟨k, Or.inr h⟩⟩
    have hsame : k.count (e.handle s).key = k.count s.key := by rw [handle_key hno hother]
    exact ⟨fun h => absurd h (hne (hother k).1), fun h => absurd h (hne (hother k).2), fun _ _ => hsame⟩

/-- A step of the firmware resets the unit, or a counter follows its events. -/
theorem step_key {cfg : Config} {p p' : State × Board} {i : Env × BoardInput} (hn : (firmware cfg).next p i = some p') :
    let s := p.1.onUnit (MainUnit.begin i.1)
    (∃ b es, p.2.react s i.2 = some (b, es) ∧ p'.1.key = {} ∧ p'.2 = b.restart) ∨
      ∃ es, p.2.react s i.2 = some (p'.2, es) ∧ es.any (·.resetsUnit s) = false ∧
        ∀ k : Key, Counts k es (k.count p.1.key) (k.count p'.1.key) := by
  intro s
  obtain ⟨b, es, -, hreact, hb, hrun⟩ := firmware_next_eq_some.1 hn
  have hsame : ∀ k : Key, (∀ e : Event, es ≠ [e]) ∨ (∀ e ∈ es, e.Job) → p'.1.key = p.1.key →
      Counts k es (k.count p.1.key) (k.count p'.1.key) := by
    intro k hes hkey
    have hnot : ∀ k : Key, es ≠ [k.hold] ∧ es ≠ [k.free] := by
      intro k
      rcases hes with hes | hes
      · exact ⟨hes _, hes _⟩
      · constructor
        · rintro rfl
          cases k <;> rcases hes _ List.mem_cons_self with h | h | h <;> cases h
        · rintro rfl
          cases k <;> rcases hes _ List.mem_cons_self with h | h | h <;> cases h
    exact ⟨fun h => absurd h (hnot k).1, fun h => absurd h (hnot k).2, fun _ _ => by rw [hkey]⟩
  rcases react_events hreact with rfl | ⟨e, rfl⟩ | hjobs
  · refine Or.inr ⟨[], by rw [hreact]; exact congrArg (fun b => some (b, _)) hb.symm, rfl, fun k => ?_⟩
    exact hsame k (Or.inl fun e h => by cases h) (congrArg State.key (Option.some_inj.1 hrun).symm)
  · have hhandle := enabled_of_handles hrun
    by_cases hreset : e.resetsUnit s = true
    · refine Or.inl ⟨b, [e], hreact, ?_, ?_⟩
      · rw [hhandle]
        exact key_reset hreset
      · rw [hb]
        exact if_pos (by rw [List.any_cons]; exact Bool.or_eq_true_iff.2 (Or.inl hreset))
    · have hno := Bool.eq_false_of_not_eq_true hreset
      have hany : [e].any (·.resetsUnit s) = false := by rw [List.any_cons, hno]; rfl
      refine Or.inr ⟨[e], ?_, hany, fun k => ?_⟩
      · rw [hreact, hb]
        exact congrArg (fun b => some (b, [e])) (if_neg (by rw [hany]; decide)).symm
      · rw [hhandle]
        exact counts_event hno k
  · have hany : es.any (·.resetsUnit s) = false := by
      rw [List.any_eq_false]
      exact fun e he => by rw [(job_key (hjobs e he) s).1]; decide
    refine Or.inr ⟨es, ?_, hany, fun k => hsame k (Or.inr hjobs) (jobs_key hjobs hrun)⟩
    rw [hreact, hb]
    exact congrArg (fun b => some (b, es)) (if_neg (by rw [hany]; decide)).symm

theorem pressedSince_cons {since t : Nat} {active : Bool} {samples : List (Nat × Bool)} (hactive : active = true)
    (h : PressedSince since samples) : PressedSince since ((t, active) :: samples) := by
  intro x hx hlt
  rcases List.mem_cons.1 hx with rfl | hx
  · exact hactive
  · exact h x hx hlt

/-- One more sample, with the button held as before. -/
theorem HeldFrom.sample {boot count since last t : Nat} {active : Bool} {samples held : List (Nat × Bool)}
    (h : HeldFrom boot count since last samples samples) (hlater : ∀ x ∈ samples, x.1 ≤ t)
    (hpressed : PressedSince since held) : HeldFrom boot count since last ((t, active) :: samples) held where
  booted := h.booted
  reported := h.reported.imp fun _ hmem => List.mem_cons_of_mem _ hmem
  le := h.le
  newest := by
    obtain ⟨x, hx, hle⟩ := h.newest
    exact ⟨_, rfl, hle.trans (hlater x (List.mem_of_mem_head? hx))⟩
  seen hcount := List.mem_cons_of_mem _ (h.seen hcount)
  pressed := hpressed
  counted := h.counted

theorem add_le_of_held {boot since time n : Nat} (hboot : boot ≤ since) (hsince : since ≤ time)
    (h : n ≤ time - boot - (since - boot)) : since + n ≤ time := by
  omega

/-- The next hold is counted a second later, even where the clock has wrapped. -/
theorem Counted.nextHold {k : Key} {p : State × Board} (h : Counted k p) (hstate : (p.2.btn k).state = .pressHold)
    (htime : (p.2.btn k).holdCycleTime ≤
      heldFor (UInt32.ofNat (p.2.time - p.2.boot)) (p.2.btn k).tickTimeout - (p.2.btn k).prevHoldTime) :
    ∃ since, HeldFrom p.2.boot (k.count p.1.key + 1) since p.2.time ((p.2.time, true) :: p.2.scans k)
        ((p.2.time, true) :: p.2.scans k) ∧
      (p.2.btn k).tickTimeout = UInt32.ofNat (since - p.2.boot) ∧
      (since + 4294967296 ≤ p.2.time ∨
        1000 * (k.count p.1.key + 1) ≤
          (heldFor (UInt32.ofNat (p.2.time - p.2.boot)) (UInt32.ofNat (since - p.2.boot))).toNat) := by
  obtain ⟨since, last, hheld, htick, hcase⟩ := h.held hstate
  obtain ⟨x, hx, hnewest⟩ := hheld.newest
  have hlast : last ≤ p.2.time := hnewest.trans (h.sampled x (List.mem_of_mem_head? hx))
  have hsince := hheld.le
  have hboot := hheld.booted
  have hbound := h.bound
  -- what is left is that the count is reached
  suffices hreach : since + 1000 * (k.count p.1.key + 1) ≤ p.2.time ∧
      (since + 4294967296 ≤ p.2.time ∨
        1000 * (k.count p.1.key + 1) ≤
          (heldFor (UInt32.ofNat (p.2.time - p.2.boot)) (UInt32.ofNat (since - p.2.boot))).toNat) from
    ⟨since,
      { booted := hboot
        reported := hheld.reported.imp fun _ hmem => List.mem_cons_of_mem _ hmem
        le := hsince.trans hlast
        newest := ⟨_, rfl, le_rfl⟩
        seen := fun _ => List.mem_cons_self
        pressed := pressedSince_cons rfl hheld.pressed
        counted := hreach.1 }, htick, hreach.2⟩
  clear hnewest hx
  by_cases hlong : since + 4294967296 ≤ p.2.time
  · have hfew : 1000 * (k.count p.1.key + 1) ≤ 4294967296 := by
      clear hlong hcase
      omega
    exact ⟨(Nat.add_le_add_left hfew since).trans hlong, Or.inl hlong⟩
  · have hclose : p.2.time - p.2.boot < since - p.2.boot + 4294967296 := by
      clear hcase
      omega
    obtain ⟨hprev, hcount'⟩ := hcase.resolve_left (by omega)
    clear hcase hlong
    have hmono := @heldFor_mono (since - p.2.boot) (last - p.2.boot) (p.2.time - p.2.boot) (by omega) (by omega)
      hclose
    have hle := (@heldFor_le (since - p.2.boot) (p.2.time - p.2.boot) (by omega) hclose).1
    rw [h.cycle, htick, hprev, UInt32.le_iff_toNat_le, UInt32.toNat_sub_of_le _ _ (UInt32.le_iff_toNat_le.2 hmono)]
      at htime
    rw [hprev] at hcount'
    have hmore : 1000 * (k.count p.1.key + 1) ≤
        (heldFor (UInt32.ofNat (p.2.time - p.2.boot)) (UInt32.ofNat (since - p.2.boot))).toNat := by
      calc 1000 * (k.count p.1.key + 1) = 1000 * k.count p.1.key + 1000 := Nat.mul_succ _ _
        _ ≤ _ := Nat.add_le_of_le_sub' hmono htime |>.trans' (Nat.add_le_add_right hcount' 1000)
    refine ⟨?_, Or.inr hmore⟩
    exact add_le_of_held hboot (hsince.trans hlast) (hmore.trans hle)

/-! A sample of the key, by what the button makes of it. -/

/-- The sample is recorded, and the clock stands still. -/
structure SampleStep (k : Key) (active : Bool) (p p' : State × Board) : Prop where
  btn : p'.2.btn k = (agileBtnProcess active (UInt32.ofNat (p.2.time - p.2.boot)) (p.2.btn k)).1
  scans : p'.2.scans k = (p.2.time, active) :: p.2.scans k
  boot : p'.2.boot = p.2.boot
  time : p'.2.time = p.2.time

theorem sampleStep_of_scanned {k : Key} {active : Bool} {p p' : State × Board}
    (hboard : p'.2 = (p.2.scanned k active).1) : SampleStep k active p p' where
  btn := by
    rw [hboard]
    exact Function.update_self ..
  scans := by
    rw [hboard]
    exact Function.update_self ..
  boot := by rw [hboard]; rfl
  time := by rw [hboard]; rfl

section
variable {k : Key} {active : Bool} {p p' : State × Board}

theorem SampleStep.booted (hstep : SampleStep k active p p') (h : Counted k p) : p'.2.boot ≤ p'.2.time := by
  rw [hstep.boot, hstep.time]
  exact h.booted

theorem SampleStep.cycle (hstep : SampleStep k active p p') (h : Counted k p) :
    (p'.2.btn k).holdCycleTime = 1000 := by
  rw [hstep.btn, process_cycle, h.cycle]

theorem SampleStep.sampled (hstep : SampleStep k active p p') (h : Counted k p) :
    ∀ x ∈ p'.2.scans k, x.1 ≤ p'.2.time := by
  rw [hstep.scans, hstep.time]
  intro x hx
  rcases List.mem_cons.1 hx with rfl | hx
  · exact le_rfl
  · exact h.sampled x hx

/-- The press is reported. -/
theorem Counted.pressed (h : Counted k p) (hstep : SampleStep k active p p') (hzero : k.count p'.1.key = 0)
    (hstate' : (p'.2.btn k).state = .pressHold)
    (htick : (p'.2.btn k).tickTimeout = UInt32.ofNat (p.2.time - p.2.boot)) (hprev : (p'.2.btn k).prevHoldTime = 0) :
    Counted k p' where
  bound := by omega
  cycle := hstep.cycle h
  booted := hstep.booted h
  sampled := hstep.sampled h
  idle hne := absurd hstate' hne
  flag _ hne := absurd hzero hne
  held _ := by
    have hstart : heldFor (UInt32.ofNat (p.2.time - p.2.boot)) (UInt32.ofNat (p.2.time - p.2.boot)) = 0 := by
      unfold heldFor
      rw [if_neg (UInt32.lt_irrefl _), UInt32.sub_self]
    have hsampled := hstep.sampled h
    rw [hstep.time] at hsampled
    refine ⟨p.2.time, p.2.time, ?_, by rw [hstep.boot, htick], Or.inr ⟨by rw [hprev, hstep.boot, hstart], by omega⟩⟩
    exact
      { booted := hstep.boot ▸ h.booted
        reported := ⟨active, by rw [hstep.scans]; exact List.mem_cons_self⟩
        le := le_rfl
        newest := by rw [hstep.scans]; exact ⟨_, rfl, le_rfl⟩
        seen := fun hpos => absurd hzero (Nat.ne_of_gt hpos)
        pressed := fun x hx hlt => absurd (hsampled x hx) (Nat.not_le.2 hlt)
        counted := by rw [hzero]; omega }
  left hc := by rw [hstate'] at hc; cases hc

/-- The key is held, for less than another second. -/
theorem Counted.holding (h : Counted k p) (hstep : SampleStep k active p p')
    (hkept : k.count p'.1.key = k.count p.1.key) (hstate : (p.2.btn k).state = .pressHold) (hactive : active = true)
    {t : UInt32} (hb : p'.2.btn k = { p.2.btn k with holdTime := t }) : Counted k p' := by
  have hstate' : (p'.2.btn k).state = .pressHold := by rw [hb]; exact hstate
  obtain ⟨since, last, hheld, htick, hprev⟩ := h.held hstate
  exact
    { bound := hkept ▸ h.bound
      cycle := hstep.cycle h, booted := hstep.booted h, sampled := hstep.sampled h
      idle := fun h => absurd hstate' h
      flag := fun _ hne => by rw [hb]; exact h.flag hstate (hkept ▸ hne)
      held := fun _ => by
        rw [hkept, hstep.boot, hstep.scans, hb]
        exact ⟨since, last, hheld.sample h.sampled (pressedSince_cons hactive hheld.pressed), htick, hprev⟩
      left := fun hc => by rw [hstate'] at hc; cases hc }

/-- Another second of the hold is counted. -/
theorem Counted.hold (h : Counted k p) (hstep : SampleStep k active p p')
    (hcount : k.count p'.1.key = if k.count p.1.key < 4 then k.count p.1.key + 1 else k.count p.1.key)
    (hstate : (p.2.btn k).state = .pressHold) (hactive : active = true)
    (htime : (p.2.btn k).holdCycleTime ≤
      heldFor (UInt32.ofNat (p.2.time - p.2.boot)) (p.2.btn k).tickTimeout - (p.2.btn k).prevHoldTime)
    (hb : p'.2.btn k = { p.2.btn k with
      holdTime := heldFor (UInt32.ofNat (p.2.time - p.2.boot)) (p.2.btn k).tickTimeout
      prevHoldTime := heldFor (UInt32.ofNat (p.2.time - p.2.boot)) (p.2.btn k).tickTimeout
      holdFlag := true }) : Counted k p' := by
  have hstate' : (p'.2.btn k).state = .pressHold := by rw [hb]; exact hstate
  have hbound := h.bound
  obtain ⟨since, hheld, htick, hprev⟩ := h.nextHold hstate htime
  have hmore : k.count p'.1.key ≤ k.count p.1.key + 1 := by rw [hcount]; split <;> omega
  have hreached := hheld.counted
  subst hactive
  exact
    { bound := by rw [hcount]; split <;> omega
      cycle := hstep.cycle h, booted := hstep.booted h, sampled := hstep.sampled h
      idle := fun h => absurd hstate' h
      flag := fun _ _ => by rw [hb]
      held := fun _ => by
        rw [hstep.boot, hstep.scans, hb]
        refine ⟨since, p.2.time, ?_, htick, hprev.imp id fun hprev => ⟨by rw [htick], ?_⟩⟩
        · exact { hheld with
            seen := fun _ => List.mem_cons_self
            counted := by omega }
        · dsimp only
          rw [htick]
          omega
      left := fun hc => by rw [hstate'] at hc; cases hc }

/-- The key is let go. -/
theorem Counted.released (h : Counted k p) (hstep : SampleStep k active p p')
    (hkept : k.count p'.1.key = k.count p.1.key) (hstate : (p.2.btn k).state = .pressHold)
    (hstate' : (p'.2.btn k).state = if (p.2.btn k).holdFlag then .holdFree else .pressUp) : Counted k p' := by
  obtain ⟨since, last, hheld, -, -⟩ := h.held hstate
  by_cases hflag : (p.2.btn k).holdFlag = true
  · rw [if_pos hflag] at hstate'
    exact
      { bound := hkept ▸ h.bound
        cycle := hstep.cycle h, booted := hstep.booted h, sampled := hstep.sampled h
        idle := fun _ h => absurd hstate' h
        flag := fun hc => by rw [hstate'] at hc; cases hc
        held := fun hc => by rw [hstate'] at hc; cases hc
        left := fun _ => by
          rw [hkept, hstep.boot, hstep.scans]
          exact ⟨since, last, hheld.sample h.sampled hheld.pressed⟩ }
  · rw [if_neg hflag] at hstate'
    have hzero : k.count p.1.key = 0 := by
      by_contra hne
      exact hflag (h.flag hstate hne)
    exact .resting (hkept.trans hzero) (hstep.cycle h) (hstep.booted h) (hstep.sampled h) (by rw [hstate']; decide)

theorem Counted.scan (h : Counted k p) (hboard : p'.2 = (p.2.scanned k active).1)
    (hcounts : Counts k (p.2.scanned k active).2 (k.count p.1.key) (k.count p'.1.key)) : Counted k p' := by
  have hstep := sampleStep_of_scanned hboard
  have hcase := sampled_process k active (UInt32.ofNat (p.2.time - p.2.boot)) (p.2.btn k)
  rw [← hstep.btn] at hcase
  change Sampled k active _ _ _ (p.2.scanned k active).2 at hcase
  generalize (p.2.scanned k active).2 = es at hcase hcounts
  obtain ⟨hhold, hfree, hsame⟩ := hcounts
  have hnil : es = [] → k.count p'.1.key = k.count p.1.key := by
    rintro rfl
    exact hsame (by simp) (by simp)
  cases hcase with
  | waiting hstate hstate' hes =>
    have hkept : k.count p'.1.key = k.count p.1.key := by
      rcases hes with rfl | rfl
      · exact hnil rfl
      · exact hsame (by cases k <;> simp [Key.click, Key.hold]) (by cases k <;> simp [Key.click, Key.free])
    exact .resting (hkept.trans (h.idle hstate.1 hstate.2)) (hstep.cycle h) (hstep.booted h) (hstep.sampled h) hstate'
  | pressed hstate hstate' htick hprev =>
    have hzero : k.count p'.1.key = 0 :=
      (hnil rfl).trans (h.idle (by rw [hstate]; decide) (by rw [hstate]; decide))
    exact h.pressed hstep hzero hstate' htick hprev
  | holding hstate hactive t hb => exact h.holding hstep (hnil rfl) hstate hactive hb
  | held hstate hactive htime hb => exact h.hold hstep (hhold rfl) hstate hactive htime hb
  | released hstate hactive hstate' => exact h.released hstep (hnil rfl) hstate hstate'
  | freed hstate hstate' =>
    exact .resting (hfree rfl) (hstep.cycle h) (hstep.booted h) (hstep.sampled h) (by rw [hstate']; decide)

end

/-! Both keys over a run. -/

/-- What an input does to the clock, and to the button of a key that it does not sample. -/
theorem react_frame {s : State} {b b' : Board} {i : BoardInput} {es : List Event} (h : b.react s i = some (b', es)) :
    (b'.boot = b.boot ∧ b.time ≤ b'.time) ∧
      ∀ k : Key, (∀ active, i ≠ .scan k active) →
        b'.btn k = b.btn k ∧ b'.scans k = b.scans k ∧ es ≠ [k.hold] ∧ es ≠ [k.free] := by
  have hone : ∀ e : Event, (∀ k : Key, e ≠ k.hold ∧ e ≠ k.free) → ∀ k : Key, [e] ≠ [k.hold] ∧ [e] ≠ [k.free] :=
    fun e he k => ⟨fun h => (he k).1 (List.cons.inj h).1, fun h => (he k).2 (List.cons.inj h).1⟩
  have hnone : ∀ k : Key, ([] : List Event) ≠ [k.hold] ∧ [] ≠ [k.free] := fun k => ⟨by simp, by simp⟩
  cases i with
  | elapse ms =>
    cases h
    exact ⟨⟨rfl, Nat.le_add_right ..⟩, fun k _ => ⟨rfl, rfl, hnone k⟩⟩
  | rtcAlarm =>
    cases h
    exact ⟨⟨rfl, le_rfl⟩, fun k _ => ⟨rfl, rfl, hnone k⟩⟩
  | scan k₁ active =>
    cases h
    refine ⟨⟨rfl, le_rfl⟩, fun k hk => ?_⟩
    have hne : k ≠ k₁ := fun heq => hk active (by rw [heq])
    refine ⟨Function.update_of_ne hne .., Function.update_of_ne hne .., ?_⟩
    have honly : ∀ {e : Event}, (b.scanned k₁ active).2 = [e] → e = k₁.click ∨ e = k₁.hold ∨ e = k₁.free := by
      intro e h
      exact scanned_mem (h.symm ▸ List.mem_cons_self)
    constructor
    · intro h
      have hhold := honly h
      cases k <;> cases k₁ <;> first | exact hne rfl | simp [Key.click, Key.hold, Key.free] at hhold
    · intro h
      have hfree := honly h
      cases k <;> cases k₁ <;> first | exact hne rfl | simp [Key.click, Key.hold, Key.free] at hfree
  | rtcThread =>
    have hjobs := react_events h
    obtain ⟨-, h⟩ := Option.ite_none_right_eq_some.1 h
    cases h
    refine ⟨⟨rfl, le_rfl⟩, fun k _ => ⟨rfl, rfl, ?_⟩⟩
    have hgateway : Event.rtcGatewayHeartCheck ∈ b.rtc.round.2 := List.mem_append_right _ List.mem_cons_self
    constructor <;> intro h <;> rw [h] at hgateway <;>
      cases k <;> cases List.mem_singleton.1 hgateway
  | rxByte ucByte | t35Expired | txReady =>
    obtain ⟨-, h⟩ := Option.ite_none_right_eq_some.1 h
    cases h
    exact ⟨⟨rfl, le_rfl⟩, fun k _ => ⟨rfl, rfl, hnone k⟩⟩
  | mbPoll stack fullyClose =>
    obtain ⟨-, h⟩ := Option.ite_none_right_eq_some.1 h
    cases h
    refine ⟨⟨rfl, le_rfl⟩, fun k _ => ⟨rfl, rfl, hone _ (fun k => ?_) k⟩⟩
    rcases served_modbus b.rtu stack with ⟨reg, a, n, hserved⟩ | ⟨reg, a, n, hserved⟩ <;> rw [hserved] <;>
      cases k <;> exact ⟨(by simp [Key.hold]), by simp [Key.free]⟩
  | dryPoll level =>
    cases h
    refine ⟨⟨rfl, le_rfl⟩, fun k _ => ⟨rfl, rfl, hone _ (fun k => ?_) k⟩⟩
    cases k <;> exact ⟨(by simp [Key.hold]), by simp [Key.free]⟩
  | event e =>
    obtain ⟨hdirect, h⟩ := Option.ite_none_right_eq_some.1 h
    cases h
    refine ⟨⟨rfl, le_rfl⟩, fun k _ => ⟨rfl, rfl, hone _ (fun k => ?_) k⟩⟩
    constructor <;> rintro rfl <;> cases k <;> cases hdirect

theorem counted {cfg : Config} {p : State × Board} (h : (firmware cfg).Reachable p) (k : Key) : Counted k p := by
  refine @Machine.reachable_inv _ _ (firmware cfg) (Counted k) ?_ ?_ p h
  · rintro ⟨s, b⟩ ⟨⟨env, flash, download, rfl⟩, rfl⟩
    exact .resting (by cases k <;> rfl) rfl le_rfl (fun x hx => absurd hx List.not_mem_nil)
      ⟨(by simp), by simp⟩
  · intro p i p' hp hn
    rcases step_key hn with ⟨b, es, hreact, hkey, hb⟩ | ⟨es, hreact, -, hcounts⟩
    · obtain ⟨⟨hboot, htime⟩, hframe⟩ := react_frame hreact
      have hsampled : ∀ x ∈ b.scans k, x.1 ≤ b.time := by
        intro x hx
        by_cases hi : ∃ active, i.2 = .scan k active
        · obtain ⟨active, hi⟩ := hi
          rw [hi] at hreact
          cases hreact
          have hscans : (p.2.scanned k active).1.scans k = (p.2.time, active) :: p.2.scans k := Function.update_self ..
          replace hx := hscans ▸ hx
          rcases List.mem_cons.1 hx with rfl | hx
          · exact le_rfl
          · exact hp.sampled x hx
        · rw [(hframe k fun active h => hi ⟨active, h⟩).2.1] at hx
          exact (hp.sampled x hx).trans htime
      refine .resting ?_ ?_ ?_ ?_ ?_
      · rw [hkey]
        cases k <;> rfl
      · rw [hb]
        rfl
      · rw [hb]
        exact le_rfl
      · rw [hb]
        exact hsampled
      · rw [hb]
        exact ⟨(by simp [Board.restart]), by simp [Board.restart]⟩
    · obtain ⟨⟨hboot, htime⟩, hframe⟩ := react_frame hreact
      by_cases hi : ∃ active, i.2 = .scan k active
      · obtain ⟨active, hi⟩ := hi
        rw [hi] at hreact
        obtain ⟨hboard, rfl⟩ := Prod.mk.inj (Option.some_inj.1 hreact)
        exact hp.scan hboard.symm (hcounts k)
      · obtain ⟨hbtn, hscans, hhold, hfree⟩ := hframe k fun active h => hi ⟨active, h⟩
        exact hp.frame ((hcounts k).2.2 hhold hfree) hbtn hboot htime hscans

/-- Only a hold resets the unit, and with both counters full. -/
theorem scanned_resets {s : State} {b : Board} {k : Key} {active : Bool} {e : Event} (he : e ∈ (b.scanned k active).2)
    (hreset : e.resetsUnit s = true) : e = k.hold ∧ 3 < k.count s.key ∧ 3 < k.other.count s.key := by
  have hcounts : e = k.hold → s.key.keyOnCount > 3 ∧ s.key.keyOffCount > 3 ∧ s.key.keyOnOffFlag = false := by
    rintro rfl
    cases k <;> exact of_decide_eq_true hreset
  rcases scanned_mem he with rfl | rfl | rfl
  · cases k <;> cases hreset
  · obtain ⟨hon, hoff, -⟩ := hcounts rfl
    cases k
    · exact ⟨rfl, hon, hoff⟩
    · exact ⟨rfl, hoff, hon⟩
  · cases k <;> cases hreset

/-- **A factory reset takes both keys**: where a sample of a key resets the unit, it
sees that key pressed, as did every sample since the press was reported at `since`,
five seconds ago or more; and the other key was seen pressed at `last`, four seconds
or more after its own press, and in every sample since that press but perhaps the
newest, which may be its release. -/
theorem factory_reset_held {cfg : Config} {p : State × Board} (h : (firmware cfg).Reachable p) {env : Env} {k : Key}
    {active : Bool} {e : Event} (he : e ∈ (p.2.scanned k active).2)
    (hreset : e.resetsUnit (p.1.onUnit (MainUnit.begin env)) = true) :
    active = true ∧
      (∃ since read, p.2.boot ≤ since ∧ since + 5000 ≤ p.2.time ∧ (since, read) ∈ p.2.scans k ∧
        PressedSince since (p.2.scans k)) ∧
      ∃ since read last x older, p.2.scans k.other = x :: older ∧ p.2.boot ≤ since ∧ since + 4000 ≤ last ∧
        last ≤ x.1 ∧ (since, read) ∈ p.2.scans k.other ∧ (last, true) ∈ p.2.scans k.other ∧
        PressedSince since older := by
  obtain ⟨rfl, hcount, hother⟩ := scanned_resets he hreset
  replace hcount : 3 < k.count p.1.key := hcount
  replace hother : 3 < k.other.count p.1.key := hother
  have hk := counted h k
  have hcase := sampled_process k active (UInt32.ofNat (p.2.time - p.2.boot)) (p.2.btn k)
  change Sampled k active _ _ _ (p.2.scanned k active).2 at hcase
  generalize (p.2.scanned k active).2 = es at hcase he
  have hheld : active = true ∧ (p.2.btn k).state = .pressHold ∧ (p.2.btn k).holdCycleTime ≤
      heldFor (UInt32.ofNat (p.2.time - p.2.boot)) (p.2.btn k).tickTimeout - (p.2.btn k).prevHoldTime := by
    cases hcase with
    | held hstate hactive htime hb => exact ⟨hactive, hstate, htime⟩
    | waiting _ _ hes =>
      rcases hes with rfl | rfl
      · cases he
      · cases k <;> cases List.mem_singleton.1 he
    | pressed | holding | released => cases he
    | freed => cases k <;> cases List.mem_singleton.1 he
  obtain ⟨hactive, hstate, htime⟩ := hheld
  have hfive : 5000 ≤ 1000 * (k.count p.1.key + 1) := Nat.mul_le_mul_left 1000 (Nat.succ_le_succ hcount)
  have hfour : 4000 ≤ 1000 * k.other.count p.1.key := Nat.mul_le_mul_left 1000 hother
  obtain ⟨since, hnow, -⟩ := hk.nextHold hstate htime
  obtain ⟨read, hread⟩ := hnow.reported
  have hbefore : (since, read) ∈ p.2.scans k := by
    refine (List.mem_cons.1 hread).resolve_left fun heq => ?_
    have hlong := hnow.counted
    rw [(Prod.mk.inj heq).1] at hlong
    omega
  refine ⟨hactive, ⟨since, read, hnow.booted, (Nat.add_le_add_left hfive since).trans hnow.counted, hbefore,
    fun x hx => hnow.pressed x (List.mem_cons_of_mem _ hx)⟩, ?_⟩
  have ho := counted h k.other
  have hheld : ∃ since last, HeldFrom p.2.boot (k.other.count p.1.key) since last (p.2.scans k.other)
      (p.2.scans k.other).tail := by
    by_cases hhold : (p.2.btn k.other).state = .pressHold
    · obtain ⟨since, last, hheld, -, -⟩ := ho.held hhold
      exact ⟨since, last, { hheld with pressed := fun x hx => hheld.pressed x (List.mem_of_mem_tail hx) }⟩
    · by_cases hfree : (p.2.btn k.other).state = .holdFree
      · exact ho.left hfree
      · rw [ho.idle hhold hfree] at hother
        cases hother
  obtain ⟨since, last, hheld⟩ := hheld
  obtain ⟨read, hread⟩ := hheld.reported
  obtain ⟨x, hx, hnewest⟩ := hheld.newest
  obtain ⟨older, hscans⟩ := List.head?_eq_some_iff.1 hx
  have hpressed := hheld.pressed
  rw [hscans] at hpressed
  exact ⟨since, read, last, x, older, hscans, hheld.booted, (Nat.add_le_add_left hfour since).trans hheld.counted,
    hnewest, hread, hheld.seen (by omega), hpressed⟩

/-- Both keys are held for seven seconds. -/
def sampleHold : List (Env × BoardInput) :=
  (List.replicate 7 [(sampleEnv, .scan .off true), (sampleEnv, .scan .on true), (sampleEnv, .elapse 1000)]).flatten

theorem factory_reset_held_sample :
    ∃ p, (firmware sampleConfig).run (sampleStart, {}) sampleHold = some p ∧
      ∃ since read, p.2.boot ≤ since ∧ since + 5000 ≤ p.2.time ∧ (since, read) ∈ p.2.scans .off ∧
        PressedSince since (p.2.scans .off) := by
  have hrun : (((firmware sampleConfig).run (sampleStart, {}) sampleHold).map fun p =>
      (p.2.scanned .off true).2.any (·.resetsUnit (p.1.onUnit (MainUnit.begin sampleEnv)))) = some true := by
    decide +kernel
  obtain ⟨p, hr, hreset⟩ := Option.map_eq_some_iff.1 hrun
  obtain ⟨e, he, hreset⟩ := List.any_eq_true.1 hreset
  exact ⟨p, hr, (factory_reset_held ⟨(sampleStart, {}), sampleHold, ⟨⟨_, _, _, rfl⟩, rfl⟩, hr⟩ he hreset).2.1⟩

end Aqualarm
