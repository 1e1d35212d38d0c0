import Aqualarm.FrameReads

/-
  The end of an update: `radio_frame_gateway_parse_ota` on any sequence of
  frames, with restarts and whatever else the unit does between them.

  What is proved: `ota_completion_iff` — every answered `lora_ota_end` of a run
  finds a complete image exactly when each comes after a complete transfer: the
  last begin was accepted before any byte arrived, and the packets stored since
  add up to its size. `lora_ota_end` itself checks none of this.

  The bytes of the session are tracked next to the receiver: `source` holds what
  the packets of the session wrote where, and is proved to be what the partition
  holds there.
-/

namespace Aqualarm

open Lib

/-- The unit, with what the frames since the last reset (newest first) have done:
whether the last `lora_ota_begin` succeeded, and the bytes packets wrote since. -/
structure OtaTransfer where
  unit : State
  begun : Bool := false
  source : Nat → Option UInt8 := fun _ => none
  history : List (Env × RxFrame) := []

/-- `elsewhere` is what any other activity makes of the shared variables. -/
inductive OtaInput where
  | message (env : Env) (rx : RxFrame)
  | restart (env : Env)
  | elsewhere (unit : MainUnit)

/-- The packet is the one at the cursor, and is acknowledged. -/
def RxFrame.Stores (env : Env) (rx : RxFrame) (ota : Ota) : Prop :=
  ota.updateFileCurSize = rx.word.toNat ∧
    (loraOtaReceive env rx.packet rx.word.toNat ota).1 = some .ackTransfer

instance (env : Env) (rx : RxFrame) (ota : Ota) : Decidable (rx.Stores env ota) :=
  inferInstanceAs (Decidable (_ ∧ _))

/-- The bytes written, where a packet is stored at `addr`. -/
def recordPacket (addr : Nat) (buf : List UInt8) (source : Nat → Option UInt8) : Nat → Option UInt8 :=
  fun k => if addr ≤ k ∧ k < addr + buf.length then some (buf.getD (k - addr) 0) else source k

/-- A frame. A begin, accepted or not, starts the record afresh, and so does the
reset that ends an update. -/
def OtaTransfer.hear (env : Env) (rx : RxFrame) (r : OtaTransfer) : OtaTransfer :=
  let unit := radioFrameGatewayParseOta rx (r.unit.onUnit (MainUnit.begin env))
  if rx.rxData 2 = 1 then
    { unit, begun := (loraOtaBegin env rx.word.toNat r.unit.ota).1 = some .respStart
      history := (env, rx) :: r.history }
  else if rx.rxData 2 = 2 then
    { r with
      unit
      source :=
        if rx.Stores env r.unit.ota then recordPacket rx.word.toNat rx.packet r.source else r.source
      history := (env, rx) :: r.history }
  else if rx.rxData 2 = 3 then { unit }
  else { r with unit, history := (env, rx) :: r.history }

/-- The transfers a unit can see after a reset. A unit that faulted only resets. -/
def otaTransfers : Machine OtaTransfer OtaInput where
  start r := ∃ s, r = { unit := rtHwCpuReset s }
  next r i :=
    match i with
    | .message env rx => if r.unit.ota.fault = false then some (r.hear env rx) else none
    | .restart env => some { unit := rtHwCpuReset (r.unit.onUnit (MainUnit.begin env)) }
    | .elsewhere unit => if r.unit.ota.fault = false then some { r with unit := { r.unit with unit } } else none

/-! What should hold. -/

/-- A complete image: begun, with the cursor at the announced size, and every
byte of the range is what a packet of the session wrote. -/
structure OtaTransfer.Complete (r : OtaTransfer) : Prop where
  begun : r.begun = true
  cursor : r.unit.ota.updateFileCurSize = r.unit.ota.updateFileTotalSize
  whole : ∀ k, k < r.unit.ota.updateFileTotalSize → r.source k = some (r.unit.ota.download k)

/-- `lora_ota_end` runs and its response goes out: a gateway is listed. -/
def OtaInput.Ends (r : OtaTransfer) : OtaInput → Prop
  | .message _ rx => rx.rxData 2 = 3 ∧ aqGatewayFind r.unit.unit.storage ≠ 0
  | _ => False

/-- The bytes that arrived in order since the reset. -/
def arrived : List (Env × RxFrame) → Nat
  | [] => 0
  | (env, rx) :: older =>
    if rx.rxData 2 = 2 ∧ rx.word.toNat = arrived older ∧ arrived older + rx.packet.length ≤ downloadLen ∧
        env.falPartitionWrite = true then
      arrived older + rx.packet.length
    else arrived older

/-- The last begin, and what came before it. -/
def lastBegin : List (Env × RxFrame) → Option (Env × RxFrame × List (Env × RxFrame))
  | [] => none
  | (env, rx) :: older => if rx.rxData 2 = 1 then some (env, rx, older) else lastBegin older

/-- The partition is found, the image fits, and the erase succeeds. -/
def RxFrame.BeginAccepted (env : Env) (rx : RxFrame) : Prop :=
  env.falPartitionFind = true ∧ rx.word.toNat ≤ downloadLen ∧ env.falPartitionErase = true

/-- The last begin was accepted, with nothing arrived before it, and all it
announced has arrived. -/
def CompleteTransfer (history : List (Env × RxFrame)) : Prop :=
  ∃ env rx older, lastBegin history = some (env, rx, older) ∧ rx.BeginAccepted env ∧ arrived older = 0 ∧
    arrived history = rx.word.toNat

/-! The receiver follows the frames. -/

/-- Between two frames: the cursor counts what arrived, and the session is that
of the last begin; it wrote from where the cursor stood then to where it stands. -/
structure OtaTracked (r : OtaTransfer) : Prop where
  cursor : r.unit.ota.updateFileCurSize = arrived r.history
  fits : arrived r.history ≤ downloadLen
  unbegun : lastBegin r.history = none → r.begun = false
  accepted : ∀ env rx older, lastBegin r.history = some (env, rx, older) →
    (r.begun = true ↔ rx.BeginAccepted env)
  total : ∀ env rx older, lastBegin r.history = some (env, rx, older) →
    r.unit.ota.updateFileTotalSize = rx.word.toNat
  ordered : ∀ env rx older, lastBegin r.history = some (env, rx, older) → arrived older ≤ arrived r.history
  written : ∀ env rx older, lastBegin r.history = some (env, rx, older) →
    ∀ k, r.source k =
      if arrived older ≤ k ∧ k < arrived r.history then some (r.unit.ota.download k) else none

section
variable {env : Env} {rx : RxFrame} {older : List (Env × RxFrame)}

theorem arrived_cons_of_ne (h : rx.rxData 2 ≠ 2) : arrived ((env, rx) :: older) = arrived older := by
  rw [arrived, if_neg]
  exact fun hc => h hc.1

theorem lastBegin_cons_of_ne (h : rx.rxData 2 ≠ 1) : lastBegin ((env, rx) :: older) = lastBegin older := by
  rw [lastBegin, if_neg h]

theorem arrived_cons_stored (hp : rx.rxData 2 = 2) (hat : rx.word.toNat = arrived older)
    (hl : arrived older + rx.packet.length ≤ downloadLen) (hw : env.falPartitionWrite = true) :
    arrived ((env, rx) :: older) = arrived older + rx.packet.length := by
  rw [arrived, if_pos ⟨hp, hat, hl, hw⟩]

theorem arrived_cons_dropped
    (h : ¬ (rx.word.toNat = arrived older ∧ arrived older + rx.packet.length ≤ downloadLen ∧
      env.falPartitionWrite = true)) : arrived ((env, rx) :: older) = arrived older := by
  rw [arrived, if_neg]
  exact fun hc => h hc.2

end

/-- **A tracked transfer is complete** exactly when its frames are. -/
theorem OtaTracked.complete_iff {r : OtaTransfer} (h : OtaTracked r) :
    r.Complete ↔ CompleteTransfer r.history := by
  constructor
  · rintro ⟨hbegun, hcur, hwhole⟩
    cases hl : lastBegin r.history with
    | none => exact absurd (h.unbegun hl) (by simp [hbegun])
    | some begin =>
      obtain ⟨env, rx, older⟩ := begin
      have htotal := h.total _ _ _ hl
      have harrived : arrived r.history = rx.word.toNat := by rw [← h.cursor, hcur, htotal]
      refine ⟨env, rx, older, hl, (h.accepted _ _ _ hl).1 hbegun, ?_, harrived⟩
      -- the byte before the session's first is written by no packet of it
      by_contra hne
      have hpos : 0 < r.unit.ota.updateFileTotalSize := by
        have := h.ordered _ _ _ hl
        omega
      have hfirst := hwhole 0 hpos
      rw [h.written _ _ _ hl, if_neg (by omega)] at hfirst
      cases hfirst
  · rintro ⟨env, rx, older, hl, haccepted, hnone, harrived⟩
    have htotal := h.total _ _ _ hl
    refine ⟨(h.accepted _ _ _ hl).2 haccepted, by rw [h.cursor, harrived, htotal], fun k hk => ?_⟩
    rw [h.written _ _ _ hl, if_pos]
    omega

theorem OtaTracked.start (s : State) : OtaTracked { unit := rtHwCpuReset s } where
  cursor := rfl
  fits := Nat.zero_le _
  unbegun _ := rfl
  accepted _ _ _ hl := by cases hl
  total _ _ _ hl := by cases hl
  ordered _ _ _ hl := by cases hl
  written _ _ _ hl := by cases hl

/-- What another frame leaves as it is stays tracked. -/
theorem OtaTracked.congr {r r' : OtaTransfer} (h : OtaTracked r) (hota : r'.unit.ota = r.unit.ota)
    (hbegun : r'.begun = r.begun) (hsource : r'.source = r.source)
    (harrived : arrived r'.history = arrived r.history)
    (hlast : lastBegin r'.history = lastBegin r.history) : OtaTracked r' where
  cursor := by rw [hota, harrived]; exact h.cursor
  fits := by rw [harrived]; exact h.fits
  unbegun hl := by rw [hbegun]; exact h.unbegun (hlast ▸ hl)
  accepted env rx older hl := by rw [hbegun]; exact h.accepted env rx older (hlast ▸ hl)
  total env rx older hl := by rw [hota]; exact h.total env rx older (hlast ▸ hl)
  ordered env rx older hl := by rw [harrived]; exact h.ordered env rx older (hlast ▸ hl)
  written env rx older hl := by rw [hota, hsource, harrived]; exact h.written env rx older (hlast ▸ hl)

section
variable {env : Env} {rx : RxFrame} {r : OtaTransfer}

/-- The receiver after a frame. -/
theorem hear_ota (env : Env) (rx : RxFrame) (r : OtaTransfer) :
    (r.hear env rx).unit.ota =
      if rx.rxData 2 = 1 then (loraOtaBegin env rx.word.toNat r.unit.ota).2
      else if rx.rxData 2 = 2 then (loraOtaReceive env rx.packet rx.word.toNat r.unit.ota).2
      else if rx.rxData 2 = 3 then { download := r.unit.ota.download }
      else r.unit.ota := by
  have hunit : (r.hear env rx).unit = radioFrameGatewayParseOta rx (r.unit.onUnit (MainUnit.begin env)) := by
    unfold OtaTransfer.hear
    dsimp only
    split_ifs <;> rfl
  rw [hunit, gatewayParseOta_eq]
  split_ifs
  · rw [State.onOta_ota]
    rfl
  · rw [State.onOta_ota]
    rfl
  · rfl
  · rfl

/-- A begin restarts the record; the cursor stays where it was. -/
theorem OtaTracked.begin (h : OtaTracked r) (hb : rx.rxData 2 = 1) : OtaTracked (r.hear env rx) := by
  have hota := hear_ota env rx r
  rw [if_pos hb] at hota
  have hlast : lastBegin (r.hear env rx).history = some (env, rx, r.history) := by
    simp [OtaTransfer.hear, hb, lastBegin]
  have harrived : arrived (r.hear env rx).history = arrived r.history := by
    have hcons : (r.hear env rx).history = (env, rx) :: r.history := by simp [OtaTransfer.hear, hb]
    rw [hcons, arrived_cons_of_ne (by rw [hb]; decide)]
  have hbegun : (r.hear env rx).begun =
      decide ((loraOtaBegin env rx.word.toNat r.unit.ota).1 = some .respStart) := by
    simp [OtaTransfer.hear, hb]
  have hsource : (r.hear env rx).source = fun _ => none := by simp [OtaTransfer.hear, hb]
  have hboth : (r.hear env rx).unit.ota.updateFileCurSize = r.unit.ota.updateFileCurSize ∧
      (r.hear env rx).unit.ota.updateFileTotalSize = rx.word.toNat ∧
      ((r.hear env rx).begun = true ↔ rx.BeginAccepted env) := by
    rw [hota, hbegun, decide_eq_true_eq]
    obtain ⟨hfind, hfits, herase, he⟩ | ⟨hfail, he⟩ := loraOtaBegin_cases env rx.word.toNat r.unit.ota
    · rw [he]
      exact ⟨rfl, rfl, iff_of_true rfl ⟨hfind, hfits, herase⟩⟩
    · rw [he]
      exact ⟨rfl, rfl, iff_of_false (by simp) hfail⟩
  refine
    { cursor := by rw [hboth.1, harrived]; exact h.cursor
      fits := by rw [harrived]; exact h.fits
      unbegun := fun hl => ?_, accepted := ?_, total := ?_, ordered := ?_, written := ?_ }
  · rw [hlast] at hl
    cases hl
  all_goals
    intro env' rx' older hl
    rw [hlast, Option.some.injEq, Prod.mk.injEq, Prod.mk.injEq] at hl
    obtain ⟨rfl, rfl, rfl⟩ := hl
  · exact hboth.2.2
  · exact hboth.2.1
  · exact Nat.le_of_eq harrived.symm
  · intro k
    rw [hsource, harrived, if_neg (by omega)]

/-- The transfer after a packet. -/
structure HearsPacket (env : Env) (rx : RxFrame) (r r' : OtaTransfer) : Prop where
  ota : r'.unit.ota = (loraOtaReceive env rx.packet rx.word.toNat r.unit.ota).2
  history : r'.history = (env, rx) :: r.history
  begun : r'.begun = r.begun
  last : lastBegin r'.history = lastBegin r.history
  source : r'.source =
    if rx.Stores env r.unit.ota then recordPacket rx.word.toNat rx.packet r.source else r.source

theorem hear_packet (env : Env) (r : OtaTransfer) (hp : rx.rxData 2 = 2) : HearsPacket env rx r (r.hear env rx) := by
  have hne : rx.rxData 2 ≠ 1 := by rw [hp]; decide
  have hota := hear_ota env rx r
  rw [if_neg hne, if_pos hp] at hota
  have hhistory : (r.hear env rx).history = (env, rx) :: r.history := by simp [OtaTransfer.hear, hp]
  refine ⟨hota, hhistory, ?_, ?_, ?_⟩
  · simp [OtaTransfer.hear, hp]
  · rw [hhistory, lastBegin_cons_of_ne hne]
  · simp [OtaTransfer.hear, hp]

/-- A packet that is not taken. -/
theorem OtaTracked.dropped {r' : OtaTransfer} (h : OtaTracked r) (hr : HearsPacket env rx r r')
    (hsame : (loraOtaReceive env rx.packet rx.word.toNat r.unit.ota).2 = r.unit.ota)
    (hnot : ¬ rx.Stores env r.unit.ota)
    (hskip : ¬ (rx.word.toNat = arrived r.history ∧ arrived r.history + rx.packet.length ≤ downloadLen ∧
      env.falPartitionWrite = true)) : OtaTracked r' := by
  refine h.congr (hr.ota.trans hsame) hr.begun ?_ ?_ hr.last
  · rw [hr.source, if_neg hnot]
  · rw [hr.history, arrived_cons_dropped hskip]

/-- A packet that is stored: what is written is what is recorded, up to the new cursor. -/
theorem OtaTracked.stored {r' : OtaTransfer} (h : OtaTracked r) (hr : HearsPacket env rx r r')
    (hp : rx.rxData 2 = 2) (hat : r.unit.ota.updateFileCurSize = rx.word.toNat) (hpart : r.unit.ota.dlPart = true)
    (hfit : r.unit.ota.updateFileCurSize + rx.packet.length ≤ downloadLen) (hw : env.falPartitionWrite = true) :
    OtaTracked r' := by
  have hwritten := loraOtaReceive_written hat hpart hfit hw
  have hstores : rx.Stores env r.unit.ota := ⟨hat, by rw [hwritten]⟩
  have hota := hr.ota
  rw [hwritten, hat] at hota
  have hsource := hr.source
  rw [if_pos hstores] at hsource
  have hfit' : arrived r.history + rx.packet.length ≤ downloadLen := h.cursor ▸ hfit
  have hword : rx.word.toNat = arrived r.history := by rw [← hat, h.cursor]
  have harrived : arrived r'.history = arrived r.history + rx.packet.length := by
    rw [hr.history, arrived_cons_stored hp hword hfit' hw]
  refine
    { cursor := by rw [hota, harrived, hword]
      fits := by rw [harrived]; exact hfit'
      unbegun := fun hl => by rw [hr.begun]; exact h.unbegun (hr.last ▸ hl)
      accepted := fun env' rx' older hl => by rw [hr.begun]; exact h.accepted _ _ _ (hr.last ▸ hl)
      total := fun env' rx' older hl => by rw [hota]; exact h.total _ _ _ (hr.last ▸ hl)
      ordered := fun env' rx' older hl => ?_
      written := fun env' rx' older hl k => ?_ }
  · have := h.ordered _ _ _ (hr.last ▸ hl)
    omega
  · rw [hr.last] at hl
    have hle := h.ordered _ _ _ hl
    have hold := h.written _ _ _ hl k
    rw [hsource, hota, harrived, recordPacket, hword]
    dsimp only
    by_cases hin : arrived r.history ≤ k ∧ k < arrived r.history + rx.packet.length
    · rw [if_pos hin, if_pos (by omega), writeDownload_inside hin.1 hin.2]
    · rw [if_neg hin, hold, writeDownload_outside (by omega)]
      by_cases hk : arrived older ≤ k ∧ k < arrived r.history
      · rw [if_pos hk, if_pos (by omega)]
      · rw [if_neg hk, if_neg (by omega)]

/-- The 32-bit end of a packet at the cursor does not wrap. -/
theorem OtaTracked.packet_large (h : OtaTracked r)
    (hgt : ¬ r.unit.ota.updateFileCurSize + rx.packet.length ≤ downloadLen) :
    (r.unit.ota.updateFileCurSize + rx.packet.length) % 2 ^ 32 > downloadLen := by
  have hsmall := (rx.rxData 7).toNat_lt
  have hlen : downloadLen = 524288 := rfl
  have hcur := h.fits
  rw [← h.cursor] at hcur
  rw [length_packet] at hgt ⊢
  rw [Nat.mod_eq_of_lt (by omega)]
  omega

/-- A packet is stored at the cursor and recorded, or it changes nothing. -/
theorem OtaTracked.receive (h : OtaTracked r) (hp : rx.rxData 2 = 2)
    (hfault : (r.hear env rx).unit.ota.fault = false) : OtaTracked (r.hear env rx) := by
  have hr := hear_packet env r hp
  by_cases haway : r.unit.ota.updateFileCurSize ≠ rx.word.toNat
  · refine h.dropped hr (by rw [loraOtaReceive_away haway]) (fun hs => haway hs.1) fun hs => ?_
    exact haway (by rw [h.cursor, hs.1])
  have hat := not_not.1 haway
  cases hpart : r.unit.ota.dlPart with
  | false =>
    rw [hr.ota, loraOtaReceive_fault hat hpart] at hfault
    cases hfault
  | true =>
    by_cases hfit : r.unit.ota.updateFileCurSize + rx.packet.length ≤ downloadLen ∧ env.falPartitionWrite = true
    · exact h.stored hr hp hat hpart hfit.1 hfit.2
    · have hlarge : (r.unit.ota.updateFileCurSize + rx.packet.length) % 2 ^ 32 > downloadLen ∨
          env.falPartitionWrite = false := by
        by_cases hw : env.falPartitionWrite = true
        · exact Or.inl (h.packet_large fun hle => hfit ⟨hle, hw⟩)
        · exact Or.inr (Bool.eq_false_of_not_eq_true hw)
      have hrefused := loraOtaReceive_refused hat hpart hlarge
      refine h.dropped hr (by rw [hrefused]) (fun hs => ?_) fun hs => hfit ⟨by rw [h.cursor]; exact hs.2.1, hs.2.2⟩
      have hreply := hs.2
      rw [hrefused] at hreply
      cases hreply

/-- **One frame.** -/
theorem OtaTracked.hear (h : OtaTracked r) (hfault : (r.hear env rx).unit.ota.fault = false) :
    OtaTracked (r.hear env rx) := by
  by_cases h₁ : rx.rxData 2 = 1
  · exact h.begin h₁
  by_cases h₂ : rx.rxData 2 = 2
  · exact h.receive h₂ hfault
  by_cases h₃ : rx.rxData 2 = 3
  · have hend : r.hear env rx = { unit := rtHwCpuReset ((r.unit.onUnit (MainUnit.begin env)).onUnit
        OtaReply.respEnd.send) } := by
      simp [OtaTransfer.hear, gatewayParseOta_eq, loraOtaEnd, h₃]
    rw [hend]
    exact .start _
  · have hota := hear_ota env rx r
    rw [if_neg h₁, if_neg h₂, if_neg h₃] at hota
    have hrest : (r.hear env rx).begun = r.begun ∧ (r.hear env rx).source = r.source ∧
        (r.hear env rx).history = (env, rx) :: r.history := by
      simp [OtaTransfer.hear, h₁, h₂, h₃]
    exact h.congr hota hrest.1 hrest.2.1 (by rw [hrest.2.2, arrived_cons_of_ne h₂])
      (by rw [hrest.2.2, lastBegin_cons_of_ne h₁])

end

/-- An update that is not faulted is tracked, whatever the input. -/
theorem otaTracked_next {r r' : OtaTransfer} {i : OtaInput}
    (h : r.unit.ota.fault = false → OtaTracked r) (hn : otaTransfers.next r i = some r') :
    r'.unit.ota.fault = false → OtaTracked r' := by
  intro hfault
  simp only [otaTransfers] at hn
  cases i with
  | message env rx =>
    dsimp only at hn
    split at hn
    · rename_i hok
      obtain rfl := Option.some.inj hn
      exact (h hok).hear hfault
    · cases hn
  | restart env =>
    obtain rfl := Option.some.inj hn
    exact .start _
  | elsewhere unit =>
    dsimp only at hn
    split at hn
    · rename_i hok
      obtain rfl := Option.some.inj hn
      exact (h hok).congr rfl rfl rfl rfl rfl
    · cases hn

/-- The response of `lora_ota_end` is queued exactly when a gateway is listed. -/
theorem respEnd_send_tx (u : MainUnit) :
    (OtaReply.respEnd.send u).tx ≠ u.tx ↔ aqGatewayFind u.storage ≠ 0 := by
  constructor
  · intro h hnone
    exact h (by rw [show OtaReply.respEnd.send u = u from gatewayUpload_of_no_gateway hnone])
  · intro hgw h
    have hlen := congrArg List.length h
    simp [OtaReply.send, gatewayUpload, radioGatewayCommandSend, hgw, radioCommandSend, loraTxEnqueue] at hlen

/-- **An update ends only with a complete image** along a run exactly when each
answered end comes after a complete transfer. -/
theorem ota_completion_iff (s : State) (is : List OtaInput) :
    otaTransfers.Steps (fun r i _ => i.Ends r → r.Complete) { unit := rtHwCpuReset s } is ↔
      otaTransfers.Steps (fun r i _ => i.Ends r → CompleteTransfer r.history)
        { unit := rtHwCpuReset s } is := by
  refine @Machine.steps_iff_of_inv _ _ otaTransfers (fun r => r.unit.ota.fault = false → OtaTracked r) _ _ _
    (fun _ => .start s) (fun r i r' hi _ hn => otaTracked_next hi hn) (fun r i r' hi hn => ?_) is
  refine imp_congr_right fun hends => OtaTracked.complete_iff (hi ?_)
  cases i with
  | message env rx =>
    simp only [otaTransfers] at hn
    split at hn
    · rename_i hok
      exact hok
    · cases hn
  | restart => exact absurd hends id
  | elsewhere => exact absurd hends id

/-- A frame of the sample unit's gateway, as the parser fills it in. -/
def sampleGatewayFrame (message : List UInt8) : RxFrame :=
  let bytes := sampleBytes deviceTypeGateway 9 message
  rxFrameOf 0 (-60) (fun i => bytes.getD i 0) bytes.length

/-- With a gateway listed, an end that follows a begin at once is answered, and
so is one that nothing came before. -/
theorem ota_completion_fails :
    ∃ s, (system sampleConfig).Reachable s ∧
      (¬ otaTransfers.Steps (fun r i _ => i.Ends r → r.Complete) { unit := rtHwCpuReset s }
        [.message sampleEnv (sampleGatewayFrame [firmwareUpdateCmd, 1, 1, 0, 0, 0, 4]),
          .message sampleEnv (sampleGatewayFrame [firmwareUpdateCmd, 1, 3])]) ∧
      ¬ otaTransfers.Steps (fun r i _ => i.Ends r → r.Complete) { unit := rtHwCpuReset s }
        [.message sampleEnv (sampleGatewayFrame [firmwareUpdateCmd, 1, 3])] := by
  have hrun : ∃ s r, (system sampleConfig).next sampleStart
        (sampleEnv, sampleFrame deviceTypeGateway 9 [learnDeviceCmd, 1, 1]) = some s ∧
      otaTransfers.run { unit := rtHwCpuReset s }
        [.message sampleEnv (sampleGatewayFrame [firmwareUpdateCmd, 1, 1, 0, 0, 0, 4])] = some r ∧
      r.unit.ota.fault = false ∧ aqGatewayFind (rtHwCpuReset s).unit.storage = 9 ∧
      aqGatewayFind r.unit.unit.storage = 9 ∧ r.unit.ota.updateFileCurSize = 0 ∧
      r.unit.ota.updateFileTotalSize = 4 :=
    ⟨_, _, rfl, rfl, by decide +kernel⟩
  obtain ⟨s, r, hn, hr, hfault, hgw, hgw', hcur, htotal⟩ := hrun
  refine ⟨s, (Machine.reachable_start (M := system sampleConfig) ⟨_, _, _, rfl⟩).step hn, fun h => ?_,
    fun h => ?_⟩
  · have hnext : otaTransfers.next r (.message sampleEnv (sampleGatewayFrame [firmwareUpdateCmd, 1, 3])) =
        some (r.hear sampleEnv (sampleGatewayFrame [firmwareUpdateCmd, 1, 3])) := if_pos hfault
    have hend := h _ _ _ _ List.prefix_rfl hr hnext ⟨by decide, by rw [hgw']; decide⟩
    have hequal := hend.cursor
    rw [hcur, htotal] at hequal
    cases hequal
  · have hend := h [] _ _ _ List.prefix_rfl rfl rfl ⟨by decide, by rw [hgw]; decide⟩
    exact absurd hend.begun (by simp)

end Aqualarm
