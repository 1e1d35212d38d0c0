import Aqualarm.MbTables
import Aqualarm.System

/-
  What the Modbus slave replies, and what a request does to the unit.

  What is proved:
    1. `reply_sound` — whatever the request, the reply has between 1 and 66 bytes,
       is marked as an exception or carries the request's function code, and the
       buffer behind it is untouched; an exception leaves the unit as it was,
       unless the request was to write registers and to read others that do not
       exist.
    2. `read_bits_reply` — the reply to a read of coils or discrete inputs, for
       every address and count.
    3. `execute_refines` — a request does to the unit what one Modbus event of the
       system does.
-/

namespace Aqualarm

variable {pucFrame : Nat → UInt8} {usLen : Nat} {sv : MbServer}

/-! One function at a time. -/

/-- What every function keeps to, on a request with the code `func`. -/
structure MbSound (func : UInt8) (pucFrame : Nat → UInt8) (usLen : Nat) (sv : MbServer) (r : MbReply) : Prop where
  length : r.eException = .mbExNone → 1 ≤ r.usLen ∧ r.usLen ≤ 66
  kept : r.eException ≠ .mbExNone → r.usLen = usLen ∨ r.usLen = 2
  code : r.eException = .mbExNone → r.pucFrame 0 = func
  behind : ∀ i, 66 ≤ i → r.pucFrame i = pucFrame i
  exception : r.eException = .mbExNone ∨ r.eException = .mbExIllegalDataAddress ∨
    r.eException = .mbExIllegalDataValue
  server : r.eException ≠ .mbExNone → r.server = sv

/-- A request refused before anything is done. -/
theorem mbSound_refused (func : UInt8) : MbSound func pucFrame usLen sv ⟨.mbExIllegalDataValue, pucFrame, usLen, sv⟩ where
  length h := by cases h
  kept _ := Or.inl rfl
  code h := by cases h
  behind _ _ := rfl
  exception := Or.inr (Or.inr rfl)
  server _ := rfl

/-- What the read callbacks have in common: they refuse more than they hold, and
write no further than one byte behind the reply. -/
structure ReadsWithin (total : Nat) (size : UInt16 → Nat)
    (cb : Nat → UInt16 → UInt16 → (Nat → UInt8) → Option (Nat → UInt8)) : Prop where
  served : ∀ {p a n frame frame'}, cb p a n frame = some frame' → n.toNat ≤ total
  behind : ∀ {p a n frame frame'}, cb p a n frame = some frame' → ∀ i, i < p ∨ p + size n < i → frame' i = frame i

theorem readBits_within (byteBuf : Nat → UInt8) (total : Nat) :
    ReadsWithin total (fun n => n.toNat / 8) (mbReadBits byteBuf total) where
  served {p a n frame frame'} h := by
    unfold mbReadBits at h
    dsimp only at h
    by_cases hin : (a - 1).toNat + n.toNat ≤ total
    · omega
    · rw [if_neg hin] at h
      cases h
  behind h i hi := bits_read_frame h hi

theorem readRegs_within (regBuf : Nat → UInt16) (total : Nat) :
    ReadsWithin total (fun n => 2 * n.toNat - 1) (mbReadRegs regBuf total) where
  served {p a n frame frame'} h := by
    unfold mbReadRegs at h
    dsimp only at h
    by_cases hin : (a - 1).toNat + n.toNat ≤ total
    · omega
    · rw [if_neg hin] at h
      cases h
  behind {p a n frame frame'} h i hi := by
    unfold mbReadRegs at h
    dsimp only at h
    by_cases hin : (a - 1).toNat + n.toNat ≤ total
    · rw [if_pos hin, Option.some.injEq] at h
      rw [← h, readRegBytes_apply, if_neg (by omega)]
    · rw [if_neg hin] at h
      cases h

theorem mbFuncRead_sound {func : UInt8} {countOk : UInt16 → Bool} {bytes : UInt16 → UInt8} {size written : UInt16 → Nat}
    {cb : MbServer → Nat → UInt16 → UInt16 → (Nat → UInt8) → Option (Nat → UInt8)} {total : Nat}
    (hcb : ReadsWithin total written (cb sv)) (hsize : ∀ n : UInt16, n.toNat ≤ total → size n ≤ 64)
    (hwritten : ∀ n : UInt16, n.toNat ≤ total → written n ≤ 63) :
    MbSound func pucFrame usLen sv (mbFuncRead func countOk bytes size cb pucFrame usLen sv) := by
  unfold mbFuncRead
  dsimp only
  by_cases hlen : usLen = 5
  · rw [if_pos hlen]
    by_cases hcount : 1 ≤ frameWord pucFrame 3 ∧ countOk (frameWord pucFrame 3) = true
    · rw [if_pos hcount]
      have hhead (i : Nat) (hi : 66 ≤ i) :
          Function.update (Function.update pucFrame 0 func) 1 (bytes (frameWord pucFrame 3)) i = pucFrame i := by
        rw [Function.update_of_ne (by omega), Function.update_of_ne (by omega)]
      cases hread : cb sv 2 (frameWord pucFrame 1 + 1) (frameWord pucFrame 3)
          (Function.update (Function.update pucFrame 0 func) 1 (bytes (frameWord pucFrame 3))) with
      | none =>
        exact
          { length := fun h => by cases h
            kept := fun _ => Or.inr rfl
            code := fun h => by cases h
            behind := hhead
            exception := Or.inr (Or.inl rfl)
            server := fun _ => rfl }
      | some frame' =>
        have hn := hcb.served hread
        have hs := hsize _ hn
        have hw := hwritten _ hn
        exact
          { length := fun _ => ⟨by dsimp only; omega, by dsimp only; omega⟩
            kept := fun h => absurd rfl h
            code := fun _ => by
              dsimp only
              rw [hcb.behind hread 0 (Or.inl (by decide)), Function.update_of_ne (by decide), Function.update_self]
            behind := fun i hi => (hcb.behind hread i (Or.inr (by omega))).trans (hhead i hi)
            exception := Or.inl rfl
            server := fun h => absurd rfl h }
    · rw [if_neg hcount]
      exact mbSound_refused func
  · rw [if_neg hlen]
    exact mbSound_refused func

theorem ucNBytes_toNat {n : UInt16} (hn : n.toNat < 2040) : (ucNBytes n).toNat = (n.toNat + 7) / 8 := by
  have hlow : (n &&& 0x0007).toNat = n.toNat % 8 := by
    rw [UInt16.toNat_and]
    exact Nat.and_two_pow_sub_one_eq_mod n.toNat 3
  have hdiv : (n / 8).toNat = n.toNat / 8 := UInt16.toNat_div ..
  unfold ucNBytes
  by_cases hrest : n &&& 0x0007 = 0
  · have hzero : n.toNat % 8 = 0 := by rw [← hlow, hrest]; rfl
    rw [if_neg (not_not.2 hrest), UInt16.toNat_toUInt8, hdiv]
    omega
  · have hpos : n.toNat % 8 ≠ 0 := fun h => hrest (UInt16.toNat_inj.1 (hlow.trans h))
    rw [if_pos hrest, UInt16.toNat_toUInt8, UInt16.toNat_add, hdiv, UInt16.toNat_one]
    omega

theorem ucNBytes_le {n : UInt16} (hn : n.toNat ≤ 64) : (ucNBytes n).toNat ≤ 64 := by
  rw [ucNBytes_toNat (by omega)]
  omega

theorem readCoils_sound : MbSound 1 pucFrame usLen sv (eMBFuncReadCoils pucFrame usLen sv) := by
  have hcb : ReadsWithin 32 (fun n => n.toNat / 8) (eMBRegCoilsCBRead sv) := readBits_within _ 32
  exact mbFuncRead_sound hcb (fun n hn => ucNBytes_le (by omega)) fun n hn => by omega

theorem readDiscrete_sound : MbSound 2 pucFrame usLen sv (eMBFuncReadDiscreteInputs pucFrame usLen sv) := by
  have hcb : ReadsWithin 64 (fun n => n.toNat / 8) (eMBRegDiscreteCB sv) := readBits_within _ 64
  exact mbFuncRead_sound hcb (fun n hn => ucNBytes_le hn) fun n hn => by omega

theorem readHolding_sound : MbSound 3 pucFrame usLen sv (eMBFuncReadHoldingRegister pucFrame usLen sv) := by
  have hcb : ReadsWithin 32 (fun n => 2 * n.toNat - 1) (eMBRegHoldingCBRead sv) := readRegs_within _ 32
  exact mbFuncRead_sound hcb (fun n hn => by omega) fun n hn => by omega

theorem readInput_sound : MbSound 4 pucFrame usLen sv (eMBFuncReadInputRegister pucFrame usLen sv) := by
  have hcb : ReadsWithin 32 (fun n => 2 * n.toNat - 1) (eMBRegInputCB sv) := readRegs_within _ 32
  exact mbFuncRead_sound hcb (fun n hn => by omega) fun n hn => by omega

/-- A write callback serves the request or leaves everything as it is. -/
def Served (sv : MbServer) (r : MbErrorCode × MbServer) : Prop := r = (.mbEnoreg, sv) ∨ r.1 = .mbEnoerr

theorem coilsWrite_served (reg : Nat → UInt8) (usAddress usNCoils : UInt16) :
    Served sv (eMBRegCoilsCBWrite reg usAddress usNCoils sv) := by
  unfold eMBRegCoilsCBWrite
  cases eMBRegCoilsCB reg usAddress usNCoils sv.state.modbus.ucSCoilBuf with
  | none => exact Or.inl rfl
  | some r => exact Or.inr rfl

theorem holdingWrite_served (reg : Nat → UInt8) (usAddress usNRegs : UInt16) :
    Served sv (eMBRegHoldingCBWrite reg usAddress usNRegs sv) := by
  unfold eMBRegHoldingCBWrite
  cases eMBRegHoldingCB reg usAddress usNRegs sv.state.modbus.usSRegHoldBuf with
  | none => exact Or.inl rfl
  | some r => exact Or.inr rfl

/-- A write function that has made its callback. -/
theorem mbSound_write {func : UInt8} {r : MbErrorCode × MbServer} {len : Nat} (h : Served sv r) (hfunc : pucFrame 0 = func)
    (hlen : r.1 = .mbEnoerr → len = 5) (hkept : r.1 = .mbEnoreg → len = usLen) : MbSound func pucFrame usLen sv ⟨prveMBError2Exception r.1, pucFrame, len, r.2⟩ := by
  rcases h with rfl | hok
  · exact
      { length := fun h => by cases h
        kept := fun _ => Or.inl (hkept rfl)
        code := fun h => by cases h
        behind := fun _ _ => rfl
        exception := Or.inr (Or.inl rfl)
        server := fun _ => rfl }
  · have hnone : prveMBError2Exception r.1 = .mbExNone := by rw [hok]; rfl
    exact
      { length := fun _ => by
          have hfive := hlen hok
          exact ⟨by dsimp only; omega, by dsimp only; omega⟩
        kept := fun h => absurd hnone h
        code := fun _ => hfunc
        behind := fun _ _ => rfl
        exception := Or.inl hnone
        server := fun h => absurd hnone h }

theorem writeCoil_sound (hfunc : pucFrame 0 = 5) : MbSound 5 pucFrame usLen sv (eMBFuncWriteCoil pucFrame usLen sv) := by
  unfold eMBFuncWriteCoil
  dsimp only
  by_cases hlen : usLen = 5
  · rw [if_pos hlen]
    by_cases hvalue : pucFrame 4 = 0 ∧ (pucFrame 3 = 0xFF ∨ pucFrame 3 = 0)
    · rw [if_pos hvalue]
      exact mbSound_write (coilsWrite_served _ _ _) hfunc (fun _ => hlen) fun _ => rfl
    · rw [if_neg hvalue]
      exact mbSound_refused 5
  · rw [if_neg hlen]
    exact mbSound_refused 5

theorem writeMultipleCoils_sound (hfunc : pucFrame 0 = 15) :
    MbSound 15 pucFrame usLen sv (eMBFuncWriteMultipleCoils pucFrame usLen sv) := by
  unfold eMBFuncWriteMultipleCoils
  dsimp only
  by_cases hlen : usLen > 5
  · rw [if_pos hlen]
    split
    · exact mbSound_write (coilsWrite_served _ _ _) hfunc (fun hok => if_pos hok) fun hreg =>
        if_neg (by rw [hreg]; decide)
    · exact mbSound_refused 15
  · rw [if_neg hlen]
    exact mbSound_refused 15

theorem writeHolding_sound (hfunc : pucFrame 0 = 6) :
    MbSound 6 pucFrame usLen sv (eMBFuncWriteHoldingRegister pucFrame usLen sv) := by
  unfold eMBFuncWriteHoldingRegister
  dsimp only
  by_cases hlen : usLen = 5
  · rw [if_pos hlen]
    exact mbSound_write (holdingWrite_served _ _ _) hfunc (fun _ => hlen) fun _ => rfl
  · rw [if_neg hlen]
    exact mbSound_refused 6

theorem writeMultipleHolding_sound (hfunc : pucFrame 0 = 16) :
    MbSound 16 pucFrame usLen sv (eMBFuncWriteMultipleHoldingRegister pucFrame usLen sv) := by
  unfold eMBFuncWriteMultipleHoldingRegister
  dsimp only
  by_cases hlen : usLen ≥ 6
  · rw [if_pos hlen]
    split
    · exact mbSound_write (holdingWrite_served _ _ _) hfunc (fun hok => if_pos hok) fun hreg =>
        if_neg (by rw [hreg]; decide)
    · exact mbSound_refused 16
  · rw [if_neg hlen]
    exact mbSound_refused 16

/-! Every request. -/

/-- Registers are to be written and others read that do not exist. -/
def WritesThenFails (pucFrame : Nat → UInt8) (sv : MbServer) (r : MbReply) : Prop :=
  pucFrame 0 = 23 ∧ r.eException = .mbExIllegalDataAddress ∧ r.usLen = 2 ∧
    r.server = (eMBRegHoldingCBWrite (fun i => pucFrame (10 + i)) (frameWord pucFrame 5 + 1) (frameWord pucFrame 7) sv).2 ∧
    32 < (frameWord pucFrame 1).toNat + (frameWord pucFrame 3).toNat

theorem readWriteMultiple_cases (hfunc : pucFrame 0 = 23) (hpos : 1 ≤ usLen) :
    let r := eMBFuncReadWriteMultipleHoldingRegister pucFrame usLen sv
    MbSound 23 pucFrame usLen sv r ∨ WritesThenFails pucFrame sv r ∧ ∀ i, 66 ≤ i → r.pucFrame i = pucFrame i := by
  intro r
  change MbSound 23 pucFrame usLen sv (eMBFuncReadWriteMultipleHoldingRegister pucFrame usLen sv) ∨
    WritesThenFails pucFrame sv (eMBFuncReadWriteMultipleHoldingRegister pucFrame usLen sv) ∧
      ∀ i, 66 ≤ i → (eMBFuncReadWriteMultipleHoldingRegister pucFrame usLen sv).pucFrame i = pucFrame i
  unfold eMBFuncReadWriteMultipleHoldingRegister
  dsimp only
  by_cases hlen : usLen ≥ 10
  · rw [if_pos hlen]
    split
    · rcases @holdingWrite_served sv (fun i => pucFrame (10 + i)) (frameWord pucFrame 5 + 1)
        (frameWord pucFrame 7) with hrefused | hok
      · rw [hrefused, if_neg (fun h => by cases h)]
        exact Or.inl
          { length := fun h => by cases h
            kept := fun _ => Or.inl rfl
            code := fun h => by cases h
            behind := fun _ _ => rfl
            exception := Or.inr (Or.inl rfl)
            server := fun _ => rfl }
      · rw [if_pos hok]
        generalize hw : eMBRegHoldingCBWrite (fun i => pucFrame (10 + i)) (frameWord pucFrame 5 + 1)
          (frameWord pucFrame 7) sv = w
        generalize hhead : Function.update (Function.update pucFrame 0 23) 1 (frameWord pucFrame 3 * 2).toUInt8 = head
        have hbehind (i : Nat) (hi : 66 ≤ i) : head i = pucFrame i := by
          rw [← hhead, Function.update_of_ne (by omega), Function.update_of_ne (by omega)]
        have hwithin := readRegs_within w.2.state.modbus.usSRegHoldBuf 32
        cases hread : eMBRegHoldingCBRead w.2 2 (frameWord pucFrame 1 + 1) (frameWord pucFrame 3) head with
        | none =>
          refine Or.inr ⟨⟨hfunc, rfl, rfl, by rw [hw], ?_⟩, hbehind⟩
          unfold eMBRegHoldingCBRead mbReadRegs at hread
          dsimp only at hread
          rw [UInt16.add_sub_cancel] at hread
          by_contra hle
          rw [if_pos (by omega)] at hread
          cases hread
        | some frame' =>
          have hn := hwithin.served hread
          exact Or.inl
            { length := fun _ => ⟨by dsimp only; omega, by dsimp only; omega⟩
              kept := fun h => absurd rfl h
              code := fun _ => by
                dsimp only
                rw [hwithin.behind hread 0 (Or.inl (by decide)), ← hhead, Function.update_of_ne (by decide),
                  Function.update_self]
              behind := fun i hi => (hwithin.behind hread i (Or.inr (by omega))).trans (hbehind i hi)
              exception := Or.inl rfl
              server := fun h => absurd rfl h }
    · exact Or.inl (mbSound_refused 23)
  · -- too short: the request itself goes back
    rw [if_neg hlen]
    exact Or.inl
      { length := fun _ => ⟨hpos, by dsimp only; omega⟩
        kept := fun h => absurd rfl h
        code := fun _ => hfunc
        behind := fun _ _ => rfl
        exception := Or.inl rfl
        server := fun h => absurd rfl h }

/-- What the handler of a function code keeps to. -/
theorem handler_cases (hpos : 1 ≤ usLen) {h : UInt8 × MbHandler} (hh : h ∈ xFuncHandlers) (hfunc : pucFrame 0 = h.1) :
    MbSound h.1 pucFrame usLen sv (h.2 pucFrame usLen sv) ∨
      WritesThenFails pucFrame sv (h.2 pucFrame usLen sv) ∧ ∀ i, 66 ≤ i → (h.2 pucFrame usLen sv).pucFrame i = pucFrame i := by
  simp only [xFuncHandlers, List.mem_cons, List.not_mem_nil, or_false] at hh
  rcases hh with rfl | rfl | rfl | rfl | rfl | rfl | rfl | rfl | rfl | rfl
  · exact Or.inl
      { length := fun _ => ⟨le_rfl, (by decide : 1 ≤ 66)⟩
        kept := fun h => absurd rfl h
        code := fun _ => hfunc
        behind := fun _ _ => rfl
        exception := Or.inl rfl
        server := fun h => absurd rfl h }
  · exact Or.inl readInput_sound
  · exact Or.inl readHolding_sound
  · exact Or.inl (writeMultipleHolding_sound hfunc)
  · exact Or.inl (writeHolding_sound hfunc)
  · exact readWriteMultiple_cases hfunc hpos
  · exact Or.inl readCoils_sound
  · exact Or.inl (writeCoil_sound hfunc)
  · exact Or.inl (writeMultipleCoils_sound hfunc)
  · exact Or.inl readDiscrete_sound

/-- A request without a handler is refused; the others go to theirs. -/
theorem execute_cases (hpos : 1 ≤ usLen) :
    let r := mbExecute pucFrame usLen sv
    (r.eException = .mbExIllegalFunction ∧ r.usLen = usLen ∧ r.pucFrame = pucFrame ∧ r.server = sv) ∨
      MbSound (pucFrame 0) pucFrame usLen sv r ∨
      WritesThenFails pucFrame sv r ∧ ∀ i, 66 ≤ i → r.pucFrame i = pucFrame i := by
  unfold mbExecute
  cases hfind : xFuncHandlers.find? (·.1 = pucFrame 0) with
  | none => exact Or.inl ⟨rfl, rfl, rfl, rfl⟩
  | some h =>
    have hfunc : pucFrame 0 = h.1 := by simpa [eq_comm] using List.find?_some hfind
    rw [hfunc]
    exact Or.inr (handler_cases hpos (List.mem_of_find?_eq_some hfind) hfunc)

/-- What a function leaves is no longer than a request. -/
theorem execute_length (hpos : 1 ≤ usLen) (hle : usLen ≤ 253) :
    1 ≤ (mbExecute pucFrame usLen sv).usLen ∧ (mbExecute pucFrame usLen sv).usLen ≤ 253 := by
  rcases @execute_cases pucFrame usLen sv hpos with ⟨-, hlen, -⟩ | hsound | ⟨⟨-, -, hlen, -⟩, -⟩
  · omega
  · by_cases hnone : (mbExecute pucFrame usLen sv).eException = .mbExNone
    · have := hsound.length hnone
      omega
    · rcases hsound.kept hnone with h | h <;> omega
  · omega

/-- A reply is marked as an exception, or carries the request's function code. -/
structure ReplySound (pucFrame : Nat → UInt8) (sv : MbServer) (r : MbReply) : Prop where
  length : 1 ≤ r.usLen ∧ r.usLen ≤ 66
  code : r.pucFrame 0 = if r.eException = .mbExNone then pucFrame 0 else pucFrame 0 ||| 0x80
  exceptionCode : r.eException ≠ .mbExNone → r.usLen = 2 ∧ r.pucFrame 1 = r.eException.code
  behind : ∀ i, 66 ≤ i → r.pucFrame i = pucFrame i
  server : r.eException ≠ .mbExNone → r.server = sv ∨
    pucFrame 0 = 23 ∧
      r.server = (eMBRegHoldingCBWrite (fun i => pucFrame (10 + i)) (frameWord pucFrame 5 + 1)
        (frameWord pucFrame 7) sv).2 ∧
      32 < (frameWord pucFrame 1).toNat + (frameWord pucFrame 3).toNat

/-- **Every reply.** -/
theorem reply_sound (pucFrame : Nat → UInt8) (usLen : Nat) (sv : MbServer) (hpos : 1 ≤ usLen) :
    ReplySound pucFrame sv (mbReply pucFrame usLen sv) := by
  have hcases := @execute_cases pucFrame usLen sv hpos
  unfold mbReply
  dsimp only at hcases ⊢
  generalize mbExecute pucFrame usLen sv = r at hcases ⊢
  have hbehind : ∀ i, 66 ≤ i → r.pucFrame i = pucFrame i := by
    rcases hcases with ⟨-, -, hframe, -⟩ | hsound | ⟨-, hbehind⟩
    · exact fun i _ => congrFun hframe i
    · exact hsound.behind
    · exact hbehind
  by_cases hnone : r.eException = .mbExNone
  · rw [if_neg (not_not.2 hnone)]
    have hsound : MbSound (pucFrame 0) pucFrame usLen sv r := by
      rcases hcases with ⟨hillegal, -⟩ | hsound | ⟨⟨-, haddress, -⟩, -⟩
      · exact absurd (hnone.symm.trans hillegal) (by decide)
      · exact hsound
      · exact absurd (hnone.symm.trans haddress) (by decide)
    exact
      { length := hsound.length hnone
        code := by rw [if_pos hnone, hsound.code hnone]
        exceptionCode := fun h => absurd hnone h
        behind := hbehind
        server := fun h => absurd hnone h }
  · rw [if_pos hnone]
    exact
      { length := ⟨by dsimp only; omega, by dsimp only; omega⟩
        code := by
          dsimp only
          rw [if_neg hnone, Function.update_of_ne (by decide), Function.update_self]
        exceptionCode := fun _ => ⟨rfl, by simp only [Function.update_self]⟩
        behind := fun i hi => by
          dsimp only
          rw [Function.update_of_ne (by omega), Function.update_of_ne (by omega), hbehind i hi]
        server := fun _ => by
          rcases hcases with ⟨-, -, -, hserver⟩ | hsound | ⟨⟨hfunc, -, -, hserver, hrange⟩, -⟩
          · exact Or.inl hserver
          · exact Or.inl (hsound.server hnone)
          · exact Or.inr ⟨hfunc, hserver, hrange⟩ }

def sampleServer : MbServer := ⟨sampleStart, fun _ => 0, fun _ => 0⟩

/-- A write of nine coils from the third on. -/
def samplePdu : Nat → UInt8 := fun i => [15, 0, 2, 0, 9, 2, 0xA5, 0x01].getD i 0

theorem reply_sound_sample : ReplySound samplePdu sampleServer (mbReply samplePdu 8 sampleServer) :=
  reply_sound samplePdu 8 sampleServer (by decide)

/-- No function makes much of an empty request. -/
theorem execute_empty (pucFrame : Nat → UInt8) (sv : MbServer) : (mbExecute pucFrame 0 sv).usLen ≤ 1 := by
  unfold mbExecute
  cases hfind : xFuncHandlers.find? (·.1 = pucFrame 0) with
  | none => exact Nat.zero_le 1
  | some h =>
    have hh := List.mem_of_find?_eq_some hfind
    simp only [xFuncHandlers, List.mem_cons, List.not_mem_nil, or_false] at hh
    rcases hh with rfl | rfl | rfl | rfl | rfl | rfl | rfl | rfl | rfl | rfl
    · exact le_rfl
    all_goals exact Nat.zero_le 1

/-- A reply is short, whatever the length the request is said to have. -/
theorem reply_length_le (pucFrame : Nat → UInt8) (usLen : Nat) (sv : MbServer) :
    (mbReply pucFrame usLen sv).usLen ≤ 66 := by
  cases usLen with
  | zero =>
    have hempty := execute_empty pucFrame sv
    unfold mbReply
    dsimp only
    split
    · exact (by decide : 2 ≤ 66)
    · omega
  | succ n => exact (reply_sound pucFrame (n + 1) sv n.succ_pos).length.2

/-! Reading bits. -/

/-- The reply to a read of `n` bits from `start` on of a table that holds `total`:
the bits, the rest of the last byte clear. -/
structure BitsReply (func : UInt8) (byteBuf : Nat → UInt8) (start n : Nat) (r : MbReply) : Prop where
  exception : r.eException = .mbExNone
  length : r.usLen = 2 + (n + 7) / 8
  func : r.pucFrame 0 = func
  bytes : (r.pucFrame 1).toNat = (n + 7) / 8
  bits : ∀ j < 8 * ((n + 7) / 8), bitAt (fun i => r.pucFrame (2 + i)) j = (decide (j < n) && bitAt byteBuf (start + j))

/-- What a read of bits comes to. -/
def BitsAnswered (func : UInt8) (byteBuf : Nat → UInt8) (total : Nat) (pucFrame : Nat → UInt8) (usLen : Nat)
    (r : MbReply) : Prop :=
  let start := (frameWord pucFrame 1).toNat
  let n := (frameWord pucFrame 3).toNat
  if usLen ≠ 5 ∨ n = 0 ∨ 0x07D0 ≤ n then r.eException = .mbExIllegalDataValue
  else if total < start + n then r.eException = .mbExIllegalDataAddress
  else BitsReply func byteBuf start n r

theorem mbFuncRead_bits (func : UInt8) {cb : MbServer → Nat → UInt16 → UInt16 → (Nat → UInt8) → Option (Nat → UInt8)}
    {byteBuf : Nat → UInt8} {total : Nat} (hcb : cb sv = mbReadBits byteBuf total) :
    BitsAnswered func byteBuf total pucFrame usLen
      (mbFuncRead func (· < 0x07D0) ucNBytes (fun n => (ucNBytes n).toNat) cb pucFrame usLen sv) := by
  have hcount : 1 ≤ frameWord pucFrame 3 ∧ decide (frameWord pucFrame 3 < 0x07D0) = true ↔
      ¬ ((frameWord pucFrame 3).toNat = 0 ∨ 0x07D0 ≤ (frameWord pucFrame 3).toNat) := by
    rw [decide_eq_true_eq, UInt16.le_iff_toNat_le, UInt16.lt_iff_toNat_lt]
    change 1 ≤ _ ∧ _ < 2000 ↔ _
    omega
  unfold BitsAnswered mbFuncRead
  dsimp only
  by_cases hlen : usLen = 5
  · rw [if_pos hlen]
    by_cases hn : (frameWord pucFrame 3).toNat = 0 ∨ 0x07D0 ≤ (frameWord pucFrame 3).toNat
    · rw [if_pos (Or.inr hn), if_neg (fun h => hcount.1 h hn)]
    · rw [if_neg (by omega), if_pos (hcount.2 hn), hcb]
      generalize hhead : Function.update (Function.update pucFrame 0 func) 1 (ucNBytes (frameWord pucFrame 3)) = head
      by_cases hin : (frameWord pucFrame 1).toNat + (frameWord pucFrame 3).toNat ≤ total
      · rw [if_neg (by omega)]
        have hbytes := @ucNBytes_toNat (frameWord pucFrame 3) (by omega)
        cases hread : mbReadBits byteBuf total 2 (frameWord pucFrame 1 + 1) (frameWord pucFrame 3) head with
        | none =>
          unfold mbReadBits at hread
          dsimp only at hread
          rw [UInt16.add_sub_cancel, if_pos hin] at hread
          cases hread
        | some frame' =>
          have hspec := fun j => @bits_read_spec _ _ _ _ _ _ _ hread j
          rw [UInt16.add_sub_cancel] at hspec
          exact
            { exception := rfl
              length := by rw [hbytes]
              func := by
                dsimp only
                rw [bits_read_frame hread (Or.inl (by decide)), ← hhead, Function.update_of_ne (by decide),
                  Function.update_self]
              bytes := by
                dsimp only
                rw [bits_read_frame hread (Or.inl (by decide)), ← hhead, Function.update_self, hbytes]
              bits := fun j hj => hspec j (by omega) }
      · rw [if_pos (by omega)]
        cases hread : mbReadBits byteBuf total 2 (frameWord pucFrame 1 + 1) (frameWord pucFrame 3) head with
        | none => rfl
        | some frame' =>
          unfold mbReadBits at hread
          dsimp only at hread
          rw [UInt16.add_sub_cancel, if_neg hin] at hread
          cases hread
  · rw [if_neg hlen, if_pos (Or.inl hlen)]

/-- **Reads of bits**, for every address, count and length. -/
theorem read_bits_reply (pucFrame : Nat → UInt8) (usLen : Nat) (sv : MbServer) :
    (pucFrame 0 = 1 →
      BitsAnswered 1 sv.state.modbus.ucSCoilBuf 32 pucFrame usLen (mbExecute pucFrame usLen sv)) ∧
    (pucFrame 0 = 2 → BitsAnswered 2 sv.ucSDiscInBuf 64 pucFrame usLen (mbExecute pucFrame usLen sv)) := by
  constructor
  · intro hfunc
    have hexec : mbExecute pucFrame usLen sv = eMBFuncReadCoils pucFrame usLen sv := by
      rw [mbExecute, hfunc]
      rfl
    rw [hexec]
    exact mbFuncRead_bits 1 rfl
  · intro hfunc
    have hexec : mbExecute pucFrame usLen sv = eMBFuncReadDiscreteInputs pucFrame usLen sv := by
      rw [mbExecute, hfunc]
      rfl
    rw [hexec]
    exact mbFuncRead_bits 2 rfl

/-! Coils over two requests. -/

/-- Before each poll coil 0 is made the valve. -/
theorem bitAt_mbDataCopy (s : State) (k : Nat) :
    bitAt (mbDataCopy s).modbus.ucSCoilBuf k =
      if k = 0 then decide (getValveStatus s.unit = .valveStatusOpen) else bitAt s.modbus.ucSCoilBuf k := by
  unfold mbDataCopy
  dsimp only
  rw [bitAt_update]
  by_cases hbyte : k / 8 = 0
  · have hset : ∀ j < 8, (1 : Nat).testBit j = decide (j = 0) := by decide
    have hclear : ∀ j < 8, (~~~1 : UInt8).toNat.testBit j = !decide (j = 0) := by decide
    have hk : k % 8 = k := by omega
    rw [if_pos hbyte, hk]
    cases hvalve : getValveStatus s.unit with
    | valveStatusOpen =>
      dsimp only
      rw [UInt8.toNat_or, Nat.testBit_or, show (1 : UInt8).toNat = 1 from rfl, hset k (by omega)]
      by_cases hzero : k = 0
      · rw [if_pos hzero, decide_eq_true hzero, Bool.or_true]
        rfl
      · rw [if_neg hzero, decide_eq_false hzero, Bool.or_false, bitAt, hbyte, hk]
    | valveStatusClose =>
      dsimp only
      rw [UInt8.toNat_and, Nat.testBit_and, hclear k (by omega)]
      by_cases hzero : k = 0
      · rw [if_pos hzero, decide_eq_true hzero, Bool.not_true, Bool.and_false]
        rfl
      · rw [if_neg hzero, decide_eq_false hzero, Bool.not_false, Bool.and_true, bitAt, hbyte, hk]
  · rw [if_neg hbyte, if_neg (by omega)]

/-- A write of several coils that is served. -/
theorem writeMultiple_served (hok : (eMBFuncWriteMultipleCoils pucFrame usLen sv).eException = .mbExNone) :
    ∃ runs buf, eMBRegCoilsCB (fun i => pucFrame (6 + i)) (frameWord pucFrame 1 + 1) (frameWord pucFrame 3)
        sv.state.modbus.ucSCoilBuf = some (runs, buf) ∧
      (eMBFuncWriteMultipleCoils pucFrame usLen sv).server.state.modbus.ucSCoilBuf = buf := by
  unfold eMBFuncWriteMultipleCoils at hok ⊢
  dsimp only at hok ⊢
  by_cases hlen : usLen > 5
  · rw [if_pos hlen] at hok ⊢
    split at hok
    · rename_i hvalid
      rw [if_pos hvalid]
      dsimp only at hok ⊢
      unfold eMBRegCoilsCBWrite at hok ⊢
      cases hcb : eMBRegCoilsCB (fun i => pucFrame (6 + i)) (frameWord pucFrame 1 + 1) (frameWord pucFrame 3)
          sv.state.modbus.ucSCoilBuf with
      | none =>
        rw [hcb] at hok
        cases hok
      | some r =>
        refine ⟨r.1, r.2, rfl, ?_⟩
        dsimp only
        by_cases hruns : r.1 = true
        · rw [if_pos hruns]
          unfold mbValveSingleControlWriteCallback
          split <;> rfl
        · rw [if_neg hruns]
    · cases hok
  · rw [if_neg hlen] at hok
    cases hok

/-- The reply of the poll after a write: coil `k` of the range it names. -/
def coilRead (pucFrame' : Nat → UInt8) (sv : MbServer) (k : Nat) : Bool :=
  bitAt (fun i => (mbExecute pucFrame' 5 { sv with state := mbDataCopy sv.state }).pucFrame (2 + i))
    (k - (frameWord pucFrame' 1).toNat)

/-- **Coils over the line.** After a write of several coils is served, a request
to read any coils reads coil 0 as the valve, a coil that was written as it was
written, and another one as before or as a bit left over in the last byte. -/
theorem coils_round_trip (pucFrame : Nat → UInt8) (usLen : Nat) (sv : MbServer) (hfunc : pucFrame 0 = 15)
    (hok : (mbExecute pucFrame usLen sv).eException = .mbExNone) (pucFrame' : Nat → UInt8) (hfunc' : pucFrame' 0 = 1)
    (hin : (frameWord pucFrame' 1).toNat + (frameWord pucFrame' 3).toNat ≤ 32) (k : Nat)
    (hlow : (frameWord pucFrame' 1).toNat ≤ k)
    (hhigh : k < (frameWord pucFrame' 1).toNat + (frameWord pucFrame' 3).toNat) :
    let start := (frameWord pucFrame 1).toNat
    let n := (frameWord pucFrame 3).toNat
    let after := (mbExecute pucFrame usLen sv).server
    coilRead pucFrame' after k =
      if k = 0 then decide (getValveStatus after.state.unit = .valveStatusOpen)
      else if start ≤ k ∧ k < start + n then bitAt (fun i => pucFrame (6 + i)) (k - start)
      else (bitAt sv.state.modbus.ucSCoilBuf k ||
        (decide (start ≤ k ∧ k < start + (n + 7) / 8 * 8) && bitAt (fun i => pucFrame (6 + i)) (k - start))) := by
  have hexec : mbExecute pucFrame usLen sv = eMBFuncWriteMultipleCoils pucFrame usLen sv := by
    rw [mbExecute, hfunc]
    rfl
  intro start n after
  rw [hexec] at hok
  obtain ⟨runs, buf, hwrite, hbuf⟩ := writeMultiple_served hok
  have hafter : after.state.modbus.ucSCoilBuf = buf := by
    rw [← hbuf, ← hexec]
  have hread := (read_bits_reply pucFrame' 5 { after with state := mbDataCopy after.state }).1 hfunc'
  unfold BitsAnswered at hread
  dsimp only at hread
  rw [if_neg (by omega), if_neg (by omega)] at hread
  have hbit := hread.bits (k - (frameWord pucFrame' 1).toNat) (by omega)
  rw [decide_eq_true (by omega), Bool.true_and, Nat.add_sub_cancel' hlow, bitAt_mbDataCopy, hafter] at hbit
  rw [coilRead, hbit]
  by_cases hzero : k = 0
  · rw [if_pos hzero, if_pos hzero]
  · rw [if_neg hzero, if_neg hzero, coils_write_spec hwrite, UInt16.add_sub_cancel]

theorem coils_round_trip_sample :
    coilRead (fun i => [1, 0, 0, 0, 16].getD i 0) (mbExecute samplePdu 8 sampleServer).server 10 = true :=
  (coils_round_trip samplePdu 8 sampleServer rfl (by decide +kernel) _ rfl (by decide) 10 (by decide) (by decide)).trans
    (by decide +kernel)

/-! What a request does to the unit. -/

/-- The event of the system a request amounts to; a write of no coils is a poll
that writes nothing. -/
def mbEvent (pucFrame : Nat → UInt8) (usLen : Nat) : Event :=
  let start := frameWord pucFrame 1 + 1
  let count := frameWord pucFrame 3
  if pucFrame 0 = 5 ∧ usLen = 5 ∧ pucFrame 4 = 0 ∧ (pucFrame 3 = 0xFF ∨ pucFrame 3 = 0) then
    .modbusCoils (fun i => if i = 0 ∧ pucFrame 3 = 0xFF then 1 else 0) start 1
  else if pucFrame 0 = 15 ∧ usLen > 5 ∧ 1 ≤ count ∧ count ≤ 0x07B0 ∧ ucNBytes count = pucFrame 5 then
    .modbusCoils (fun i => pucFrame (6 + i)) start count
  else if pucFrame 0 = 6 ∧ usLen = 5 then .modbusHolding (fun i => pucFrame (3 + i)) start 1
  else if pucFrame 0 = 16 ∧ usLen ≥ 6 ∧ 1 ≤ count ∧ count ≤ 0x0078 ∧ pucFrame 5 = (2 * count).toUInt8 then
    .modbusHolding (fun i => pucFrame (6 + i)) start count
  else if pucFrame 0 = 23 ∧ usLen ≥ 10 ∧ 1 ≤ count ∧ count ≤ 0x7D ∧ 1 ≤ frameWord pucFrame 7 ∧
      frameWord pucFrame 7 ≤ 0x79 ∧ 2 * (frameWord pucFrame 7).toNat = (pucFrame 9).toNat then
    .modbusHolding (fun i => pucFrame (10 + i)) (frameWord pucFrame 5 + 1) (frameWord pucFrame 7)
  else .modbusCoils pucFrame 0 0

/-- The coils callback of a poll, as the system's event has it. -/
theorem coilsWrite_state (reg : Nat → UInt8) (usAddress usNCoils : UInt16) (s : State) (hcount : 1 ≤ usNCoils)
    (hmax : usNCoils ≤ 0x7B0) :
    (eMBRegCoilsCBWrite reg usAddress usNCoils { sv with state := mbDataCopy s }).2.state =
      (Event.modbusCoils reg usAddress usNCoils).handle s := by
  unfold eMBRegCoilsCBWrite Event.handle mbWriteCoils
  dsimp only
  rw [if_pos ⟨hcount, hmax⟩]
  cases eMBRegCoilsCB reg usAddress usNCoils (mbDataCopy s).modbus.ucSCoilBuf with
  | none => rfl
  | some r => rfl

theorem holdingWrite_state (reg : Nat → UInt8) (usAddress usNRegs : UInt16) (s : State) (hcount : 1 ≤ usNRegs) :
    (eMBRegHoldingCBWrite reg usAddress usNRegs { sv with state := mbDataCopy s }).2.state =
      (Event.modbusHolding reg usAddress usNRegs).handle s := by
  unfold eMBRegHoldingCBWrite Event.handle mbWriteHolding
  dsimp only
  by_cases hmax : usNRegs ≤ 0x78
  · rw [if_pos ⟨hcount, hmax⟩]
    cases eMBRegHoldingCB reg usAddress usNRegs (mbDataCopy s).modbus.usSRegHoldBuf with
    | none => rfl
    | some r => rfl
  · -- more registers than the table has, whatever the function's own limit
    have hlarge : 0x78 < usNRegs.toNat := by
      rw [UInt16.le_iff_toNat_le] at hmax
      exact Nat.lt_of_not_le hmax
    have hnone : eMBRegHoldingCB reg usAddress usNRegs (mbDataCopy s).modbus.usSRegHoldBuf = none := by
      unfold eMBRegHoldingCB
      dsimp only
      rw [if_neg (by omega)]
    rw [if_neg (fun h => hmax h.2), hnone]

/-- A write of no coils is a poll that only refreshes the tables. -/
theorem poll_idle (reg : Nat → UInt8) (s : State) : (Event.modbusCoils reg 0 0).handle s = mbDataCopy s := by
  have hnone : ¬ ((1 : UInt16) ≤ 0 ∧ (0 : UInt16) ≤ 0x7B0) := by decide
  unfold Event.handle mbWriteCoils
  dsimp only
  rw [if_neg hnone]

/-- A request has one function code. -/
theorem not_func {a b : UInt8} {q : Prop} (hfunc : pucFrame 0 = a) (hab : a ≠ b) : ¬ (pucFrame 0 = b ∧ q) :=
  fun h => hab (hfunc.symm.trans h.1)

theorem mbFuncRead_server (func : UInt8) (countOk : UInt16 → Bool) (bytes : UInt16 → UInt8) (size : UInt16 → Nat)
    (cb : MbServer → Nat → UInt16 → UInt16 → (Nat → UInt8) → Option (Nat → UInt8)) :
    (mbFuncRead func countOk bytes size cb pucFrame usLen sv).server = sv := by
  unfold mbFuncRead
  dsimp only
  split
  · split
    · split <;> rfl
    · rfl
  · rfl

/-- A request that is not one of the five writes. -/
theorem mbEvent_other (h : pucFrame 0 ≠ 5 ∧ pucFrame 0 ≠ 15 ∧ pucFrame 0 ≠ 6 ∧ pucFrame 0 ≠ 16 ∧ pucFrame 0 ≠ 23) :
    mbEvent pucFrame usLen = .modbusCoils pucFrame 0 0 := by
  obtain ⟨h5, h15, h6, h16, h23⟩ := h
  unfold mbEvent
  dsimp only
  rw [if_neg (fun h => h5 h.1), if_neg (fun h => h15 h.1), if_neg (fun h => h6 h.1), if_neg (fun h => h16 h.1),
    if_neg (fun h => h23 h.1)]

theorem writeCoil_refines (hfunc : pucFrame 0 = 5) (s : State) :
    (eMBFuncWriteCoil pucFrame usLen { sv with state := mbDataCopy s }).server.state =
      (mbEvent pucFrame usLen).handle s := by
  unfold eMBFuncWriteCoil mbEvent
  dsimp only
  by_cases hlen : usLen = 5
  · rw [if_pos hlen]
    by_cases hvalue : pucFrame 4 = 0 ∧ (pucFrame 3 = 0xFF ∨ pucFrame 3 = 0)
    · rw [if_pos hvalue, if_pos ⟨hfunc, hlen, hvalue⟩]
      exact coilsWrite_state _ _ _ _ (by decide) (by decide)
    · rw [if_neg hvalue, if_neg (fun h => hvalue h.2.2), if_neg (not_func hfunc (by decide)),
        if_neg (not_func hfunc (by decide)), if_neg (not_func hfunc (by decide)), if_neg (not_func hfunc (by decide)),
        poll_idle]
  · rw [if_neg hlen, if_neg (fun h => hlen h.2.1), if_neg (not_func hfunc (by decide)),
      if_neg (not_func hfunc (by decide)), if_neg (not_func hfunc (by decide)), if_neg (not_func hfunc (by decide)),
      poll_idle]

theorem writeMultipleCoils_refines (hfunc : pucFrame 0 = 15) (s : State) :
    (eMBFuncWriteMultipleCoils pucFrame usLen { sv with state := mbDataCopy s }).server.state =
      (mbEvent pucFrame usLen).handle s := by
  unfold eMBFuncWriteMultipleCoils mbEvent
  dsimp only
  rw [if_neg (not_func hfunc (by decide))]
  by_cases hlen : usLen > 5
  · rw [if_pos hlen]
    by_cases hvalid : 1 ≤ frameWord pucFrame 3 ∧ frameWord pucFrame 3 ≤ 0x07B0 ∧
        ucNBytes (frameWord pucFrame 3) = pucFrame 5
    · rw [if_pos hvalid]
      refine (coilsWrite_state _ _ _ _ hvalid.1 hvalid.2.1).trans ?_
      rw [if_pos ⟨hfunc, hlen, hvalid⟩]
    · rw [if_neg hvalid, if_neg (fun h => hvalid h.2.2), if_neg (not_func hfunc (by decide)),
        if_neg (not_func hfunc (by decide)), if_neg (not_func hfunc (by decide)), poll_idle]
  · rw [if_neg hlen, if_neg (fun h => hlen h.2.1), if_neg (not_func hfunc (by decide)),
      if_neg (not_func hfunc (by decide)), if_neg (not_func hfunc (by decide)), poll_idle]

theorem writeHolding_refines (hfunc : pucFrame 0 = 6) (s : State) :
    (eMBFuncWriteHoldingRegister pucFrame usLen { sv with state := mbDataCopy s }).server.state =
      (mbEvent pucFrame usLen).handle s := by
  unfold eMBFuncWriteHoldingRegister mbEvent
  dsimp only
  rw [if_neg (not_func hfunc (by decide)), if_neg (not_func hfunc (by decide))]
  by_cases hlen : usLen = 5
  · rw [if_pos hlen, if_pos ⟨hfunc, hlen⟩]
    exact holdingWrite_state _ _ _ _ (by decide)
  · rw [if_neg hlen, if_neg (fun h => hlen h.2), if_neg (not_func hfunc (by decide)),
      if_neg (not_func hfunc (by decide)), poll_idle]

theorem writeMultipleHolding_refines (hfunc : pucFrame 0 = 16) (s : State) :
    (eMBFuncWriteMultipleHoldingRegister pucFrame usLen { sv with state := mbDataCopy s }).server.state =
      (mbEvent pucFrame usLen).handle s := by
  unfold eMBFuncWriteMultipleHoldingRegister mbEvent
  dsimp only
  rw [if_neg (not_func hfunc (by decide)), if_neg (not_func hfunc (by decide)), if_neg (not_func hfunc (by decide))]
  by_cases hlen : usLen ≥ 6
  · rw [if_pos hlen]
    by_cases hvalid : 1 ≤ frameWord pucFrame 3 ∧ frameWord pucFrame 3 ≤ 0x0078 ∧
        pucFrame 5 = (2 * frameWord pucFrame 3).toUInt8
    · rw [if_pos hvalid]
      refine (holdingWrite_state _ _ _ _ hvalid.1).trans ?_
      rw [if_pos ⟨hfunc, hlen, hvalid⟩]
    · rw [if_neg hvalid, if_neg (fun h => hvalid h.2.2), if_neg (not_func hfunc (by decide)), poll_idle]
  · rw [if_neg hlen, if_neg (fun h => hlen h.2.1), if_neg (not_func hfunc (by decide)), poll_idle]

theorem readWriteMultiple_refines (hfunc : pucFrame 0 = 23) (s : State) :
    (eMBFuncReadWriteMultipleHoldingRegister pucFrame usLen { sv with state := mbDataCopy s }).server.state =
      (mbEvent pucFrame usLen).handle s := by
  unfold eMBFuncReadWriteMultipleHoldingRegister mbEvent
  dsimp only
  rw [if_neg (not_func hfunc (by decide)), if_neg (not_func hfunc (by decide)), if_neg (not_func hfunc (by decide)),
    if_neg (not_func hfunc (by decide))]
  by_cases hlen : usLen ≥ 10
  · rw [if_pos hlen]
    by_cases hvalid : 1 ≤ frameWord pucFrame 3 ∧ frameWord pucFrame 3 ≤ 0x7D ∧ 1 ≤ frameWord pucFrame 7 ∧
        frameWord pucFrame 7 ≤ 0x79 ∧ 2 * (frameWord pucFrame 7).toNat = (pucFrame 9).toNat
    · rw [if_pos hvalid]
      have hwrite := @holdingWrite_state sv (fun i => pucFrame (10 + i)) (frameWord pucFrame 5 + 1)
        (frameWord pucFrame 7) s hvalid.2.2.1
      have hevent : (if pucFrame 0 = 23 ∧ usLen ≥ 10 ∧ 1 ≤ frameWord pucFrame 3 ∧ frameWord pucFrame 3 ≤ 0x7D ∧
          1 ≤ frameWord pucFrame 7 ∧ frameWord pucFrame 7 ≤ 0x79 ∧
          2 * (frameWord pucFrame 7).toNat = (pucFrame 9).toNat then
          Event.modbusHolding (fun i => pucFrame (10 + i)) (frameWord pucFrame 5 + 1) (frameWord pucFrame 7)
        else Event.modbusCoils pucFrame 0 0) = _ := if_pos ⟨hfunc, hlen, hvalid⟩
      rw [hevent, ← hwrite]
      -- the reply is read after the write, and changes nothing
      split
      · split <;> rfl
      · rfl
    · rw [if_neg hvalid, if_neg (fun h => hvalid h.2.2), poll_idle]
  · rw [if_neg hlen, if_neg (fun h => hlen h.2.1), poll_idle]

/-- **What a request does to the unit** is what one Modbus event of the system
does. -/
theorem execute_refines (pucFrame : Nat → UInt8) (usLen : Nat) (sv : MbServer) (s : State) :
    (mbExecute pucFrame usLen { sv with state := mbDataCopy s }).server.state =
      (mbEvent pucFrame usLen).handle s := by
  unfold mbExecute
  cases hfind : xFuncHandlers.find? (·.1 = pucFrame 0) with
  | none =>
    have hnone : ∀ func ∈ xFuncHandlers.map Prod.fst, pucFrame 0 ≠ func := by
      intro func hh hfunc
      obtain ⟨h, hmem, rfl⟩ := List.mem_map.1 hh
      have := List.find?_eq_none.1 hfind h hmem
      simp [hfunc] at this
    have hother := @mbEvent_other pucFrame usLen ⟨hnone 5 (by decide), hnone 15 (by decide), hnone 6 (by decide),
      hnone 16 (by decide), hnone 23 (by decide)⟩
    rw [hother, poll_idle]
  | some h =>
    have hfunc : pucFrame 0 = h.1 := by simpa [eq_comm] using List.find?_some hfind
    have hh := List.mem_of_find?_eq_some hfind
    simp only [xFuncHandlers, List.mem_cons, List.not_mem_nil, or_false] at hh
    have hread (hother : pucFrame 0 ≠ 5 ∧ pucFrame 0 ≠ 15 ∧ pucFrame 0 ≠ 6 ∧ pucFrame 0 ≠ 16 ∧ pucFrame 0 ≠ 23) :
        mbDataCopy s = (mbEvent pucFrame usLen).handle s := by
      rw [mbEvent_other hother, poll_idle]
    rcases hh with rfl | rfl | rfl | rfl | rfl | rfl | rfl | rfl | rfl | rfl
    · exact hread (by rw [hfunc]; decide)
    · rw [← hread (by rw [hfunc]; decide)]
      exact congrArg MbServer.state (mbFuncRead_server ..)
    · rw [← hread (by rw [hfunc]; decide)]
      exact congrArg MbServer.state (mbFuncRead_server ..)
    · exact writeMultipleHolding_refines hfunc s
    · exact writeHolding_refines hfunc s
    · exact readWriteMultiple_refines hfunc s
    · rw [← hread (by rw [hfunc]; decide)]
      exact congrArg MbServer.state (mbFuncRead_server ..)
    · exact writeCoil_refines hfunc s
    · exact writeMultipleCoils_refines hfunc s
    · rw [← hread (by rw [hfunc]; decide)]
      exact congrArg MbServer.state (mbFuncRead_server ..)

end Aqualarm
