import Aqualarm.FrameReads

/-
  What the receiver programs: `lora_ota_begin` and `lora_ota_receive` called in
  any order from a reset, with any sizes, offsets and lengths, and with finds,
  erases and writes that fail.

  What is proved: `fresh_writes_iff` — every byte handed to
  `fal_partition_write` was erased by a `lora_ota_begin` that was answered, and
  has not been programmed since, throughout a run exactly when each packet at
  the cursor ends within the largest size announced so far and touches nothing
  that a failed write left programmed. `lora_ota_receive` looks at neither:
  `update_file_total_size` is only printed, and a packet is sent again after a
  write that failed.

  The bytes themselves play no part here. A write that fails may have programmed
  a start of its packet: how much, the call says.
-/

namespace Aqualarm

open Lib

/-- The receiver, and what the calls since the reset did to the partition. -/
structure FlashRun where
  ota : Ota
  /-- the largest size of a begin that was answered -/
  announced : Nat := 0
  /-- programmed by a write that failed, and not erased since -/
  torn : Nat → Bool := fun _ => false
  /-- erased by a begin that was answered, and not programmed since -/
  fresh : Nat → Bool := fun _ => false

/-- One call. `reached` is how far a failing write gets. -/
inductive FlashCall where
  | loraOtaBegin (env : Env) (fileSize : UInt32)
  | loraOtaReceive (env : Env) (offset : UInt32) (buf : List UInt8) (reached : Nat)

/-- `k` is one of the `len` addresses from `addr`. -/
def Covers (addr len k : Nat) : Prop := addr ≤ k ∧ k < addr + len

instance (addr len k : Nat) : Decidable (Covers addr len k) := inferInstanceAs (Decidable (_ ∧ _))

namespace FlashCall

/-- The receiver after the call. -/
def after (ota : Ota) : FlashCall → Ota
  | loraOtaBegin env fileSize => (Aqualarm.loraOtaBegin env fileSize.toNat ota).2
  | loraOtaReceive env offset buf _ => (Aqualarm.loraOtaReceive env buf offset.toNat ota).2

/-- The call erases `[0, erased)`. -/
def erased (ota : Ota) : FlashCall → Nat
  | loraOtaBegin env fileSize =>
    if (Aqualarm.loraOtaBegin env fileSize.toNat ota).1 = some .respStart then fileSize.toNat else 0
  | loraOtaReceive .. => 0

/-- How many bytes, from the cursor, the call hands to `fal_partition_write`. -/
def passed (ota : Ota) : FlashCall → Nat
  | loraOtaBegin .. => 0
  | loraOtaReceive _ offset buf _ => if ota.updateFileCurSize = offset.toNat then buf.length else 0

/-- Whether the write gets as far as the flash: the partition is set and the
bound, added in 32 bits, holds. -/
def Reaches (ota : Ota) (len : Nat) : Prop :=
  ota.dlPart = true ∧ (ota.updateFileCurSize + len) % 2 ^ 32 ≤ downloadLen

instance (ota : Ota) (len : Nat) : Decidable (Reaches ota len) := inferInstanceAs (Decidable (_ ∧ _))

/-- How many of the bytes passed are programmed by a write that succeeds. -/
def stored (ota : Ota) (c : FlashCall) : Nat :=
  match c with
  | loraOtaBegin .. => 0
  | loraOtaReceive env .. =>
    if Reaches ota (c.passed ota) ∧ env.falPartitionWrite = true then c.passed ota else 0

/-- How many of the bytes passed are programmed by a write that fails. -/
def spoiled (ota : Ota) (c : FlashCall) : Nat :=
  match c with
  | loraOtaBegin .. => 0
  | loraOtaReceive env _ _ reached =>
    if Reaches ota (c.passed ota) ∧ env.falPartitionWrite = false then min reached (c.passed ota) else 0

def perform (r : FlashRun) (c : FlashCall) : FlashRun where
  ota := c.after r.ota
  announced := max r.announced (c.erased r.ota)
  torn k :=
    decide (¬ k < c.erased r.ota ∧ (r.torn k = true ∨ Covers r.ota.updateFileCurSize (c.spoiled r.ota) k))
  fresh k :=
    decide (k < c.erased r.ota ∨ r.fresh k = true ∧ ¬ Covers r.ota.updateFileCurSize (c.stored r.ota) k ∧
      ¬ Covers r.ota.updateFileCurSize (c.spoiled r.ota) k)

end FlashCall

/-- The calls between two resets. A unit that faulted only resets. -/
def flashSessions : Machine FlashRun FlashCall where
  start r := ∃ download, r = { ota := { download } }
  next r c := if r.ota.fault = false then some (c.perform r) else none

/-! What should hold. -/

/-- What is handed to `fal_partition_write` is erased and not programmed since. -/
def FreshWrite (r : FlashRun) (c : FlashCall) : Prop :=
  ∀ k, Covers r.ota.updateFileCurSize (c.passed r.ota) k → r.fresh k = true

/-- The packet ends within the largest size announced, and touches nothing that
a failed write left programmed. -/
def FlashOk (r : FlashRun) (c : FlashCall) : Prop :=
  c.passed r.ota = 0 ∨
    r.ota.updateFileCurSize + c.passed r.ota ≤ r.announced ∧
      ∀ k, Covers r.ota.updateFileCurSize (c.passed r.ota) k → r.torn k = false

/-- From the cursor on, the fresh bytes are those announced and not torn. -/
structure FlashInv (r : FlashRun) : Prop where
  cursor : r.ota.updateFileCurSize ≤ downloadLen
  fits : r.announced ≤ downloadLen
  ahead : ∀ k, r.ota.updateFileCurSize ≤ k → (r.fresh k = true ↔ k < r.announced ∧ r.torn k = false)

/-! One call. -/

section
variable {r r' : FlashRun} {c : FlashCall}

/-- What a call erases fits in the partition. -/
theorem FlashCall.erased_le (ota : Ota) (c : FlashCall) : c.erased ota ≤ downloadLen := by
  cases c with
  | loraOtaBegin env fileSize =>
    simp only [FlashCall.erased]
    obtain ⟨_, hfits, _, he⟩ | ⟨_, he⟩ := loraOtaBegin_cases env fileSize.toNat ota
    · rw [he, if_pos rfl]
      exact hfits
    · rw [he, if_neg (by simp)]
      exact Nat.zero_le _
  | loraOtaReceive => exact Nat.zero_le _

/-- A call that stores nothing leaves the cursor; one that stores moves it past
what is passed, and neither erases nor spoils. -/
theorem FlashCall.cases (ota : Ota) (c : FlashCall) :
    (c.stored ota = 0 ∧ (c.after ota).updateFileCurSize = ota.updateFileCurSize) ∨
    (c.erased ota = 0 ∧ c.spoiled ota = 0 ∧ c.stored ota = c.passed ota ∧
      (c.after ota).updateFileCurSize = (ota.updateFileCurSize + c.passed ota) % 2 ^ 32) := by
  cases c with
  | loraOtaBegin env fileSize =>
    refine Or.inl ⟨rfl, ?_⟩
    simp only [FlashCall.after]
    obtain ⟨_, _, _, he⟩ | ⟨_, he⟩ := loraOtaBegin_cases env fileSize.toNat ota
    · rw [he]
    · rw [he]
  | loraOtaReceive env offset buf reached =>
    simp only [FlashCall.erased, FlashCall.after, true_and]
    by_cases hat : ota.updateFileCurSize = offset.toNat
    · have hpassed : (FlashCall.loraOtaReceive env offset buf reached).passed ota = buf.length := if_pos hat
      by_cases hreach : FlashCall.Reaches ota buf.length
      · cases hwrite : env.falPartitionWrite with
        | false =>
          refine Or.inl ⟨if_neg fun hc => absurd hc.2 (by rw [hwrite]; decide), ?_⟩
          rw [loraOtaReceive_refused hat hreach.1 (Or.inr hwrite)]
        | true =>
          -- stored: the cursor moves
          refine Or.inr ⟨if_neg fun hc => absurd hc.2 (by rw [hwrite]; decide), ?_, ?_⟩
          · exact if_pos ⟨by rw [hpassed]; exact hreach, hwrite⟩
          · rw [hpassed, loraOtaReceive_stored hat hreach.1 hreach.2 hwrite]
      · refine Or.inl ⟨if_neg fun hc => hreach (hpassed ▸ hc.1), ?_⟩
        cases hpart : ota.dlPart with
        | false => rw [loraOtaReceive_fault hat hpart]
        | true =>
          have hbig : ¬ (ota.updateFileCurSize + buf.length) % 2 ^ 32 ≤ downloadLen :=
            fun hle => hreach ⟨hpart, hle⟩
          rw [loraOtaReceive_refused hat hpart (Or.inl (Nat.lt_of_not_le hbig))]
    · have hpassed : (FlashCall.loraOtaReceive env offset buf reached).passed ota = 0 := if_neg hat
      refine Or.inl ⟨?_, by rw [loraOtaReceive_away hat]⟩
      simp only [FlashCall.stored, hpassed, ite_self]

theorem flashSessions_next (hn : flashSessions.next r c = some r') : c.perform r = r' := by
  simp only [flashSessions] at hn
  split at hn
  · exact Option.some.inj hn
  · cases hn

/-- **One call.** -/
theorem FlashInv.perform (h : FlashInv r) (hok : FlashOk r c) : FlashInv (c.perform r) := by
  have hle := c.erased_le r.ota
  have hfits : (c.perform r).announced ≤ downloadLen := Nat.max_le.2 ⟨h.fits, hle⟩
  obtain ⟨hstored, hcur⟩ | ⟨herased, hspoiled, hstored, hcur⟩ := FlashCall.cases r.ota c
  · -- nothing is stored: what is erased becomes fresh, what is spoiled torn
    have hcur' : (c.perform r).ota.updateFileCurSize = r.ota.updateFileCurSize := hcur
    refine ⟨hcur' ▸ h.cursor, hfits, fun k hk => ?_⟩
    have hahead := h.ahead k (hcur' ▸ hk)
    have hnone : ¬ Covers r.ota.updateFileCurSize 0 k := fun ⟨_, hlt⟩ => by omega
    have hfresh : (c.perform r).fresh k = true ↔
        k < c.erased r.ota ∨ (k < r.announced ∧ r.torn k = false) ∧
          ¬ Covers r.ota.updateFileCurSize (c.spoiled r.ota) k := by
      simp [FlashCall.perform, hstored, hahead, hnone]
    have htorn : (c.perform r).torn k = false ↔
        k < c.erased r.ota ∨ r.torn k = false ∧ ¬ Covers r.ota.updateFileCurSize (c.spoiled r.ota) k := by
      rw [FlashCall.perform, decide_eq_false_iff_not, Classical.not_and_iff_not_or_not, not_not, not_or,
        Bool.not_eq_true]
    have hann : k < (c.perform r).announced ↔ k < c.erased r.ota ∨ k < r.announced :=
      lt_max_iff.trans or_comm
    rw [hfresh, htorn, hann, and_assoc, or_and_left]
  · have hfree : (c.perform r).ota.updateFileCurSize = r.ota.updateFileCurSize + c.passed r.ota ∧
        r.ota.updateFileCurSize + c.passed r.ota ≤ downloadLen := by
      have hbound : r.ota.updateFileCurSize + c.passed r.ota ≤ downloadLen := by
        obtain hzero | ⟨hend, _⟩ := hok
        · rw [hzero]
          exact h.cursor
        · exact hend.trans h.fits
      have hlen : downloadLen < 2 ^ 32 := by decide
      exact ⟨hcur.trans (Nat.mod_eq_of_lt (by omega)), hbound⟩
    refine ⟨hfree.1 ▸ hfree.2, hfits, fun k hk => ?_⟩
    rw [hfree.1] at hk
    have hahead := h.ahead k (by omega)
    have hbehind : ∀ len, len ≤ c.passed r.ota → ¬ Covers r.ota.updateFileCurSize len k := by
      intro len hlen hc
      unfold Covers at hc
      omega
    simp [FlashCall.perform, herased, hspoiled, hstored, hahead, hbehind _ (Nat.zero_le _),
      hbehind _ (Nat.le_refl _)]

/-- What a call passes is fresh exactly when the call is as it should be. -/
theorem FlashInv.fresh_iff (h : FlashInv r) : FreshWrite r c ↔ FlashOk r c := by
  have hahead : ∀ k, Covers r.ota.updateFileCurSize (c.passed r.ota) k →
      (r.fresh k = true ↔ k < r.announced ∧ r.torn k = false) := fun k hk => h.ahead k hk.1
  constructor
  · intro hfresh
    by_cases hzero : c.passed r.ota = 0
    · exact Or.inl hzero
    · refine Or.inr ⟨?_, fun k hk => ((hahead k hk).1 (hfresh k hk)).2⟩
      -- the last byte passed is announced
      have hlast : Covers r.ota.updateFileCurSize (c.passed r.ota) (r.ota.updateFileCurSize + c.passed r.ota - 1) :=
        ⟨by omega, by omega⟩
      have hann := ((hahead _ hlast).1 (hfresh _ hlast)).1
      omega
  · rintro (hzero | ⟨hend, htorn⟩) k hk
    · rw [hzero] at hk
      obtain ⟨h₁, h₂⟩ := hk
      omega
    · exact (hahead k hk).2 ⟨hk.2.trans_le hend, htorn k hk⟩

end

/-- **Only fresh flash is programmed** along a run exactly when each packet ends
within what was announced and touches nothing torn. -/
theorem fresh_writes_iff (download : Nat → UInt8) (cs : List FlashCall) :
    flashSessions.Steps (fun r c _ => FreshWrite r c) { ota := { download } } cs ↔
      flashSessions.Steps (fun r c _ => FlashOk r c) { ota := { download } } cs := by
  have hstart : FlashInv { ota := { download } } := ⟨Nat.zero_le _, Nat.zero_le _, fun k _ => by simp⟩
  refine @Machine.steps_iff_of_inv _ _ flashSessions FlashInv _ _ _ hstart (fun r c r' hi hok hn => ?_)
    (fun r c r' hi _ => hi.fresh_iff) cs
  rw [← flashSessions_next hn]
  exact hi.perform hok

/-- Four bytes are announced and erased, and a packet programs eight; and a
packet whose write failed half way is programmed again. -/
theorem fresh_writes_fail :
    (¬ flashSessions.Steps (fun r c _ => FreshWrite r c) { ota := { download := fun _ => 0 } }
      [.loraOtaBegin sampleEnv 4, .loraOtaReceive sampleEnv 0 [1, 2, 3, 4, 5, 6, 7, 8] 0]) ∧
    ¬ flashSessions.Steps (fun r c _ => FreshWrite r c) { ota := { download := fun _ => 0 } }
      [.loraOtaBegin sampleEnv 4, .loraOtaReceive { sampleEnv with falPartitionWrite := false } 0 [1, 2, 3, 4] 2,
        .loraOtaReceive sampleEnv 0 [1, 2, 3, 4] 0] := by
  constructor
  · have hrun : ∃ r r',
        flashSessions.run { ota := { download := fun _ => 0 } } [.loraOtaBegin sampleEnv 4] = some r ∧
        flashSessions.next r (.loraOtaReceive sampleEnv 0 [1, 2, 3, 4, 5, 6, 7, 8] 0) = some r' ∧
        r.ota.updateFileCurSize = 0 ∧ r.fresh 4 = false :=
      ⟨_, _, rfl, rfl, by decide +kernel⟩
    obtain ⟨r, r', hr, hn, hcur, hbyte⟩ := hrun
    intro h
    have hfresh := h _ _ r r' List.prefix_rfl hr hn 4
    rw [FlashCall.passed, hcur, hbyte] at hfresh
    exact absurd (hfresh (by decide)) (by decide)
  · have hrun : ∃ r r', flashSessions.run { ota := { download := fun _ => 0 } }
          [.loraOtaBegin sampleEnv 4,
            .loraOtaReceive { sampleEnv with falPartitionWrite := false } 0 [1, 2, 3, 4] 2] = some r ∧
        flashSessions.next r (.loraOtaReceive sampleEnv 0 [1, 2, 3, 4] 0) = some r' ∧
        r.ota.updateFileCurSize = 0 ∧ r.fresh 0 = false :=
      ⟨_, _, rfl, rfl, by decide +kernel⟩
    obtain ⟨r, r', hr, hn, hcur, hbyte⟩ := hrun
    intro h
    have hfresh := h _ _ r r' List.prefix_rfl hr hn 0
    rw [FlashCall.passed, hcur, hbyte] at hfresh
    exact absurd (hfresh (by decide)) (by decide)

end Aqualarm
