import Aqualarm.Basic

/-
  lora_ota.c: receiving a firmware image into the `download` partition.

  The functions return the reply they hand to gateway_api.c. A successful erase
  sets the range to 0xFF, a successful write stores the bytes, and a failed
  operation changes nothing. A write before any `lora_ota_begin` goes through a
  null partition pointer: the unit is then lost (`fault`) until it is reset.
-/

namespace Aqualarm

/-- The static variables of lora_ota.c and the partition they write.
`dlPart` is whether `dl_part` is set. -/
structure Ota where
  updateFileTotalSize : Nat := 0
  updateFileCurSize : Nat := 0
  dlPart : Bool := false
  download : Nat → UInt8
  fault : Bool := false

/-- The length of the `download` partition (fal_cfg.h). -/
def downloadLen : Nat := 512 * 1024

inductive OtaReply where
  | respStart | ackTransfer | respEnd
  deriving DecidableEq, Repr

/-- `fal_partition_erase(dl_part, 0, size)`, where it succeeds. -/
def eraseDownload (size : Nat) (download : Nat → UInt8) : Nat → UInt8 :=
  fun i => if i < size then 0xFF else download i

/-- `fal_partition_write(dl_part, addr, buf, len)`, where it succeeds. -/
def writeDownload (addr : Nat) (buf : List UInt8) (download : Nat → UInt8) : Nat → UInt8 :=
  fun i => if addr ≤ i ∧ i < addr + buf.length then buf.getD (i - addr) 0 else download i

/-- `lora_ota_begin`. The total and the partition pointer are set before the
checks; `update_file_cur_size` is not touched. -/
def loraOtaBegin (env : Env) (fileSize : Nat) (ota : Ota) : Option OtaReply × Ota :=
  let ota := { ota with updateFileTotalSize := fileSize, dlPart := env.falPartitionFind }
  if ota.dlPart = false then (none, ota)
  else if ota.updateFileTotalSize > downloadLen then (none, ota)
  else if env.falPartitionErase = false then (none, ota)
  else (some .respStart, { ota with download := eraseDownload fileSize ota.download })

/-- `lora_ota_receive`. A packet away from the cursor is acknowledged and
dropped. The bound check of `fal_partition_write` adds in 32 bits. -/
def loraOtaReceive (env : Env) (buf : List UInt8) (offset : Nat) (ota : Ota) : Option OtaReply × Ota :=
  if ota.updateFileCurSize ≠ offset then (some .ackTransfer, ota)
  else if ota.dlPart = false then (none, { ota with fault := true })
  else if (ota.updateFileCurSize + buf.length) % 2 ^ 32 > downloadLen ∨ env.falPartitionWrite = false then
    (none, ota)
  else
    (some .ackTransfer,
      { ota with
        download := writeDownload ota.updateFileCurSize buf ota.download
        updateFileCurSize := (ota.updateFileCurSize + buf.length) % 2 ^ 32 })

end Aqualarm
