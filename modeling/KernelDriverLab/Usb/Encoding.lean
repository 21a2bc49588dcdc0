import KernelDriverLab.Usb.Types

/-!
# The encoding of the commands

The layout of a READ(10) or WRITE(10) command block puts the logical block address,
big-endian, into the bytes 2 to 5 and the transfer length into the bytes 7 and 8; the
bytes 1, 6 and from 9 on are 0.  `BlockTransfer.ofBytes` is a device that reads the 31
bytes of a command block wrapper in this way.

`SCSI_READ_10` and `SCSIWRITE_10` store both numbers one byte too early and their last
byte two bytes too early, so the device reads what was meant only when both are 0.

Each macro writes the length of the data twice, into the header of the wrapper and, in fewer
bits, into the command block.  `announced_eq_requested_iff` says when the two agree.
-/

namespace KernelDriverLab.Usb

open Lib
open UsbV1 (CommandBlockWrapper)

/-! ## The standard layout -/

/-- What a READ(10) or WRITE(10) asks for. -/
structure BlockTransfer where
  opcode : UInt8
  lba : ℕ
  numBlocks : ℕ
  dataTransferLength : ℕ
  dirIn : Bool
  cbLength : UInt8
deriving DecidableEq, Repr

namespace BlockTransfer

/-- The positions in a command block that neither field uses. -/
def reserved : List ℕ := [1, 6, 9, 10, 11, 12, 13, 14, 15]

/-- What a device reads in a command block wrapper. -/
def ofCbw (cbw : CommandBlockWrapper) : BlockTransfer where
  opcode := cbw.cdb 0
  lba := ofBeBytes [cbw.cdb 2, cbw.cdb 3, cbw.cdb 4, cbw.cdb 5]
  numBlocks := ofBeBytes [cbw.cdb 7, cbw.cdb 8]
  dataTransferLength := cbw.dCBWDataTransferLength.toNat
  dirIn := cbw.bmCBWFlags == 0x80
  cbLength := cbw.bCBWCBLength

/-- The wrapper in these bytes, when it has the form of a READ(10) or WRITE(10). -/
def ofBytes (bs : List UInt8) : Option BlockTransfer :=
  let cbw := CommandBlockWrapper.ofBytes bs
  if bs.length = 31 ∧ (cbw.bmCBWFlags = 0x80 ∨ cbw.bmCBWFlags = 0) ∧
      ∀ i ∈ reserved, cbw.cdb i = 0 then
    some (ofCbw cbw)
  else none

/-- What `SCSI_READ_10` is to ask for. -/
def read (lba numBlocks blockSize : ℕ) : BlockTransfer :=
  ⟨0x28, lba, numBlocks, numBlocks * blockSize, true, 10⟩

/-- What `SCSIWRITE_10` is to ask for. -/
def write (lba numBlocks blockSize : ℕ) : BlockTransfer :=
  ⟨0x2A, lba, numBlocks, numBlocks * blockSize, false, 10⟩

end BlockTransfer

/-! ## What the macros store -/

section Bytes

/-- `byteAt` takes the byte that starts at bit `n`. -/
lemma toNat_byteAt (x n : UInt32) : (byteAt x n).toNat = x.toNat / 2 ^ (n.toNat % 32) % 256 := by
  have hmask (m : ℕ) : m % 256 &&& 255 = m % 256 := by
    rw [show 255 = 2 ^ 8 - 1 from rfl, Nat.and_two_pow_sub_one_eq_mod, Nat.mod_mod]
  simp [byteAt, hmask, Nat.shiftRight_eq_div_pow]

lemma byteAt_eq_zero {x n : UInt32} : byteAt x n = 0 ↔ x.toNat / 2 ^ (n.toNat % 32) % 256 = 0 := by
  rw [← toNat_byteAt, ← UInt8.toNat_inj]
  rfl

lemma length_scsiCbw (len : UInt32) (flags cbLength : UInt8) {cdb : List UInt8}
    (hcdb : cdb.length ≤ 16) : (scsiCbw len flags cbLength cdb).bytes.length = 31 := by
  simp [CommandBlockWrapper.bytes, scsiCbw]
  omega

end Bytes

/-- What the device reads in a command block with both numbers where the macros store
them. -/
lemma ofBytes_scsiCbw (len lba n : UInt32) (opcode flags : UInt8) :
    BlockTransfer.ofBytes (scsiCbw len flags 10
      [opcode, byteAt lba 24, byteAt lba 16, byteAt lba 8, byteAt lba 0,
        byteAt n 8, byteAt n 0]).bytes =
      if (flags = 0x80 ∨ flags = 0) ∧ byteAt lba 24 = 0 ∧ byteAt n 0 = 0 then
        some ⟨opcode, ofBeBytes [byteAt lba 16, byteAt lba 8, byteAt lba 0, byteAt n 8], 0,
          len.toNat, flags == 0x80, 10⟩
      else none := by
  rw [BlockTransfer.ofBytes, length_scsiCbw _ _ _ (by simp), CommandBlockWrapper.ofBytes_bytes]
  simp [BlockTransfer.reserved, BlockTransfer.ofCbw, scsiCbw, CommandBlockWrapper.cdb, ofBeBytes]

section Exact

variable {lba numBlocks blockSize : ℕ}

/-- Both numbers are read back only when they are 0. -/
lemma ofBytes_eq_iff (hlba : lba < 2 ^ 32) (hn : numBlocks < 2 ^ 16) {opcode flags : UInt8}
    (hflags : flags = 0x80 ∨ flags = 0) :
    BlockTransfer.ofBytes (scsiCbw (.ofNat numBlocks * .ofNat blockSize) flags 10
      [opcode, byteAt (.ofNat lba) 24, byteAt (.ofNat lba) 16, byteAt (.ofNat lba) 8,
        byteAt (.ofNat lba) 0, byteAt (.ofNat numBlocks) 8, byteAt (.ofNat numBlocks) 0]).bytes =
      some ⟨opcode, lba, numBlocks, numBlocks * blockSize, flags == 0x80, 10⟩ ↔
    lba = 0 ∧ numBlocks = 0 := by
  rw [ofBytes_scsiCbw]
  simp only [hflags, true_and, byteAt_eq_zero, ofBeBytes, List.foldl_cons, List.foldl_nil,
    toNat_byteAt]
  have hlba' : (UInt32.ofNat lba).toNat = lba := by simp; omega
  have hn' : (UInt32.ofNat numBlocks).toNat = numBlocks := by simp; omega
  rw [hlba', hn']
  constructor
  · intro h
    simp at h
    omega
  · rintro ⟨rfl, rfl⟩
    simp

/-- **When the device reads what was meant.** For all arguments in the ranges of the two
fields, the device gets the block address, the number of blocks, the length, the direction
and the command length back from the wrapper if and only if both numbers are 0. -/
theorem ofBytes_eq_iff_zero (hlba : lba < 2 ^ 32) (hn : numBlocks < 2 ^ 16) :
    (BlockTransfer.ofBytes (scsiRead10 (.ofNat lba) (.ofNat numBlocks) (.ofNat blockSize)).bytes =
        some (.read lba numBlocks blockSize) ↔ lba = 0 ∧ numBlocks = 0) ∧
      (BlockTransfer.ofBytes (scsiWrite10 (.ofNat lba) (.ofNat numBlocks) (.ofNat blockSize)).bytes =
        some (.write lba numBlocks blockSize) ↔ lba = 0 ∧ numBlocks = 0) :=
  ⟨ofBytes_eq_iff hlba hn (.inl rfl), ofBytes_eq_iff hlba hn (.inr rfl)⟩

end Exact

theorem ofBytes_eq_iff_zero_zero :
    BlockTransfer.ofBytes (scsiRead10 0 0 512).bytes = some (.read 0 0 512) ∧
      BlockTransfer.ofBytes (scsiWrite10 0 0 512).bytes = some (.write 0 0 512) := by
  have h := @ofBytes_eq_iff_zero 0 0 512 (by decide) (by decide)
  exact ⟨h.1.2 ⟨rfl, rfl⟩, h.2.2 ⟨rfl, rfl⟩⟩

/-- **Other blocks are addressed.** One block at address 8 is read as no block at address
2048 with a non-zero reserved byte, and 256 blocks at address 1 as no block at 257. -/
theorem other_blocks_addressed :
    BlockTransfer.ofBytes (scsiRead10 8 1 512).bytes ≠ some (.read 8 1 512) ∧
      (BlockTransfer.ofBytes (scsiRead10 1 256 512).bytes).map (fun t => (t.lba, t.numBlocks)) =
        some (257, 0) := by
  decide

/-! ## The two lengths -/

namespace ScsiCommand

/-- The length of the data in the header of the wrapper. -/
def announced (c : ScsiCommand) : ℕ := c.cbw.dCBWDataTransferLength.toNat

/-- The length of the data that the command block asks for; that of READ CAPACITY(10) is
fixed.  The number of blocks is read where the macros store it. -/
def requested (c : ScsiCommand) : ℕ :=
  match c with
  | testUnitReady => 0
  | requestSense _ => (c.cbw.cdb 4).toNat
  | inquiry _ => ofBeBytes [c.cbw.cdb 3, c.cbw.cdb 4]
  | readCapacity10 => 8
  | read10 _ _ blockSize | write10 _ _ blockSize =>
      blockSize.toNat * ofBeBytes [c.cbw.cdb 5, c.cbw.cdb 6]

/-- What is cut off of the number of blocks does not count in 32 bits, and the rest does not
wrap.  It is so when the blocks fit into 16 bits and their bytes into 32. -/
def BlocksFit (numBlocks blockSize : UInt32) : Prop :=
  2 ^ 16 ∣ numBlocks.toNat / 2 ^ 16 * blockSize.toNat ∧
    numBlocks.toNat % 2 ^ 16 * blockSize.toNat < 2 ^ 32

/-- The arguments are small enough for the command block. -/
def Fits : ScsiCommand → Prop
  | requestSense allocLen | inquiry allocLen => allocLen.toNat < 256
  | read10 _ numBlocks blockSize | write10 _ numBlocks blockSize => BlocksFit numBlocks blockSize
  | testUnitReady | readCapacity10 => True

/-- The number of blocks in the command block has its low 16 bits. -/
lemma ofBeBytes_byteAt (n : UInt32) : ofBeBytes [byteAt n 8, byteAt n 0] = n.toNat % 2 ^ 16 := by
  have h8 : (byteAt n 8).toNat = n.toNat / 2 ^ 8 % 256 := toNat_byteAt n 8
  have h0 : (byteAt n 0).toNat = n.toNat / 2 ^ 0 % 256 := toNat_byteAt n 0
  simp only [ofBeBytes, List.foldl_cons, List.foldl_nil, h8, h0]
  omega

lemma toNat_mul_eq_iff (n b : UInt32) :
    (n * b).toNat = b.toNat * (n.toNat % 2 ^ 16) ↔ BlocksFit n b := by
  have hsplit : n.toNat * b.toNat =
      2 ^ 16 * (n.toNat / 2 ^ 16 * b.toNat) + n.toNat % 2 ^ 16 * b.toNat := by
    rw [← Nat.mul_assoc, ← Nat.add_mul, Nat.div_add_mod]
  rw [UInt32.toNat_mul, hsplit, Nat.mul_comm b.toNat, BlocksFit]
  omega

end ScsiCommand

/-- **When the two lengths agree.** The header announces what the command block asks for if
and only if the arguments fit. -/
theorem announced_eq_requested_iff (c : ScsiCommand) : c.announced = c.requested ↔ c.Fits := by
  cases c with
  | testUnitReady => exact iff_of_true rfl trivial
  | readCapacity10 => exact iff_of_true rfl trivial
  | requestSense n =>
    change n.toNat = n.toUInt8.toNat ↔ n.toNat < 256
    rw [UInt32.toNat_toUInt8]
    omega
  | inquiry n =>
    have h0 : (byteAt n 0).toNat = n.toNat / 2 ^ 0 % 256 := toNat_byteAt n 0
    change n.toNat = 256 * (256 * 0 + (0 : UInt8).toNat) + (byteAt n 0).toNat ↔ n.toNat < 256
    rw [h0, UInt8.toNat_zero]
    omega
  | read10 lba n b =>
    change (n * b).toNat = b.toNat * ofBeBytes [byteAt n 8, byteAt n 0] ↔ ScsiCommand.BlocksFit n b
    rw [ScsiCommand.ofBeBytes_byteAt, ScsiCommand.toNat_mul_eq_iff]
  | write10 lba n b =>
    change (n * b).toNat = b.toNat * ofBeBytes [byteAt n 8, byteAt n 0] ↔ ScsiCommand.BlocksFit n b
    rw [ScsiCommand.ofBeBytes_byteAt, ScsiCommand.toNat_mul_eq_iff]

/-- **Nothing checks the arguments.** An INQUIRY of 256 bytes asks for none of them, and a read
of 65536 blocks of 512 bytes announces 32 MiB and asks for nothing. -/
theorem lengths_disagree :
    ¬ (∀ c : ScsiCommand, c.announced = c.requested) ∧
      (ScsiCommand.inquiry 256).announced = 256 ∧ (ScsiCommand.inquiry 256).requested = 0 ∧
      (ScsiCommand.read10 0 65536 512).announced = 33554432 ∧
      (ScsiCommand.read10 0 65536 512).requested = 0 := by
  have h : (ScsiCommand.inquiry 256).announced ≠ (ScsiCommand.inquiry 256).requested := by decide
  exact ⟨fun hall => h (hall _), by decide⟩

end KernelDriverLab.Usb
