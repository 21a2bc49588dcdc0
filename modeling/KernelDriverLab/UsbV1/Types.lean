import KernelDriverLab.Lib.Bytes
import KernelDriverLab.Lib.Ledger
import Mathlib.Logic.Function.Basic

/-!
# The data of `usbv1.c`

The records of the driver (`struct my_usb_storage`, the two wrappers of the
Bulk-Only transport), the parts of `struct urb` and `struct scsi_cmnd` it uses,
and the state of one device with everything the driver can reach.

The four URBs and the four buffers of a device are named by the field that
points to them.  A pointer field is `none` for NULL and otherwise the number the
ledger gave to the acquisition, so that a release can be checked against it.
-/

namespace KernelDriverLab.UsbV1

open Lib

/-! ## Constants -/

def CSW_SIG : UInt32 := 0x53425355
def CBW_SIG : UInt32 := 0x43425355
def CSW_LEN : ℕ := 13
def CBW_LEN : ℕ := 31
def DATA_LEN : ℕ := 512

/-- `DID_ERROR << 16` as a command result. -/
def didError : ℕ := 0x07 <<< 16

/-- `DID_ABORT << 16` as a command result. -/
def didAbort : ℕ := 0x05 <<< 16

/-- `SAM_STAT_GOOD`, which is also `(DID_OK << 16) | SAM_STAT_GOOD`. -/
def samStatGood : ℕ := 0

def ENOENT : Int := 2
def ENOMEM : Int := 12
def EBUSY : Int := 16
def EINVAL : Int := 22

/-- The return value `SUCCESS` of an error handler. -/
def SUCCESS : Int := 0x2002

/-- The return value `FAILED` of an error handler. -/
def FAILED : Int := 0x2003

/-- `fake_inquiry_response`. -/
def fakeInquiryResponse : List UInt8 :=
  [0x00, 0x80, 0x05, 0x02, 0x1F, 0x00, 0x00, 0x00,
    0x55, 0x53, 0x42, 0x20, 0x20, 0x53, 0x41, 0x4E,
    0x44, 0x49, 0x53, 0x4B, 0x20, 0x20, 0x31, 0x3A, 0x31, 0x20, 0x20, 0x20, 0x20, 0x20, 0x20, 0x20,
    0x30, 0x30, 0x30, 0x31]

/-- `vpd_page_00`. -/
def vpdPage00 : List UInt8 := [0x00, 0x00, 0x00, 0x00]

/-- `no_sense_response`. -/
def noSenseResponse : List UInt8 :=
  [0x70, 0x00, 0x00, 0x00, 0x00, 0x00, 0x00, 0x0A,
    0x00, 0x00, 0x00, 0x00, 0x00, 0x00, 0x00, 0x00, 0x00, 0x00]

/-! ## The wrappers of the transport -/

/-- `struct command_block_wrapper`. -/
structure CommandBlockWrapper where
  dCBWSignature : UInt32
  dCBWTag : UInt32
  dCBWDataTransferLength : UInt32
  bmCBWFlags : UInt8
  bCBWLUN : UInt8
  bCBWCBLength : UInt8
  /-- `CBWCB[16]`. -/
  cbwcb : List UInt8
deriving DecidableEq, Repr

namespace CommandBlockWrapper

/-- The structure after `memset(.., 0, CBW_LEN)`. -/
def zero : CommandBlockWrapper := ⟨0, 0, 0, 0, 0, 0, List.replicate 16 0⟩

/-- The 31 bytes of the packed structure. -/
def bytes (cbw : CommandBlockWrapper) : List UInt8 :=
  leBytes 4 cbw.dCBWSignature.toNat ++ (leBytes 4 cbw.dCBWTag.toNat ++
    (leBytes 4 cbw.dCBWDataTransferLength.toNat ++
      (cbw.bmCBWFlags :: cbw.bCBWLUN :: cbw.bCBWCBLength :: cbw.cbwcb)))

/-- The structure that a cast of a pointer to these bytes shows. -/
def ofBytes (bs : List UInt8) : CommandBlockWrapper where
  dCBWSignature := le32At bs
  dCBWTag := le32At (bs.drop 4)
  dCBWDataTransferLength := le32At (bs.drop 8)
  bmCBWFlags := bs.getD 12 0
  bCBWLUN := bs.getD 13 0
  bCBWCBLength := bs.getD 14 0
  cbwcb := bs.drop 15

/-- `CBWCB[i]`. -/
def cdb (cbw : CommandBlockWrapper) (i : ℕ) : UInt8 := cbw.cbwcb.getD i 0

/-- Casting the bytes of a wrapper gives the wrapper back. -/
@[simp] theorem ofBytes_bytes (cbw : CommandBlockWrapper) : ofBytes cbw.bytes = cbw := by
  obtain ⟨hsig, htag, hlen, h12⟩ := @words_of_append cbw.bytes _ _ _ _ rfl
  have hget (i : ℕ) : cbw.bytes.getD (12 + i) 0 =
      (cbw.bmCBWFlags :: cbw.bCBWLUN :: cbw.bCBWCBLength :: cbw.cbwcb).getD i 0 := by
    rw [← h12]
    simp
  have h15 : cbw.bytes.drop 15 = cbw.cbwcb := by
    rw [show 15 = 12 + 3 from rfl, ← List.drop_drop, h12]
    rfl
  cases cbw
  simp only [ofBytes, CommandBlockWrapper.mk.injEq]
  exact ⟨hsig, htag, hlen, hget 0, hget 1, hget 2, h15⟩

/-- The signature is read back also with other bytes behind the wrapper. -/
lemma signature_append (cbw : CommandBlockWrapper) (bs : List UInt8) :
    (ofBytes (cbw.bytes ++ bs)).dCBWSignature = cbw.dCBWSignature := by
  simp [ofBytes, bytes]

end CommandBlockWrapper

/-- `struct command_status_wrapper`. -/
structure CommandStatusWrapper where
  dCSWSignature : UInt32
  dCSWTag : UInt32
  dCSWDataResidue : UInt32
  bCSWStatus : UInt8
deriving DecidableEq, Repr

namespace CommandStatusWrapper

/-- The 13 bytes of the packed structure. -/
def bytes (csw : CommandStatusWrapper) : List UInt8 :=
  leBytes 4 csw.dCSWSignature.toNat ++ (leBytes 4 csw.dCSWTag.toNat ++
    (leBytes 4 csw.dCSWDataResidue.toNat ++ [csw.bCSWStatus]))

/-- The structure that a cast of a pointer to these bytes shows. -/
def ofBytes (bs : List UInt8) : CommandStatusWrapper where
  dCSWSignature := le32At bs
  dCSWTag := le32At (bs.drop 4)
  dCSWDataResidue := le32At (bs.drop 8)
  bCSWStatus := bs.getD 12 0

/-- Casting the bytes of a wrapper, with anything behind them, gives the wrapper
back. -/
theorem ofBytes_bytes_append (csw : CommandStatusWrapper) (bs : List UInt8) :
    ofBytes (csw.bytes ++ bs) = csw := by
  have happ : csw.bytes ++ bs = leBytes 4 csw.dCSWSignature.toNat ++
      (leBytes 4 csw.dCSWTag.toNat ++
        (leBytes 4 csw.dCSWDataResidue.toNat ++ (csw.bCSWStatus :: bs))) := by
    simp [bytes]
  obtain ⟨hsig, htag, hresidue, h12⟩ := words_of_append happ
  have hstatus : (csw.bytes ++ bs).getD (12 + 0) 0 = csw.bCSWStatus := by
    rw [List.getD_eq_getElem?_getD, ← List.getElem?_drop, h12]
    rfl
  cases csw
  simp only [ofBytes, CommandStatusWrapper.mk.injEq]
  exact ⟨hsig, htag, hresidue, hstatus⟩

end CommandStatusWrapper

end KernelDriverLab.UsbV1
