import KernelDriverLab.UsbV1.Serialized
import KernelDriverLab.Chardev.Accepted
import KernelDriverLab.Modules.FailedWrites
import KernelDriverLab.Modules.WaitQueue
import KernelDriverLab.Modules.AlarmReports
import KernelDriverLab.Modules.AtomicVariable
import KernelDriverLab.Lib.Trace
import KernelDriverLab.Modules.ThresholdWrite
import KernelDriverLab.Modules.Gpio
import KernelDriverLab.Modules.VmallocBuffer
import KernelDriverLab.UsbV1.ActiveSlot
import KernelDriverLab.Lib.Protocol
import KernelDriverLab.UsbV1.Resources
import KernelDriverLab.UsbV1.Completion
import KernelDriverLab.UsbV1.Stranded
import KernelDriverLab.UsbV1.Recovery
import KernelDriverLab.UsbV1.Status
import KernelDriverLab.UsbV1.WriteData
import KernelDriverLab.Usb.Transfers
import KernelDriverLab.Usb.Disconnect
import KernelDriverLab.Usb.Resources
import KernelDriverLab.Usb.Encoding
import KernelDriverLab.Chardev.Reading
import KernelDriverLab.Modules.Timer
import KernelDriverLab.Modules.ExitRequest
import KernelDriverLab.Modules.TempWatch
import KernelDriverLab.Modules.DeferredWork
import KernelDriverLab.Modules.LoadLedger
import KernelDriverLab.Modules.SignalTarget
import KernelDriverLab.Modules.ProcBuffer
import KernelDriverLab.Chardev.DeviceBuffer
import KernelDriverLab.Usb.Endpoints
import KernelDriverLab.Modules.LockedCounter
import KernelDriverLab.Usb.Handshake
import KernelDriverLab.UsbV1.InquiryData
import KernelDriverLab.UsbV1.TableCopies
import KernelDriverLab.UsbV1.StatusUrb
import KernelDriverLab.Modules.Seqlock
import KernelDriverLab.Modules.Rwlock
import KernelDriverLab.Modules.UnlockedCounter
import KernelDriverLab.Modules.IrqLock
import KernelDriverLab.UsbTest.Balance
import KernelDriverLab.Chardev.Interleaved
import KernelDriverLab.Modules.Hrtimer
import KernelDriverLab.Modules.SysfsValue
import KernelDriverLab.Chardev.ListLosses
import KernelDriverLab.Modules.Leftovers
