import KernelDriverLab.Chardev.User

/-!
# The read and write handlers

The handlers of the character devices are near-copies of each other.  `readMessage` and
`writeMessage` are what the copies have in common, and each handler is written as one of
them with its own values, under the name of its module.  The messages to the log are left
out, and so is the listing of the nodes in the read handler of `linked_list.c`, which
changes nothing.
-/

namespace KernelDriverLab

open Lib

namespace Chardev

/-- The size of the fixed buffers. -/
def BUFF_SIZE : ℕ := 1024

/-- The body of the read handlers: copy the whole string and return `value` of its
length. -/
def readMessage (mem : List UInt8) (offset : ℕ) (fault : Option ℕ) (value : ℕ → ℕ) : Reply :=
  let length := strlen mem
  if offset ≥ length then ⟨0, [], offset⟩
  else match copyToUser mem length fault with
    | (stored, false) => ⟨-EFAULT, stored, offset⟩
    | (stored, true) => ⟨value length, stored, offset + length⟩

/-- `device_buffer[length] = '\0'` in the read handlers, which comes before the copy. -/
def terminate (buf : List UInt8) (offset : ℕ) : List UInt8 :=
  if offset ≥ strlen buf then buf else buf.set (strlen buf) 0

/-- The body of the write handlers with a fixed buffer: the value returned and the buffer
afterwards. -/
def writeMessage (buf user : List UInt8) (fault : Option (ℕ × ℕ)) : Int × List UInt8 :=
  let toCopy := if user.length > BUFF_SIZE then BUFF_SIZE else user.length
  match copyFromUser buf user toCopy fault with
  | (buf, false) => (-EFAULT, buf)
  | (buf, true) =>
    let safeLen := if toCopy < BUFF_SIZE - 1 then toCopy else BUFF_SIZE - 1
    (toCopy, buf.set safeLen 0)

end Chardev

open Chardev

namespace Procfs

/-- `my_write` of `procfs_module.c`. -/
def myWrite (buf user : List UInt8) (fault : Option (ℕ × ℕ)) : Int × List UInt8 :=
  writeMessage buf user fault

/-- `my_read` of `procfs_module.c`: what the caller gets, and the buffer afterwards. -/
def myRead (buf : List UInt8) (_len offset : ℕ) (fault : Option ℕ) : Reply × List UInt8 :=
  (readMessage (terminate buf offset) offset fault id, terminate buf offset)

/-- `proc_read` on a `proc_buffer` that is not NULL. -/
def procRead (mem : List UInt8) (_len offset : ℕ) (fault : Option ℕ) : Reply :=
  readMessage mem offset fault id

end Procfs

namespace Vmalloc

/-- `my_read` of `vmalloc.c` on a `device_buffer` that is not NULL, which returns the
length it was asked for. -/
def myRead (mem : List UInt8) (len offset : ℕ) (fault : Option ℕ) : Reply :=
  readMessage mem offset fault fun _ => len

end Vmalloc

namespace LinkedList

/-- `my_read` of `linked_list.c`.  Its test `length < 0` never holds of a `size_t`. -/
def myRead (buf : List UInt8) (_len offset : ℕ) (fault : Option ℕ) : Reply × List UInt8 :=
  (readMessage (terminate buf offset) offset fault id, terminate buf offset)

end LinkedList

end KernelDriverLab
