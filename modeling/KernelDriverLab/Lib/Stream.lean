import KernelDriverLab.Lib.Bytes

/-!
# Reading a message piece by piece

A reply to a read says how many bytes the caller got, what was stored from the start of
its buffer on, and where the file position is afterwards.  `serve` is the contract of a
read: the bytes of the message from the position on, as many as there are and as fit
into the buffer.  `readAll` is a reader that calls with one buffer after the other until
it gets 0.
-/

namespace KernelDriverLab.Lib

/-- What a read does for its caller. -/
structure Reply where
  /-- The value returned: a number of bytes, or an error when it is negative. -/
  ret : Int
  /-- The bytes stored at the start of the buffer of the caller. -/
  stored : List UInt8
  offset : ℕ
deriving DecidableEq, Repr

/-- The contract of a read of the message `s` into a buffer of `len` bytes. -/
def serve (s : List UInt8) (len offset : ℕ) : Reply :=
  let r := min len (s.length - offset)
  ⟨r, (s.drop offset).take r, offset + r⟩

/-- The bytes that a caller whose buffer held `buf` gets. -/
def Reply.received (r : Reply) (buf : List UInt8) : List UInt8 :=
  (overwrite buf r.stored).take (min buf.length r.ret.toNat)

/-- What a reader receives that calls `read` with these buffers, from `offset` on, until
it returns 0; `none` when the buffers run out before. -/
def readAll (read : ℕ → ℕ → Reply) : List (List UInt8) → ℕ → Option (List UInt8)
  | [], _ => none
  | buf :: bufs, offset =>
      let r := read buf.length offset
      if r.ret = 0 then some []
      else (readAll read bufs r.offset).map (r.received buf ++ ·)

end KernelDriverLab.Lib
