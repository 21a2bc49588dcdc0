import Mathlib.Data.List.Basic
import Mathlib.Tactic.Common

/-!
# Reader-writer locks

Any number of readers or one writer hold a reader-writer lock.  A lock at which a reader and a
writer are inside at the same time cannot be built.
-/

namespace KernelDriverLab.Lib

/-- Who holds the lock. -/
structure RwLock (τ : Type) where
  readers : List τ
  writer : Option τ
  exclusive : writer = none ∨ readers = []
deriving DecidableEq, Repr

namespace RwLock

variable {τ : Type} (l : RwLock τ) {t : τ}

/-- Nobody holds the lock. -/
def init : RwLock τ := ⟨[], none, .inl rfl⟩

/-- A reader need not wait. -/
def canRead : Bool := l.writer.isNone

/-- A writer need not wait. -/
def canWrite : Bool := l.writer.isNone && l.readers.isEmpty

/-- `read_lock`, which waits while a writer is inside. -/
def readLock (t : τ) : RwLock τ :=
  if h : l.writer = none then ⟨t :: l.readers, l.writer, .inl h⟩ else l

/-- `write_lock`, which waits while anybody is inside. -/
def writeLock (t : τ) : RwLock τ :=
  if h : l.readers = [] then ⟨l.readers, some t, .inr h⟩ else l

/-- `write_unlock` -/
def writeUnlock : RwLock τ := ⟨l.readers, none, .inl rfl⟩

variable {l}

lemma canRead_iff : l.canRead = true ↔ l.writer = none := Option.isNone_iff_eq_none

lemma canWrite_iff : l.canWrite = true ↔ l.writer = none ∧ l.readers = [] := by
  rw [canWrite, Bool.and_eq_true, Option.isNone_iff_eq_none, List.isEmpty_iff]

/-- While there is a reader there is no writer. -/
lemma writer_of_mem (ht : t ∈ l.readers) : l.writer = none := by
  rcases l.exclusive with h | h
  · exact h
  · rw [h] at ht
    cases ht

/-- While there is a writer there is no reader. -/
lemma readers_of_writer (ht : l.writer = some t) : l.readers = [] := by
  rcases l.exclusive with h | h
  · rw [ht] at h
    cases h
  · exact h

@[simp] lemma writer_readLock : (l.readLock t).writer = l.writer := by
  rw [readLock]
  split <;> rfl

lemma readers_readLock (h : l.writer = none) : (l.readLock t).readers = t :: l.readers := by
  rw [readLock, dif_pos h]

@[simp] lemma readers_writeLock : (l.writeLock t).readers = l.readers := by
  rw [writeLock]
  split <;> rfl

lemma writer_writeLock (h : l.readers = []) : (l.writeLock t).writer = some t := by
  rw [writeLock, dif_pos h]

@[simp] lemma readers_writeUnlock : l.writeUnlock.readers = l.readers := rfl

@[simp] lemma writer_writeUnlock : l.writeUnlock.writer = none := rfl

variable [DecidableEq τ]

variable (l) in
/-- `read_unlock` -/
def readUnlock (t : τ) : RwLock τ where
  readers := l.readers.erase t
  writer := l.writer
  exclusive := l.exclusive.imp_right fun h => by rw [h, List.erase_nil]

@[simp] lemma writer_readUnlock : (l.readUnlock t).writer = l.writer := rfl

@[simp] lemma readers_readUnlock : (l.readUnlock t).readers = l.readers.erase t := rfl

end RwLock

end KernelDriverLab.Lib
