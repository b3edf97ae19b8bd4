import JobMonitor.Channel.Framer

set_option autoImplicit false

/-! # The store that a stream is read into

A read takes as many bytes as there is room for behind those that have been read before. So the size
of the store says in which pieces a stream arrives that is longer, and that can be seen: a blank line
is dropped as too long only if a piece ends inside of it. -/

namespace JobMonitor

/-- The store of a reader. -/
structure Store where
  /-- How many bytes it can hold. -/
  size : Nat := 8192
  /-- How many bytes at its start have been given away. -/
  spent : Nat := 0
deriving DecidableEq, Repr

/-- How many bytes fit behind those that are kept. -/
def Store.room (s : Store) (kept : Nat) : Nat := s.size - s.spent - kept

/-- Makes room for a byte at least. Bytes that are kept are moved to the start if there are not more
    of them than have been given away; else the store is made twice as large. -/
def Store.makeRoom (s : Store) (kept : Nat) : Store :=
  if 0 < s.room kept then s
  else if 0 < s.spent ∧ kept ≤ s.spent then { s with spent := 0 }
  else { s with size := 2 * s.size }

/-- Gives bytes away. -/
def Store.spend (s : Store) (count : Nat) : Store := { s with spent := s.spent + count }

/-- How many bytes the complete lines at the start have. -/
def Bytes.completeLength (bytes : Bytes) : Nat :=
  bytes.length - (bytes.reverse.takeWhile (· ≠ newline)).length

/-- The next frame of bytes that have arrived and of bytes that wait, and what is left of them.
    Nothing is taken from those that wait as long as the others make a frame. -/
def Framer.pull (f : Framer) (store : Store) (waiting : Bytes) :
    Option Frame × Framer × Store × Bytes :=
  match f.next with
  | (some frame, rest) =>
    (some frame, rest, store.spend (f.buffer.length - rest.buffer.length), waiting)
  | (none, rest) =>
    let store := store.spend (Bytes.completeLength f.buffer)
    if waiting = [] then (none, rest, store, [])
    else
      let store := store.makeRoom rest.buffer.length
      let count := max 1 (store.room rest.buffer.length)
      (rest.feed (waiting.take count)).pull store (waiting.drop count)
termination_by waiting.length
decreasing_by
  rename_i h
  have := List.length_pos_iff.2 h
  simp only [List.length_drop]
  omega

end JobMonitor
