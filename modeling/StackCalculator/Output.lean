/-!
# Where listings are written to

A session writes its listings to some destination and has to live with whatever the destination
does.  `Destination` says what that can be: writing some bytes and flushing may each fail, with a
message, and either way the destination has a new state.  What a failed write has left behind is the
destination's business.

`Buffer` is the destination used for listings that are to be looked at afterwards.  It may have
limited room, in which case it takes what still fits and then fails, and its flush may be broken.
-/

set_option autoImplicit false

namespace StackCalculator

/-- Something bytes can be written to. -/
class Destination (δ : Type) where
  /-- Write all of these bytes, or fail with a message. -/
  write : δ → List UInt8 → Except String Unit × δ
  /-- Make sure that what was written arrives, or fail with a message. -/
  flush : δ → Except String Unit × δ

namespace Destination

variable {δ : Type} [Destination δ]

/-- Write the listing, then a line feed, then flush; the first failure ends the attempt. -/
def writeLine (out : δ) (line : String) : Except String Unit × δ :=
  match write out line.toUTF8.toList with
  | (.error e, out) => (.error e, out)
  | (.ok (), out) =>
    match write out [10] with
    | (.error e, out) => (.error e, out)
    | (.ok (), out) => flush out

end Destination

/-- A destination that keeps what is written to it. -/
structure Buffer where
  /-- What was written, the latest part first. -/
  parts : List (List UInt8)
  /-- How many bytes it can still take, if that is limited. -/
  room : Option Nat
  /-- Whether flushing fails. -/
  flushFails : Bool

namespace Buffer

/-- A buffer that takes everything. -/
def unlimited : Buffer := ⟨[], none, false⟩

/-- All bytes written so far. -/
def contents (b : Buffer) : List UInt8 := b.parts.reverse.flatten

/-- The buffer with some more bytes in it. -/
def append (b : Buffer) (bytes : List UInt8) : Buffer := { b with parts := bytes :: b.parts }

/-- Write as many of the bytes as there is room for, and fail unless these are all. -/
def write (b : Buffer) (bytes : List UInt8) : Except String Unit × Buffer :=
  match b.room with
  | none => (.ok (), b.append bytes)
  | some room =>
    let after := { b.append (bytes.take room) with room := some (room - bytes.length) }
    if bytes.length ≤ room then (.ok (), after) else (.error "output closed", after)

/-- Nothing is ever held back, so flushing has nothing to do, but it may be broken. -/
def flush (b : Buffer) : Except String Unit × Buffer :=
  (if b.flushFails then .error "flush failed" else .ok (), b)

instance : Destination Buffer := ⟨write, flush⟩

@[simp] theorem contents_append (b : Buffer) (bytes : List UInt8) :
    (b.append bytes).contents = b.contents ++ bytes := by
  simp [contents, append]

end Buffer

end StackCalculator
