/-!
# Reading UTF-8

A reader of UTF-8 that never gives up: it turns any bytes into characters, with a gap (`none`) for
each maximal part that is no character.  Such a part is a lead byte with as many of its continuation
bytes as could still have become a character, or else a single byte.

The reader is an automaton that takes one byte at a time.  Between bytes it is either at a character
boundary or inside a character, and then it knows which bytes may come next; the limits on the first
continuation byte (`Limit`) are where overlong forms, surrogates and values beyond the last code
point are ruled out.  A byte that may not come next ends the part that was begun and starts over.

`decodeLossy` writes U+FFFD for each gap; `decode?` accepts no gaps.

Since no byte of a longer character could be taken for a line feed, cutting at line feeds and
decoding can be done in either order: `decode_append_lineFeed`.
-/

set_option autoImplicit false

namespace StackCalculator.Text.Utf8

/-- Which continuation bytes may come next inside a character. -/
inductive Limit where
  /-- Any of them. -/
  | free
  /-- From `A0` on, after `E0`: the others would only repeat shorter forms. -/
  | fromA0
  /-- Up to `9F`, after `ED`: the others would be surrogates. -/
  | upTo9F
  /-- From `90` on, after `F0`: the others would only repeat shorter forms. -/
  | from90
  /-- Up to `8F`, after `F4`: the others would lie beyond the last code point. -/
  | upTo8F
  deriving DecidableEq

/-- Whether a byte may come next. -/
def Limit.allows (limit : Limit) (byte : UInt8) : Bool :=
  match limit with
  | .free => 0x80 ≤ byte && byte ≤ 0xBF
  | .fromA0 => 0xA0 ≤ byte && byte ≤ 0xBF
  | .upTo9F => 0x80 ≤ byte && byte ≤ 0x9F
  | .from90 => 0x90 ≤ byte && byte ≤ 0xBF
  | .upTo8F => 0x80 ≤ byte && byte ≤ 0x8F

/-- Where the reader stands. -/
inductive State where
  /-- At a character boundary. -/
  | boundary
  /-- Inside a character: `bits` are those read so far, `limit` restricts the next byte, and after
  it `more` further continuation bytes are due. -/
  | inside (bits : Nat) (limit : Limit) (more : Nat)
  deriving DecidableEq

/-- What is left of a character that is broken off here. -/
def State.gap : State → List (Option Char)
  | .boundary => []
  | .inside .. => [none]

/-- What a byte at a character boundary yields, and where it leads. -/
def start (byte : UInt8) : List (Option Char) × State :=
  if byte < 0x80 then ([some (Char.ofNat byte.toNat)], .boundary)
  else if byte < 0xC2 then ([none], .boundary)
  else if byte < 0xE0 then ([], .inside (byte.toNat % 32) .free 0)
  else if byte < 0xF0 then
    ([], .inside (byte.toNat % 16)
      (if byte = 0xE0 then .fromA0 else if byte = 0xED then .upTo9F else .free) 1)
  else if byte < 0xF5 then
    ([], .inside (byte.toNat % 8)
      (if byte = 0xF0 then .from90 else if byte = 0xF4 then .upTo8F else .free) 2)
  else ([none], .boundary)

/-- What an expected continuation byte yields, and where it leads. -/
def proceed (bits more : Nat) (byte : UInt8) : List (Option Char) × State :=
  let bits := bits * 64 + byte.toNat % 64
  match more with
  | 0 => ([some (Char.ofNat bits)], .boundary)
  | more + 1 => ([], .inside bits .free more)

/-- What a byte yields, and where it leads.  One that is not expected breaks the character off. -/
def step (state : State) (byte : UInt8) : List (Option Char) × State :=
  match state with
  | .boundary => start byte
  | .inside bits limit more =>
    if limit.allows byte then proceed bits more byte
    else
      let (read, next) := start byte
      (none :: read, next)

/-- Read the remaining bytes.  The end breaks off a character that is not complete. -/
def decodeFrom (state : State) : List UInt8 → List (Option Char)
  | [] => state.gap
  | byte :: bytes =>
    let (read, next) := step state byte
    read ++ decodeFrom next bytes

/-- The characters and gaps that the bytes stand for. -/
def decode (bytes : List UInt8) : List (Option Char) := decodeFrom .boundary bytes

/-- The text that the bytes stand for, with U+FFFD in each gap. -/
def decodeLossy (bytes : List UInt8) : List Char := (decode bytes).map (·.getD '\uFFFD')

/-- The text that the bytes stand for, unless there is a gap. -/
def decode? (bytes : List UInt8) : Option (List Char) := (decode bytes).mapM id

/-! ## Line feeds -/

theorem not_allows_lineFeed (limit : Limit) : limit.allows 10 = false := by
  cases limit <;> rfl

/-- A line feed breaks off whatever was begun and is read as itself. -/
theorem step_lineFeed (state : State) :
    step state 10 = (state.gap ++ [some '\n'], .boundary) := by
  cases state with
  | boundary => rfl
  | inside bits limit more =>
    simp only [step, not_allows_lineFeed]
    rfl

theorem decodeFrom_append_lineFeed (state : State) (xs ys : List UInt8) :
    decodeFrom state (xs ++ 10 :: ys) = decodeFrom state xs ++ some '\n' :: decode ys := by
  induction xs generalizing state with
  | nil => simp [decodeFrom, step_lineFeed, decode]
  | cons byte xs ih => simp [decodeFrom, ih]

/-- **Line feeds separate decoding.**  What stands before a line feed and what stands after it can be
decoded on their own. -/
theorem decode_append_lineFeed (xs ys : List UInt8) :
    decode (xs ++ 10 :: ys) = decode xs ++ some '\n' :: decode ys :=
  decodeFrom_append_lineFeed .boundary xs ys

theorem decodeLossy_append_lineFeed (xs ys : List UInt8) :
    decodeLossy (xs ++ 10 :: ys) = decodeLossy xs ++ '\n' :: decodeLossy ys := by
  simp [decodeLossy, decode_append_lineFeed]

end StackCalculator.Text.Utf8
