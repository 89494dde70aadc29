import StackCalculator.Stack

/-!
# The history

Each command that changes the stack leaves a `Record` of what it took from the stack, and that is
all that undoing it needs: the result is removed and the operands are put back.  Operands of sums
and products are kept in the order in which they were popped, so the first one was on top.  Clearing
is the one command whose record grows with the stack.

The history itself is a stack of records.  The most recent one is at the head.
-/

set_option autoImplicit false

namespace StackCalculator

/-- What a command took from the stack. -/
inductive Record where
  /-- The value was put on the stack. -/
  | push (value : Double)
  /-- The value was taken off the stack. -/
  | pop (value : Double)
  /-- All values were taken off the stack; they are listed from the bottom up. -/
  | clear (values : List Double)
  /-- Two values were replaced by their sum. -/
  | add (first second : Double)
  /-- Two values were replaced by their product. -/
  | mul (first second : Double)
  /-- A value was replaced by its opposite. -/
  | neg (value : Double)
  /-- A value was replaced by its reciprocal. -/
  | inv (value : Double)
  deriving DecidableEq

namespace Record

/-- The keyword of the command that the record is of. -/
def name : Record → String
  | .push _ => "push"
  | .pop _ => "pop"
  | .clear _ => "clear"
  | .add .. => "add"
  | .mul .. => "mul"
  | .neg _ => "neg"
  | .inv _ => "inv"

/-- The values that the record keeps. -/
def values : Record → List Double
  | .push x | .pop x | .neg x | .inv x => [x]
  | .clear xs => xs
  | .add x y | .mul x y => [x, y]

/-- Numeric comparison: records of the same command whose values are the same numbers. -/
def sameNumbers (r t : Record) : Bool :=
  r.name == t.name && (Stack.ofValues r.values).sameNumbers (Stack.ofValues t.values)

/-- Take back what the record is of.  This fails only if a result is to be removed and the stack is
empty, and then nothing has happened yet. -/
def revert (r : Record) (s : Stack) : Except StackError Stack :=
  match r with
  | .push _ => do
    let (_, s) ← s.pop
    pure s
  | .pop x => pure (s.push x)
  | .clear xs => pure (s.pushAll xs)
  | .add first second | .mul first second => do
    let (_, s) ← s.pop
    pure ((s.push second).push first)
  | .neg x | .inv x => do
    let (_, s) ← s.pop
    pure (s.push x)

end Record

/-- The records of the commands that can still be undone, the most recent first. -/
@[ext] structure History where
  /-- The records, newest first. -/
  newestFirst : List Record
  deriving DecidableEq

namespace History

/-- The history of a calculator that has done nothing. -/
def empty : History := ⟨[]⟩

/-- How many records there are. -/
def size (h : History) : Nat := h.newestFirst.length

/-- Whether there is nothing to undo. -/
def isEmpty (h : History) : Bool := h.newestFirst.isEmpty

/-- Add a record as the most recent one. -/
def record (h : History) (r : Record) : History := ⟨r :: h.newestFirst⟩

/-- The most recent record, if there is one. -/
def last? (h : History) : Option Record := h.newestFirst.head?

/-- The history without its most recent record. -/
def dropLast (h : History) : History := ⟨h.newestFirst.tail⟩

/-- The records in the order in which they were made. -/
def oldestFirst (h : History) : List Record := h.newestFirst.reverse

@[simp] theorem size_record (h : History) (r : Record) : (h.record r).size = h.size + 1 := by
  simp [size, record]

@[simp] theorem last?_record (h : History) (r : Record) : (h.record r).last? = some r := rfl

@[simp] theorem dropLast_record (h : History) (r : Record) : (h.record r).dropLast = h := rfl

@[simp] theorem oldestFirst_record (h : History) (r : Record) :
    (h.record r).oldestFirst = h.oldestFirst ++ [r] := List.reverse_cons

@[simp] theorem length_oldestFirst (h : History) : h.oldestFirst.length = h.size :=
  List.length_reverse

end History

end StackCalculator
