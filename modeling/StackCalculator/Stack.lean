import StackCalculator.Double.Text
import StackCalculator.Error

/-!
# The stack of values

A stack is a list of doubles with the top at the head, so that pushing and popping are `cons` and
its inverse.  Everything shown to the user goes the other way, bottom to top, and `Stack.values` is
that view; `Stack.ofValues` builds a stack from it by pushing one value after the other.
-/

set_option autoImplicit false

namespace StackCalculator

/-- The values of the calculator, the most recently pushed first. -/
@[ext] structure Stack where
  /-- The values from the top down. -/
  topDown : List Double
  deriving DecidableEq

namespace Stack

/-- The stack without values. -/
def empty : Stack := ⟨[]⟩

/-- The values from the bottom up. -/
def values (s : Stack) : List Double := s.topDown.reverse

/-- How many values there are. -/
def size (s : Stack) : Nat := s.topDown.length

/-- Whether there are no values. -/
def isEmpty (s : Stack) : Bool := s.topDown.isEmpty

/-- Put a value on top. -/
def push (s : Stack) (x : Double) : Stack := ⟨x :: s.topDown⟩

/-- Put values on top one after the other; the last one ends up on top. -/
def pushAll (s : Stack) (xs : List Double) : Stack := xs.foldl push s

/-- The stack that these values make when they are pushed in this order. -/
def ofValues (xs : List Double) : Stack := empty.pushAll xs

/-- The value on top, if there is one. -/
def peek? (s : Stack) : Option Double := s.topDown.head?

/-- Take the value on top away. -/
def pop (s : Stack) : Except StackError (Double × Stack) :=
  match s.topDown with
  | [] => .error .empty
  | x :: rest => .ok (x, ⟨rest⟩)

/-- Demand that so many values are there. -/
def require (s : Stack) (needed : Nat) : Except StackError Unit :=
  if s.size < needed then .error (.underflow needed s.size) else .ok ()

/-- The values in brackets, from the bottom up. -/
def listing (s : Stack) : String := Double.listing s.values

/-- Numeric comparison of the values in their order: zeros of both signs agree, and a stack that
holds a NaN agrees with none, not even itself. -/
def sameNumbers (s t : Stack) : Bool :=
  s.size == t.size && (s.topDown.zip t.topDown).all fun (x, y) => x.sameNumber y

/-! ## The operations on the view -/

@[simp] theorem values_empty : empty.values = [] := rfl

@[simp] theorem values_push (s : Stack) (x : Double) : (s.push x).values = s.values ++ [x] := by
  simp [values, push]

@[simp] theorem values_pushAll (s : Stack) (xs : List Double) :
    (s.pushAll xs).values = s.values ++ xs := by
  induction xs generalizing s with
  | nil => simp [pushAll]
  | cons x xs ih =>
    have h := ih (s.push x)
    simp only [pushAll, List.foldl_cons] at h ⊢
    rw [h, values_push, List.append_assoc, List.singleton_append]

@[simp] theorem values_ofValues (xs : List Double) : (ofValues xs).values = xs := by
  simp [ofValues]

@[simp] theorem size_push (s : Stack) (x : Double) : (s.push x).size = s.size + 1 := by
  simp [size, push]

@[simp] theorem size_pushAll (s : Stack) (xs : List Double) :
    (s.pushAll xs).size = s.size + xs.length := by
  have h := congrArg List.length (values_pushAll s xs)
  simpa [values, size] using h

@[simp] theorem pop_push (s : Stack) (x : Double) : (s.push x).pop = .ok (x, s) := rfl

/-- A stack is known by its view. -/
theorem values_inj {s t : Stack} : s.values = t.values ↔ s = t := by
  simp [values, Stack.ext_iff]

end Stack

end StackCalculator
