/-!
Sizes of machines.
-/

namespace HostDns.Pattern

/-- The size of a machine: how many states it has, and how many bytes these take besides what every
state takes. -/
structure Size where
  states : Nat
  more : Nat
  deriving DecidableEq, Repr, Inhabited

namespace Size

/-- The size of a machine without a state. -/
def none : Size := ⟨0, 0⟩

instance : Add Size := ⟨fun a b => ⟨a.states + b.states, a.more + b.more⟩⟩

/-- A state that leads to one other at most. -/
def plain : Size := ⟨1, 0⟩

/-- A state that leads to others for so many ranges of bytes. -/
def byRanges (count : Nat) : Size := ⟨1, 8 * count⟩

/-- A state that leads to so many others without a byte. -/
def choice (count : Nat) : Size := ⟨1, 4 * count⟩

/-- How many bytes a machine takes. -/
def bytes (m : Size) : Nat := 32 * m.states + m.more

/-- How many bytes a machine may take. -/
def limit : Nat := 10 * 0x100000

/-- The size with more of it, if that is within the limit. -/
def grow (m : Size) (more : Size) : Option Size :=
  if (m + more).bytes ≤ limit then some (m + more) else Option.none

/-- Grows so many times in the same way. -/
def copies (m : Size) (step : Size → Option Size) : Nat → Option Size
  | 0 => some m
  | n + 1 =>
    match step m with
    | some m => m.copies step n
    | Option.none => Option.none

end Size

end HostDns.Pattern
