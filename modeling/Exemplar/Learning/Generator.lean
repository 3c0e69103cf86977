/-
The generator that first weights are drawn from.

It is a linear congruential generator whose state is a wrapping 64-bit word; only
the lowest 31 bits are handed out, so the values are those of the generator
modulo `2 ^ 31`.
-/
import Exemplar.Decimal.Binary64

namespace Exemplar

structure Generator where
  state : Int64
  deriving DecidableEq, Repr

namespace Generator

def multiplier : Int64 := 1103515245
def increment : Int64 := 12345
def modulus : Int64 := 2147483648

def ofSeed (seed : Int64) : Generator := ⟨seed.abs % modulus⟩

/-- A value below the modulus. -/
def next (g : Generator) : Int64 × Generator :=
  let state := g.state * multiplier + increment
  (state &&& (modulus - 1), ⟨state⟩)

/-- A number from zero up to but not including one. -/
def nextUnit (g : Generator) : Float × Generator :=
  let (value, g) := g.next
  (Binary64.ofInt value.toInt / Binary64.ofInt modulus.toInt, g)

/-- How many neighbours a weight between two layers has, as a 64-bit word counts them. -/
def neighbours (inputs outputs : Nat) : Nat := max ((inputs + outputs) % twoTo 64) 1

/-- A weight between two layers of the given sizes, uniform between limits that keep the spread of
signals the same from layer to layer. -/
def nextWeight (inputs outputs : Nat) (g : Generator) : Float × Generator :=
  let limit := (6.0 / Binary64.ofInt (neighbours inputs outputs)).sqrt
  let (unit, g) := g.nextUnit
  ((unit * 2.0 - 1.0) * limit, g)

/-- Several draws, one after the other. -/
def draw {α : Type} (one : Generator → α × Generator) : Nat → Generator → List α × Generator
  | 0, g => ([], g)
  | n + 1, g =>
    let (x, g) := one g
    let (xs, g) := draw one n g
    (x :: xs, g)

end Generator
end Exemplar
