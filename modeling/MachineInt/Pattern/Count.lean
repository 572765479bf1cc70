import MachineInt.Pattern

/-!
# Counting bits

Zeros above the highest one, zeros below the lowest one, and ones. None of the three walks through 32
positions: the zero counts halve the range that can still hold the bit they look for, and the ones are added up
in groups of two, four and eight bits that lie side by side in one pattern.
-/

namespace MachineInt

/-! ## Masks of alternating groups -/

def pairMask : Nat := 0x55555555
def nibbleMask : Nat := 0x33333333
def byteMask : Nat := 0x0F0F0F0F
def countMask : Nat := 0x3F

namespace Pattern

/-- How many zeros a search has still to grant, and what it has still to look at. -/
structure Search (α : Type) where
  zeros : Nat
  rest : α

/-- If the highest one lies `size` or more positions up, drop that many positions. -/
def Search.fromTop (search : Search Nat) (size : Nat) : Search Nat :=
  if 1 <<< size ≤ search.rest then ⟨search.zeros - size, search.rest >>> size⟩ else search

/-- The zeros above the highest one; 32 for the empty pattern. -/
def leadingZeros (x : Pattern) : Nat :=
  if x = 0 then 32
  else if x.msb then 0
  else
    let search := [16, 8, 4, 2].foldl Search.fromTop ⟨31, x.toNat⟩
    search.zeros - search.rest >>> 1

/-- If a one is left after moving `size` positions up, the lowest one is among those kept. -/
def Search.fromBottom (search : Search Pattern) (size : Nat) : Search Pattern :=
  let moved := search.rest <<< size
  if moved ≠ 0 then ⟨search.zeros - size, moved⟩ else search

/-- The zeros below the lowest one; 32 for the empty pattern. -/
def trailingZeros (x : Pattern) : Nat :=
  if x = 0 then 32
  else
    let search := [16, 8, 4, 2].foldl Search.fromBottom ⟨31, x⟩
    search.zeros - ((search.rest <<< 1) >>> 31).toNat

/-- The ones, added up in groups of two, four and eight bits. -/
def ones (x : Pattern) : Nat :=
  let pairs := x - ((x >>> 1) &&& BitVec.ofNat 32 pairMask)
  let nibbles := (pairs &&& BitVec.ofNat 32 nibbleMask) + ((pairs >>> 2) &&& BitVec.ofNat 32 nibbleMask)
  let bytes := (nibbles + (nibbles >>> 4)) &&& BitVec.ofNat 32 byteMask
  let halves := bytes + (bytes >>> 8)
  let total := halves + (halves >>> 16)
  (total &&& BitVec.ofNat 32 countMask).toNat

/-- The highest one alone. The empty pattern has 32 leading zeros, and a distance of 32 counts as none, but
the sign bit it leaves in place meets no one. -/
def highestOne (x : Pattern) : Pattern :=
  x &&& (pattern (minValue 32)).shiftRight x.leadingZeros

/-- The lowest one alone. -/
def lowestOne (x : Pattern) : Pattern := x &&& -x

end Pattern

/-! ## The same on words -/

def leadingZeros (value : Int) : Nat := (pattern value).leadingZeros

def trailingZeros (value : Int) : Nat := (pattern value).trailingZeros

def ones (value : Int) : Nat := (pattern value).ones

def highestOne (value : Int) : Int := (pattern value).highestOne.toInt

def lowestOne (value : Int) : Int := (pattern value).lowestOne.toInt

end MachineInt
