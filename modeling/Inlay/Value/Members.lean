/-
  Inlay.Value.Members
  ────────────────────────────────
  **THE ORDER OF THE MEMBERS OF A SET.**

  The members of a set stand in a row of places whose number is a power of
  two.  A member takes the place that its hash names, or one of the next
  ones if that is taken; the row grows when three fifths of it are in use.
  The order of the members is the order of their places.

  The hash of a number is its value modulo the prime 2^61 − 1, where a
  fraction is divided modulo that prime, so that equal numbers have equal
  hashes; the hash of a tuple mixes those of its items.
-/
import Inlay.Value.Key

namespace Inlay

/-! ## §1. Hashes. -/

/-- The prime that hashes of numbers are taken by: one less than a power of two. -/
def hashPrime : Nat := 0x1FFFFFFFFFFFFFFF

/-- A hash with a sign; minus one is not used. -/
def signedHash (negative : Bool) (h : Nat) : UInt64 :=
  if negative then (if h = 1 then -2 else -(UInt64.ofNat h)) else UInt64.ofNat h

/-- The hash of a whole number. -/
def hashOfWhole (n : Int) : UInt64 := signedHash (n < 0) (n.natAbs % hashPrime)

/-- The hash of infinity. -/
def infinityHash : Nat := 314159

/-- The hash of a float that is not whole, by its bits.  Powers of two repeat modulo the prime
after 61 steps. -/
def hashOfFraction (bits : UInt64) : UInt64 :=
  let negative := bits >>> 63 = 1
  if (bits >>> 52) &&& 0x7FF = 0x7FF then signedHash negative infinityHash
  else
    let b := Decimal.Binary.ofBits bits
    signedHash negative (b.mantissa * Nat.pow 2 (b.exponent % 61).toNat % hashPrime)

/-- One step of the hash of a tuple. -/
def mixItem (acc item : UInt64) : UInt64 :=
  let a := acc + item * 14029467366897019727
  ((a <<< 31) ||| (a >>> 33)) * 11400714785074694791

/-- What the hash of a tuple starts with. -/
def tupleSeed : UInt64 := 2870177450012600261

/-- The end of the hash of a tuple of so many items. -/
def finishTuple (acc : UInt64) (count : Nat) : UInt64 :=
  let a := acc + (UInt64.ofNat count ^^^ (tupleSeed ^^^ 3527539))
  if a = -1 then 1546275796 else a

/-- The keys of the items of a tuple. -/
def Key.items : Key → List Key
  | .item first rest => first :: rest.items
  | _ => []

/-- The hash of a key; `acc` and `count` are for the rest of a tuple. -/
def Key.mixed (acc : UInt64) (count : Nat) : Key → UInt64
  | .whole n => hashOfWhole n
  | .fraction bits => hashOfFraction bits
  | .item first rest => rest.mixed (mixItem acc (first.mixed tupleSeed 0)) (count + 1)
  | .empty => finishTuple acc count
  | k => hash k

/-- The hash of a key. -/
def Key.hashCode (k : Key) : UInt64 := k.mixed tupleSeed 0

/-! ## §2. Places. -/

/-- A row of places for members. -/
abbrev Row := Array (Option Nat)

/-- The free place among the next ones, at most so many. -/
def freeNear (row : Row) (place : Nat) : Nat → Option Nat
  | 0 => none
  | n + 1 =>
    match row[place]? with
    | some none => some place
    | _ => freeNear row (place + 1) n

/-- How many places in a row are tried. -/
def neighbours : Nat := 10

/-- The free place for a hash. -/
def freePlace (row : Row) (perturbed : UInt64) (place : Nat) : Nat → Nat
  | 0 => 0
  | n + 1 =>
    let tries := if place + (neighbours - 1) < row.size then neighbours else 1
    match freeNear row place tries with
    | some p => p
    | none =>
      let q := perturbed >>> 5
      freePlace row q ((place * 5 + 1 + q.toNat) % row.size) n

/-- Put a member into a row that has room for it. -/
def seat (hashes : Array UInt64) (row : Row) (member : Nat) : Row :=
  let h := hashes[member]?.getD 0
  row.setIfInBounds (freePlace row h (h.toNat % row.size) (row.size + 64)) (some member)

/-- The least power of two above a number, but at least eight, in so many steps. -/
def rowSize (above : Nat) : Nat → Nat → Nat
  | 0, size => size
  | n + 1, size => if above < size then size else rowSize above n (2 * size)

/-- The members of a row, in order. -/
def seated (row : Row) : List Nat := row.toList.filterMap id

/-- A row with room for more members. -/
def grown (hashes : Array UInt64) (row : Row) (used : Nat) : Row :=
  let size := rowSize (if 50000 < used then 2 * used else 4 * used) 64 8
  (seated row).foldl (seat hashes) (Array.replicate size none)

/-- Put a member into a row of so many members, which grows if it is full then. -/
def addMember (hashes : Array UInt64) (state : Row × Nat) (member : Nat) : Row × Nat :=
  let row := seat hashes state.1 member
  let used := state.2 + 1
  if used * 5 < (row.size - 1) * 3 then (row, used) else (grown hashes row used, used)

/-! ## §3. The order. -/

/-- The members of a set in order, from the order in which they came. -/
def orderedMembers (members : List Value) : List Value :=
  let hashes := (members.map (fun v => v.key.hashCode)).toArray
  let (row, _) := (List.range members.length).foldl (addMember hashes) (Array.replicate 8 none, 0)
  let a := members.toArray
  (seated row).filterMap (a[·]?)

end Inlay
