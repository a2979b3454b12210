import RepoFeed.Charset.Decoder

/-
UTF-16 in either order of octets.

Two octets make a unit, and two units from the surrogates make a character.  A
unit that is missing its partner is a gap.
-/

namespace RepoFeed
namespace Charset
namespace Utf16

inductive ByteOrder where
  /-- The greater part of a unit comes first. -/
  | bigEndian
  | littleEndian
deriving DecidableEq, Repr

structure State where
  /-- The first octet of a unit. -/
  octet : Option Nat
  /-- The first surrogate of a pair. -/
  surrogate : Option Nat
deriving DecidableEq, Repr

def unitOf (order : ByteOrder) (first second : Nat) : Nat :=
  match order with
  | .bigEndian => first * 256 + second
  | .littleEndian => second * 256 + first

def isHighSurrogate (unit : Nat) : Bool :=
  0xD800 ≤ unit && unit ≤ 0xDBFF

def isLowSurrogate (unit : Nat) : Bool :=
  0xDC00 ≤ unit && unit ≤ 0xDFFF

/-- Takes a unit that no surrogate waits for. -/
def stepUnit (unit : Nat) : List Utf8.Item × State :=
  if isHighSurrogate unit then ([], ⟨none, some unit⟩)
  else if isLowSurrogate unit then ([none], ⟨none, none⟩)
  else ([some (Char.ofNat unit)], ⟨none, none⟩)

def step (order : ByteOrder) (state : State) (n : Nat) : List Utf8.Item × State :=
  match state.octet with
  | none => ([], { state with octet := some n })
  | some first =>
    let unit := unitOf order first n
    match state.surrogate with
    | none => stepUnit unit
    | some high =>
      if isLowSurrogate unit then
        let code := 0x10000 + (high - 0xD800) * 0x400 + (unit - 0xDC00)
        ([some (Char.ofNat code)], ⟨none, none⟩)
      else
        let (items, state) := stepUnit unit
        (none :: items, state)

def decoder (order : ByteOrder) : Decoder where
  State := State
  start := ⟨none, none⟩
  step := step order
  finish state := if state.octet.isSome ∨ state.surrogate.isSome then [none] else []

end Utf16
end Charset
end RepoFeed
