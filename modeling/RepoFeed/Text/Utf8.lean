/-
Texts as octets.

Files and reply bodies hold octets, everything else holds characters.  The
decoder is a machine that takes one octet at a time: a state says how many
octets the character under way still owes and between which bounds the next
one has to lie.  An octet outside the bounds closes the character under way as
ill-formed and is looked at again as a first octet, so that an ill-formed
stretch is as long as the beginning of a character can be and no longer.
-/

namespace RepoFeed
namespace Utf8

abbrev Octets := List UInt8

/-- The octets of a text. -/
def encode (text : List Char) : Octets :=
  text.flatMap String.utf8EncodeChar

/-- Where the decoder stands inside a character. -/
inductive State where
  | ready
  /-- `missing` octets are owed, the next one between `low` and `high`; the
  octets seen so far are worth `value`. -/
  | owing (missing low high value : Nat)
deriving DecidableEq, Repr

/-- One decoded item: a character, or `none` for an ill-formed stretch. -/
abbrev Item := Option Char

/-- Looks at the first octet of a character. -/
def first (n : Nat) : List Item × State :=
  if n < 0x80 then ([some (Char.ofNat n)], .ready)
  else if n < 0xC2 then ([none], .ready)
  else if n < 0xE0 then ([], .owing 1 0x80 0xBF (n - 0xC0))
  else if n = 0xE0 then ([], .owing 2 0xA0 0xBF 0)
  else if n = 0xED then ([], .owing 2 0x80 0x9F 13)
  else if n < 0xF0 then ([], .owing 2 0x80 0xBF (n - 0xE0))
  else if n = 0xF0 then ([], .owing 3 0x90 0xBF 0)
  else if n < 0xF4 then ([], .owing 3 0x80 0xBF (n - 0xF0))
  else if n = 0xF4 then ([], .owing 3 0x80 0x8F 4)
  else ([none], .ready)

def step : State → Nat → List Item × State
  | .ready, n => first n
  | .owing missing low high value, n =>
    if low ≤ n ∧ n ≤ high then
      let value := value * 64 + (n - 0x80)
      if missing ≤ 1 then ([some (Char.ofNat value)], .ready)
      else ([], .owing (missing - 1) 0x80 0xBF value)
    else
      let (items, state) := first n
      (none :: items, state)

/-- The items of a sequence of octets, from a given state on. -/
def items : State → Octets → List Item
  | .ready, [] => []
  | .owing .., [] => [none]
  | state, octet :: octets =>
    let (found, state) := step state octet.toNat
    found ++ items state octets

/-- The text of octets that are all well-formed. -/
def decode? (octets : Octets) : Option (List Char) :=
  (items .ready octets).mapM id

/-- The text of any octets, with U+FFFD in place of each ill-formed stretch. -/
def decodeLossy (octets : Octets) : List Char :=
  (items .ready octets).map (·.getD '\uFFFD')

end Utf8
end RepoFeed
