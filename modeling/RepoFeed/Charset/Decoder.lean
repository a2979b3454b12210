import RepoFeed.Text.Utf8

/-
Decoders of octets.

A decoder takes one octet at a time.  Its state is what it has seen of a
character that is not complete; an octet completes items, each of which is a
character or a gap for what is no character.  An ASCII octet that spoils a longer
sequence is still read as itself, so that a broken sequence cannot hide markup.
-/

namespace RepoFeed
namespace Charset

structure Decoder where
  State : Type
  start : State
  /-- What an octet completes, and the state behind it. -/
  step : State → Nat → List Utf8.Item × State
  /-- What the end completes. -/
  finish : State → List Utf8.Item

/-- The items of octets, from a given state on. -/
def Decoder.items (decoder : Decoder) : decoder.State → Utf8.Octets → List Utf8.Item
  | state, [] => decoder.finish state
  | state, octet :: octets =>
    let (found, state) := decoder.step state octet.toNat
    found ++ decoder.items state octets

/-- The text of octets, with U+FFFD in place of gaps. -/
def Decoder.decode (decoder : Decoder) (octets : Utf8.Octets) : List Char :=
  (decoder.items decoder.start octets).map (·.getD '\uFFFD')

def isAscii (n : Nat) : Bool :=
  n < 0x80

/-- The items of a sequence that ends in an octet: its characters, or else a gap
and, if it is ASCII, the octet itself. -/
def completed (chars : List Char) (last : Nat) : List Utf8.Item :=
  if chars.isEmpty then none :: if isAscii last then [some (Char.ofNat last)] else []
  else chars.map some

/-! ## Pairs of octets -/

/-- A charset of ASCII, single octets beyond it, and pairs of octets. -/
structure Pairs where
  /-- Whether an octet opens a pair. -/
  isLead : Nat → Bool
  /-- What another octet beyond ASCII stands for. -/
  single : Nat → Option Char
  /-- What a pair stands for; nothing if there is no such pair. -/
  pair : (lead trail : Nat) → List Char

/-- Takes an octet; the state is the one that has opened a pair. -/
def Pairs.step (pairs : Pairs) : Option Nat → Nat → List Utf8.Item × Option Nat
  | none, n =>
    if isAscii n then ([some (Char.ofNat n)], none)
    else if pairs.isLead n then ([], some n)
    else ([pairs.single n], none)
  | some lead, n => (completed (pairs.pair lead n) n, none)

def Pairs.decoder (pairs : Pairs) : Decoder where
  State := Option Nat
  start := none
  step := pairs.step
  finish lead := if lead.isSome then [none] else []

end Charset
end RepoFeed
