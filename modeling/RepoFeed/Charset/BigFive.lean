import RepoFeed.Charset.BigFiveRows
import RepoFeed.Charset.Decoder

/-
Big5 with the characters of Hong Kong.

Four pairs stand for a letter and a mark over it, for which there is no single
character.
-/

namespace RepoFeed
namespace Charset
namespace BigFive

/-- The place of a second octet in its row. -/
def cellOf? (trail : Nat) : Option Nat :=
  if 0x40 ≤ trail ∧ trail ≤ 0x7E then some (trail - 0x40)
  else if 0xA1 ≤ trail ∧ trail ≤ 0xFE then some (63 + (trail - 0xA1))
  else none

def pair (lead trail : Nat) : List Char :=
  match lead, trail with
  | 0x88, 0x62 => ['\u00CA', '\u0304']
  | 0x88, 0x64 => ['\u00CA', '\u030C']
  | 0x88, 0xA3 => ['\u00EA', '\u0304']
  | 0x88, 0xA5 => ['\u00EA', '\u030C']
  | _, _ => ((cellOf? trail).bind (bigFive.char? lead)).toList

def decoder : Decoder :=
  Pairs.decoder {
    isLead := fun n => 0x81 ≤ n && n ≤ 0xFE
    single := fun _ => none
    pair }

end BigFive
end Charset
end RepoFeed
