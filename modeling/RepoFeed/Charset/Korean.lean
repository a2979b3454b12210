import RepoFeed.Charset.Decoder
import RepoFeed.Charset.KoreanRows

/-
EUC-KR with all syllables.

Pairs whose octets are both from 0xA1 on are the rows and cells of KS X 1001.
The pairs that are left over hold the syllables that the rows lack, in the order
of Unicode; their second octets are letters or lie from 0x81 on.
-/

namespace RepoFeed
namespace Charset
namespace Korean

def isSyllable (c : Char) : Bool :=
  0xAC00 ≤ c.toNat && c.toNat ≤ 0xD7A3

/-- What is left of an ascending list without the members of another one. -/
def without : (all : List Char) → (members : List Char) → List Char
  | [], _ => []
  | all, [] => all
  | c :: all, member :: members =>
    if c = member then without all members else c :: without all (member :: members)

/-- The syllables that the rows have. -/
def listedSyllables : List Char :=
  hangulRows.flatMap fun (_, row) => row.toList.filter isSyllable

/-- The syllables that the rows lack. -/
def otherSyllables : Array Char :=
  (without ((List.range 11172).map fun n => Char.ofNat (0xAC00 + n)) listedSyllables).toArray

/-- The place of a second octet among those that other syllables have. -/
def cellOf? (trail : Nat) : Option Nat :=
  if 0x41 ≤ trail ∧ trail ≤ 0x5A then some (trail - 0x41)
  else if 0x61 ≤ trail ∧ trail ≤ 0x7A then some (26 + (trail - 0x61))
  else if 0x81 ≤ trail ∧ trail ≤ 0xFE then some (52 + (trail - 0x81))
  else none

/-- Other syllables: 178 of them to a row up to 0xA0, and 84 from there on. -/
def otherSyllable? (lead trail : Nat) : Option Char := do
  let cell ← cellOf? trail
  if lead ≤ 0xA0 then otherSyllables[(lead - 0x81) * 178 + cell]?
  else otherSyllables[5696 + (lead - 0xA1) * 84 + cell]?

def pair (lead trail : Nat) : Option Char :=
  if 0xA1 ≤ lead ∧ 0xA1 ≤ trail then hangul.char? (lead - 0xA0) (trail - 0xA1)
  else otherSyllable? lead trail

def decoder : Decoder :=
  Pairs.decoder {
    isLead := fun n => 0x81 ≤ n && n ≤ 0xFE
    single := fun _ => none
    pair := fun lead trail => (pair lead trail).toList }

end Korean
end Charset
end RepoFeed
