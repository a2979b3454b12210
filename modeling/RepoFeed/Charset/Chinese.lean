import RepoFeed.Charset.ChineseRows
import RepoFeed.Charset.Decoder

/-
GB 18030, and with it GBK and GB 2312.

Every pair of a first octet from 0x81 to 0xFE and a second one from 0x40 on has a
character.  Pairs whose octets are both from 0xA1 on are rows and cells; among
the others are the ideographs that the rows lack, and what is left is for private
use.  All further characters take four octets.
-/

namespace RepoFeed
namespace Charset
namespace Chinese

/-! ## Pairs -/

def firstIdeograph : Nat := 0x4E00

def ideographCount : Nat := 20902

/-- Which ideographs are in the rows, by their distance from the first one. -/
def listed : Array Bool :=
  (guobiaoRows.flatMap fun (_, row) => row.toList).foldl
    (fun marks c => if firstIdeograph ≤ c.toNat then
      marks.setIfInBounds (c.toNat - firstIdeograph) true else marks)
    (Array.replicate ideographCount false)

/-- The ideographs that the rows lack, and those that come last. -/
def otherIdeographs : Array Char :=
  let unlisted := (List.range ideographCount).filter fun n => !listed.getD n false
  (unlisted.map (fun n => Char.ofNat (firstIdeograph + n)) ++ lastIdeographs.toList).toArray

/-- A pair whose second octet is in front of 0xA1, where a row has 96 cells. -/
def frontPair (lead cell : Nat) : Option Char :=
  if 0xAA ≤ lead then otherIdeographs[6080 + (lead - 0xAA) * 96 + cell]?
  else if 0xA8 ≤ lead then symbols.char? (lead - 0xA0) cell
  else if lead = 0xA3 ∧ cell = 95 then some '\u3000'
  else some (Char.ofNat (0xE4C6 + (lead - 0xA1) * 96 + cell))

/-- A pair whose octets are both from 0xA1 on, where a row has 94 cells. -/
def backPair (lead cell : Nat) : Option Char :=
  if 0xF8 ≤ lead then some (Char.ofNat (0xE234 + (lead - 0xF8) * 94 + cell))
  else if 0xAA ≤ lead ∧ lead ≤ 0xAF then
    some (Char.ofNat (0xE000 + (lead - 0xAA) * 94 + cell))
  else guobiao.char? (lead - 0xA0) cell

def pair (lead trail : Nat) : Option Char :=
  if trail < 0x40 ∨ trail = 0x7F ∨ 0xFE < trail then none
  else
    let cell := trail - if trail < 0x7F then 0x40 else 0x41
    if lead ≤ 0xA0 then otherIdeographs[(lead - 0x81) * 190 + cell]?
    else if trail ≤ 0xA0 then frontPair lead cell
    else backPair lead (trail - 0xA1)

/-! ## Four octets -/

/-- The character of a number that four octets make. -/
def numbered? (number : Nat) : Option Char :=
  if number = 7457 then some '\uE7C7'
  else if 189000 ≤ number ∧ number ≤ 1237575 then some (Char.ofNat (0x10000 + (number - 189000)))
  else if 39419 < number then none
  else
    match runs.reverse.find? (·.1 ≤ number) with
    | some (start, code) => some (Char.ofNat (code + (number - start)))
    | none => none

/-- The number of four octets: digits in the second and fourth place, and octets
from 0x81 on in the first and third. -/
def numberOf (first second third fourth : Nat) : Nat :=
  (((first - 0x81) * 10 + (second - 0x30)) * 126 + (third - 0x81)) * 10 + (fourth - 0x30)

inductive State where
  | ready
  | one (first : Nat)
  | two (first second : Nat)
  | three (first second third : Nat)
deriving DecidableEq, Repr

def isLead (n : Nat) : Bool :=
  0x81 ≤ n && n ≤ 0xFE

def isDigit (n : Nat) : Bool :=
  0x30 ≤ n && n ≤ 0x39

/-- Takes an octet between characters. -/
def stepReady (n : Nat) : List Utf8.Item × State :=
  if isAscii n then ([some (Char.ofNat n)], .ready)
  else if n = 0x80 then ([some '€'], .ready)
  else if isLead n then ([], .one n)
  else ([none], .ready)

/-- Takes an octet.  Of four octets that make no character only the first is a
gap, and the others are read again. -/
def step : State → Nat → List Utf8.Item × State
  | .ready, n => stepReady n
  | .one first, n =>
    if isDigit n then ([], .two first n)
    else (completed (pair first n).toList n, .ready)
  | .two first second, n =>
    if isLead n then ([], .three first second n)
    else
      let (items, state) := stepReady n
      (none :: some (Char.ofNat second) :: items, state)
  | .three first second third, n =>
    if isDigit n then ([numbered? (numberOf first second third n)], .ready)
    else
      (none :: some (Char.ofNat second) :: completed (pair third n).toList n, .ready)

def decoder : Decoder where
  State := State
  start := .ready
  step := step
  finish state := if state = .ready then [] else [none]

end Chinese
end Charset
end RepoFeed
