import RepoFeed.Json.Scan

/-
Numbers in a text.

The digits of a number, without its point, are gathered into a natural of 64
bits, and a power of ten is kept beside it.  Digits that no longer fit are
counted before the point and dropped behind it.  A number with a point, an
exponent or too many digits becomes binary64: the natural and the power of ten
are each rounded, then multiplied or divided, so the result is rounded twice.
-/

namespace RepoFeed
namespace Json
namespace Numeral

def naturalLimit : Nat := twoPow 64

def integerLimit : Nat := twoPow 63

def exponentLimit : Nat := twoPow 31

/-- The greatest power of ten by which a single step scales. -/
def widestPower : Nat := 308

def powerOfTen (n : Nat) : Binary64 :=
  (Binary64.ofNat? (tenPow n)).getD (.zero false)

/-- Scales a number that is not negative by `10 ^ exponent`; `none` if the
result is too large.  Numbers far below one are divided in several steps, which
ends at zero, so `steps` need not be large. -/
def scale (x : Binary64) (exponent : Int) : (steps : Nat) → Option Binary64
  | 0 => some (.zero false)
  | steps + 1 =>
    if exponent.natAbs ≤ widestPower then
      if 0 ≤ exponent then x.mul? (powerOfTen exponent.natAbs)
      else x.div? (powerOfTen exponent.natAbs)
    else if x.isZero then some x
    else if 0 ≤ exponent then none
    else
      match x.div? (powerOfTen widestPower) with
      | some y => scale y (exponent + widestPower) steps
      | none => none

/-- A number from its parts. -/
def assemble (negative : Bool) (digits : Nat) (exponent : Int) (rest : List Char) :
    Except Failure (Number × List Char) :=
  match (Binary64.ofNat? digits).bind (scale · exponent 4) with
  | some x => .ok (.binary { x with negative }, rest)
  | none => .error (atRest .numberTooLarge rest)

/-- A number without point and exponent.  Zero has a sign only in binary64. -/
def ofDigits (negative : Bool) (digits : Nat) : Number :=
  if negative then
    if digits = 0 ∨ integerLimit < digits then
      .binary { (Binary64.ofNat? digits).getD (.zero false) with negative := true }
    else .whole (-(digits : Int))
  else .whole digits

/-- Reads the exponent after its mark. -/
def readExponent (negative : Bool) (digits : Nat) (start : Int) (text : List Char) :
    Except Failure (Number × List Char) :=
  let (down, text) := match text with
    | '+' :: text => (false, text)
    | '-' :: text => (true, text)
    | text => (false, text)
  match text with
  | [] => .error (atRest (.ended .value) [])
  | c :: _ =>
    if c.isDigit then
      let (exponent, _, rest) := takeDigits exponentLimit 0 text
      if startsWithDigit rest then
        if digits ≠ 0 ∧ !down then .error (atNext .numberTooLarge rest)
        else .ok (.binary (.zero negative), rest.dropWhile Char.isDigit)
      else
        assemble negative digits (if down then start - exponent else start + exponent) rest
    else .error (atNext .badNumber text)

/-- Goes on with an exponent, or ends the number here. -/
def readTail (negative : Bool) (digits : Nat) (exponent : Int) (text : List Char) :
    Except Failure (Number × List Char) :=
  match text with
  | 'e' :: rest | 'E' :: rest => readExponent negative digits exponent rest
  | _ => assemble negative digits exponent text

/-- Reads the digits after the point. -/
def readFraction (negative : Bool) (digits : Nat) (exponent : Int) (text : List Char) :
    Except Failure (Number × List Char) :=
  let (digits, count, rest) := takeDigits naturalLimit digits text
  if startsWithDigit rest then
    readTail negative digits (exponent - count) (rest.dropWhile Char.isDigit)
  else if count = 0 then
    match rest with
    | [] => .error (atRest (.ended .value) [])
    | _ => .error (atNext .badNumber rest)
  else readTail negative digits (exponent - count) rest

/-- Goes on after the digits of the whole part. -/
def readAfterWhole (negative : Bool) (digits : Nat) (text : List Char) :
    Except Failure (Number × List Char) :=
  match text with
  | '.' :: rest => readFraction negative digits 0 rest
  | 'e' :: rest | 'E' :: rest => readExponent negative digits 0 rest
  | _ => .ok (ofDigits negative digits, text)

/-- Goes on after more digits of the whole part than fit. -/
def readAfterLong (negative : Bool) (digits dropped : Nat) (text : List Char) :
    Except Failure (Number × List Char) :=
  match text with
  | '.' :: rest => readFraction negative digits dropped rest
  | _ => readTail negative digits dropped text

/-- Reads a number after its sign. -/
def readUnsigned (negative : Bool) (text : List Char) : Except Failure (Number × List Char) :=
  match text with
  | [] => .error (atRest (.ended .value) [])
  | '0' :: rest =>
    if startsWithDigit rest then .error (atNext .badNumber rest)
    else readAfterWhole negative 0 rest
  | c :: _ =>
    if c.isDigit then
      let (digits, _, rest) := takeDigits naturalLimit 0 text
      if startsWithDigit rest then
        let long := rest.takeWhile Char.isDigit
        readAfterLong negative digits long.length (rest.dropWhile Char.isDigit)
      else readAfterWhole negative digits rest
    else .error (atNext .badNumber text)

/-- Whether a number can begin with a character. -/
def begins (c : Char) : Bool :=
  c == '-' || c.isDigit

/-- Reads a number; the first character satisfies `begins`. -/
def read (text : List Char) : Except Failure (Number × List Char) :=
  match text with
  | '-' :: rest => readUnsigned true rest
  | _ => readUnsigned false text

/-! ## Numbers nobody asks for

A skipped number has to follow the grammar but may have any size. -/

def skipExponent (text : List Char) : Except Failure (List Char) :=
  let text := match text with
    | '+' :: text | '-' :: text => text
    | text => text
  if startsWithDigit text then .ok (text.dropWhile Char.isDigit)
  else .error (atNext .badNumber text)

def skipTail (text : List Char) : Except Failure (List Char) :=
  match text with
  | 'e' :: rest | 'E' :: rest => skipExponent rest
  | _ => .ok text

def skipAfterWhole (text : List Char) : Except Failure (List Char) :=
  match text with
  | '.' :: rest =>
    if startsWithDigit rest then skipTail (rest.dropWhile Char.isDigit)
    else .error (atNext .badNumber rest)
  | _ => skipTail text

def skipUnsigned (text : List Char) : Except Failure (List Char) :=
  match text with
  | '0' :: rest =>
    if startsWithDigit rest then .error (atNext .badNumber rest) else skipAfterWhole rest
  | _ =>
    if startsWithDigit text then skipAfterWhole (text.dropWhile Char.isDigit)
    else .error (atNext .badNumber text)

def skip (text : List Char) : Except Failure (List Char) :=
  match text with
  | '-' :: rest => skipUnsigned rest
  | _ => skipUnsigned text

end Numeral
end Json
end RepoFeed
