import RepoFeed.Json.Scan

/-
Text literals, read after their opening quote.

An escape `\u` stands for a UTF-16 unit, so a character beyond U+FFFF takes two
of them and a unit of either half on its own is refused.  A literal that is only
skipped is held to the shape of its escapes, not to their meaning.
-/

namespace RepoFeed
namespace Json
namespace Literal

/-- The character named by a one-letter escape. -/
def escaped? : Char → Option Char
  | '"' => some '"'
  | '\\' => some '\\'
  | '/' => some '/'
  | 'b' => some '\x08'
  | 'f' => some '\x0c'
  | 'n' => some '\n'
  | 'r' => some '\r'
  | 't' => some '\t'
  | _ => none

/-- The unit written by four hexadecimal digits. -/
def unit? (a b c d : Char) : Option Nat := do
  let a ← Text.hexDigit? a
  let b ← Text.hexDigit? b
  let c ← Text.hexDigit? c
  let d ← Text.hexDigit? d
  some (a * 4096 + b * 256 + c * 16 + d)

/-- What is wrong where four hexadecimal digits should follow.  Four octets are
looked at together, so with fewer of them the text has ended. -/
def unitFailure (text : List Char) : Failure :=
  if 4 ≤ octetLength text then .placed .badEscape ⟨text, 4⟩ else atRest (.ended .text) []

def isControl (c : Char) : Bool :=
  c.toNat < 0x20

def isLeadingHalf (unit : Nat) : Bool :=
  0xD800 ≤ unit && unit ≤ 0xDBFF

def isTrailingHalf (unit : Nat) : Bool :=
  0xDC00 ≤ unit && unit ≤ 0xDFFF

/-- The character of two halves. -/
def joinHalves (leading trailing : Nat) : Char :=
  Char.ofNat ((leading - 0xD800) * 0x400 + (trailing - 0xDC00) + 0x10000)

/-- Puts a character before what was read after it. -/
def push (c : Char) (read : Except Failure (List Char × List Char)) :
    Except Failure (List Char × List Char) :=
  read.map fun (text, rest) => (c :: text, rest)

/-- What is wrong where the second half of a pair should follow. -/
def halfFailure : List Char → Failure
  | [] => atRest (.ended .text) []
  | '\\' :: [] => atRest (.ended .text) []
  | '\\' :: 'u' :: rest => unitFailure rest
  | '\\' :: rest => atNext .brokenSurrogatePair rest
  | rest => atNext .brokenSurrogatePair rest

/-- Reads the characters of a literal up to its closing quote. -/
def read : Reader (List Char)
  | [] => .error (atRest (.ended .text) [])
  | c :: rest =>
    if c = '"' then .ok ([], rest)
    else if c = '\\' then
      match rest with
      | [] => .error (atRest (.ended .text) [])
      | e :: rest =>
        if e = 'u' then
          match rest with
          | h₁ :: h₂ :: h₃ :: h₄ :: rest =>
            match unit? h₁ h₂ h₃ h₄ with
            | none => .error (unitFailure (h₁ :: h₂ :: h₃ :: h₄ :: rest))
            | some unit =>
              if isTrailingHalf unit then .error (atRest .loneSurrogate rest)
              else if isLeadingHalf unit then
                match rest with
                | '\\' :: 'u' :: l₁ :: l₂ :: l₃ :: l₄ :: rest =>
                  match unit? l₁ l₂ l₃ l₄ with
                  | none => .error (unitFailure (l₁ :: l₂ :: l₃ :: l₄ :: rest))
                  | some half =>
                    if isTrailingHalf half then push (joinHalves unit half) (read rest)
                    else .error (atRest .loneSurrogate rest)
                | rest => .error (halfFailure rest)
              else push (Char.ofNat unit) (read rest)
          | rest => .error (unitFailure rest)
        else
          match escaped? e with
          | some c => push c (read rest)
          | none => .error (atNext .badEscape (e :: rest))
    else if isControl c then .error (atNext .controlCharacter (c :: rest))
    else push c (read rest)

/-- Skips a literal up to its closing quote. -/
def skip : List Char → Except Failure (List Char)
  | [] => .error (atRest (.ended .text) [])
  | c :: rest =>
    if c = '"' then .ok rest
    else if c = '\\' then
      match rest with
      | [] => .error (atRest (.ended .text) [])
      | e :: rest =>
        if e = 'u' then
          match rest with
          | h₁ :: h₂ :: h₃ :: h₄ :: rest =>
            match unit? h₁ h₂ h₃ h₄ with
            | none => .error (unitFailure (h₁ :: h₂ :: h₃ :: h₄ :: rest))
            | some _ => skip rest
          | rest => .error (unitFailure rest)
        else if (escaped? e).isSome then skip rest
        else .error (atNext .badEscape (e :: rest))
    else if isControl c then .error (atRest .controlCharacter (c :: rest))
    else skip rest

end Literal
end Json
end RepoFeed
