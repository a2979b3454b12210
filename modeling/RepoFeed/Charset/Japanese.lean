import RepoFeed.Charset.Decoder
import RepoFeed.Charset.JapaneseRows

/-
The Japanese charsets.

All of them write the rows and cells of JIS X 0208 and the narrow katakana, each
in its own way: Shift_JIS packs two rows behind one first octet, EUC-JP shifts
rows and cells beyond ASCII and reaches JIS X 0212 with a third octet, and
ISO-2022-JP says by escape sequences which set follows.
-/

namespace RepoFeed
namespace Charset

/-- The narrow katakana by their places from 0 to 62. -/
def narrowKatakana (n : Nat) : Char :=
  Char.ofNat (0xFF61 + n)

/-! ## Shift_JIS -/

namespace ShiftJis

/-- The place of a second octet among the 188 that follow a first one. -/
def cellOf? (trail : Nat) : Option Nat :=
  if 0x40 ≤ trail ∧ trail ≤ 0x7E then some (trail - 0x40)
  else if 0x80 ≤ trail ∧ trail ≤ 0xFC then some (trail - 0x41)
  else none

/-- The rows 95 to 114 are for private use. -/
def pair (lead trail : Nat) : Option Char := do
  let cell ← cellOf? trail
  let place := (lead - if lead < 0xA0 then 0x81 else 0xC1) * 188 + cell
  let row := place / 94 + 1
  if 95 ≤ row ∧ row ≤ 114 then some (Char.ofNat (0xE000 + (place - 94 * 94)))
  else kanji.char? row (place % 94)

/-- The octet 0x80 stands for itself, and the narrow katakana for themselves. -/
def single (n : Nat) : Option Char :=
  if n = 0x80 then some (Char.ofNat n)
  else if 0xA1 ≤ n ∧ n ≤ 0xDF then some (narrowKatakana (n - 0xA1))
  else none

def decoder : Decoder :=
  Pairs.decoder {
    isLead := fun n => (0x81 ≤ n && n ≤ 0x9F) || (0xE0 ≤ n && n ≤ 0xFC)
    single
    pair := fun lead trail => (pair lead trail).toList }

end ShiftJis

/-! ## EUC-JP -/

namespace EucJp

inductive State where
  | ready
  | after (first : Nat)
  /-- Behind the octet that announces JIS X 0212 and one more. -/
  | afterTwo (second : Nat)
deriving DecidableEq, Repr

def isHigh (n : Nat) : Bool :=
  0xA1 ≤ n && n ≤ 0xFE

/-- The character of a grid that two high octets stand for. -/
def pair (grid : Grid) (lead trail : Nat) : Option Char :=
  if isHigh lead && isHigh trail then grid.char? (lead - 0xA0) (trail - 0xA1) else none

def step : State → Nat → List Utf8.Item × State
  | .ready, n =>
    if isAscii n then ([some (Char.ofNat n)], .ready)
    else if n = 0x8E ∨ n = 0x8F ∨ isHigh n then ([], .after n)
    else ([none], .ready)
  | .after first, n =>
    if first = 0x8E ∧ 0xA1 ≤ n ∧ n ≤ 0xDF then ([some (narrowKatakana (n - 0xA1))], .ready)
    else if first = 0x8F ∧ isHigh n then ([], .afterTwo n)
    else (completed (pair kanji first n).toList n, .ready)
  | .afterTwo second, n => (completed (pair supplement second n).toList n, .ready)

def decoder : Decoder where
  State := State
  start := .ready
  step := step
  finish state := if state = .ready then [] else [none]

end EucJp

/-! ## ISO-2022-JP -/

namespace Iso2022Jp

/-- The set that an escape sequence has chosen. -/
inductive Mode where
  | ascii
  | roman
  | katakana
  | kanji
deriving DecidableEq, Repr

inductive Phase where
  | plain
  /-- Inside a pair. -/
  | after (lead : Nat)
  /-- Behind an escape. -/
  | escape
  /-- Behind an escape and the first octet of its sequence. -/
  | escapeAfter (first : Nat)
deriving DecidableEq, Repr

structure State where
  mode : Mode
  phase : Phase
  /-- Whether an escape sequence has ended and nothing has come since. -/
  isIdle : Bool
deriving DecidableEq, Repr

/-- The set that an escape sequence chooses. -/
def modeOf? (first second : Nat) : Option Mode :=
  match first, second with
  | 0x28, 0x42 => some .ascii
  | 0x28, 0x4A => some .roman
  | 0x28, 0x49 => some .katakana
  | 0x24, 0x40 | 0x24, 0x42 => some .kanji
  | _, _ => none

/-- What an octet stands for in the sets of single octets.  The two octets that
would shift between sets elsewhere are refused. -/
def single (mode : Mode) (n : Nat) : Utf8.Item :=
  if mode = .katakana then
    if 0x21 ≤ n ∧ n ≤ 0x5F then some (narrowKatakana (n - 0x21)) else none
  else if !isAscii n ∨ n = 0x0E ∨ n = 0x0F then none
  else if mode = .roman ∧ n = 0x5C then some '¥'
  else if mode = .roman ∧ n = 0x7E then some '‾'
  else some (Char.ofNat n)

/-- Takes an octet outside an escape sequence. -/
def stepText (state : State) (n : Nat) : List Utf8.Item × State :=
  match state.phase with
  | .after lead =>
    if n = 0x1B then ([none], { state with phase := .escape })
    else
      let found := if 0x21 ≤ n ∧ n ≤ 0x7E then kanji.char? (lead - 0x20) (n - 0x21) else none
      ([found], { state with phase := .plain })
  | _ =>
    if n = 0x1B then ([], { state with phase := .escape })
    else if state.mode = .kanji ∧ 0x21 ≤ n ∧ n ≤ 0x7E then
      ([], { state with phase := .after n, isIdle := false })
    else
      ([if state.mode = .kanji then none else single state.mode n],
        { state with phase := .plain, isIdle := false })

/-- The state behind a sequence that is no escape sequence. -/
def State.resumed (state : State) : State :=
  { state with phase := .plain, isIdle := false }

/-- Takes an octet.  An escape sequence directly behind another one is a gap, and
one that chooses nothing is a gap whose octets are read as text. -/
def step (state : State) (n : Nat) : List Utf8.Item × State :=
  match state.phase with
  | .escape =>
    if n = 0x24 ∨ n = 0x28 then ([], { state with phase := .escapeAfter n })
    else
      let (items, state) := stepText state.resumed n
      (none :: items, state)
  | .escapeAfter first =>
    match modeOf? first n with
    | some mode => (if state.isIdle then [none] else [], ⟨mode, .plain, true⟩)
    | none =>
      let (before, state) := stepText state.resumed first
      let (items, state) := stepText state n
      (none :: before ++ items, state)
  | _ => stepText state n

def finish (state : State) : List Utf8.Item :=
  match state.phase with
  | .plain => []
  | .after _ | .escape => [none]
  | .escapeAfter first =>
    let (items, state) := stepText state.resumed first
    none :: items ++ if state.phase = .plain then [] else [none]

def decoder : Decoder where
  State := State
  start := ⟨.ascii, .plain, false⟩
  step := step
  finish := finish

end Iso2022Jp

end Charset
end RepoFeed
