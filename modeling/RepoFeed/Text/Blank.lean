/-
White space and literal text at the two ends of a text.

Readers in this library work on lists of characters.  The wrapper around a
reply and the dates inside it tolerate white space in many places, always the
Unicode property White_Space, so the property and the four ways of cutting at
the ends of a text are kept together here.
-/

namespace RepoFeed
namespace Text

/-- The characters with the Unicode property White_Space. -/
def isBlank (c : Char) : Bool :=
  let n := c.toNat
  (9 ≤ n && n ≤ 13) || n == 0x20 || n == 0x85 || n == 0xA0 || n == 0x1680 ||
    (0x2000 ≤ n && n ≤ 0x200A) || n == 0x2028 || n == 0x2029 || n == 0x202F ||
    n == 0x205F || n == 0x3000

def trimStart (text : List Char) : List Char :=
  text.dropWhile isBlank

def trimEnd (text : List Char) : List Char :=
  (text.reverse.dropWhile isBlank).reverse

def trim (text : List Char) : List Char :=
  trimEnd (trimStart text)

/-- What follows `opening` in a text that starts with it. -/
def after? : (opening text : List Char) → Option (List Char)
  | [], text => some text
  | _ :: _, [] => none
  | o :: opening, c :: text => if o = c then after? opening text else none

/-- What precedes `closing` in a text that ends with it. -/
def before? (closing text : List Char) : Option (List Char) :=
  (after? closing.reverse text.reverse).map List.reverse

/-! ## The four cuts in terms of concatenation -/

theorem after?_eq_some_iff {opening text rest : List Char} :
    after? opening text = some rest ↔ text = opening ++ rest := by
  induction opening generalizing text with
  | nil => simp [after?, eq_comm]
  | cons o opening ih =>
    cases text with
    | nil => simp [after?]
    | cons c text =>
      by_cases h : o = c
      · simp [after?, h, ih]
      · simp [after?, h, eq_comm]

theorem before?_eq_some_iff {closing text rest : List Char} :
    before? closing text = some rest ↔ text = rest ++ closing := by
  simp only [before?, Option.map_eq_some_iff, after?_eq_some_iff]
  constructor
  · rintro ⟨r, hr, rfl⟩
    have := congrArg List.reverse hr
    simpa using this
  · rintro rfl
    exact ⟨rest.reverse, by simp⟩

/-- Trimming the start removes a run of blanks and stops at a character that
is not blank. -/
theorem trimStart_append {blanks text : List Char} (hb : ∀ c ∈ blanks, isBlank c = true) :
    trimStart (blanks ++ text) = trimStart text := by
  induction blanks with
  | nil => rfl
  | cons b blanks ih =>
    have hb' : isBlank b = true := hb b (by simp)
    have := ih fun c hc => hb c (by simp [hc])
    simpa [trimStart, List.dropWhile_cons, hb'] using this

theorem trimStart_cons_of_not_blank {c : Char} {text : List Char} (h : isBlank c = false) :
    trimStart (c :: text) = c :: text := by
  simp [trimStart, h]

end Text
end RepoFeed
