import RepoFeed.Json.Literal
import RepoFeed.Json.Printer

/-
A written text literal reads back as the text it was written from.

`read` looks several characters ahead, so Lean's equations for it come with side
conditions on what follows; the lemmas below go through `read.eq_def` once for
each way a character can be written, and nothing else unfolds it.
-/

namespace RepoFeed
namespace Json
namespace Literal

theorem push_ok (c : Char) (text rest : List Char) :
    push c (.ok (text, rest)) = .ok (c :: text, rest) := rfl

/-- The four digits of an escaped control stand for its code. -/
theorem unit?_controlDigits :
    ∀ n < 32, unit? '0' '0' (n / 16).digitChar (n % 16).digitChar = some n := by
  decide

theorem read_quote (rest : List Char) : read ('"' :: rest) = .ok ([], rest) := by
  rw [read.eq_def]
  simp

/-- Whatever form a character is written in, reading it gives the character. -/
theorem read_renderChar (c : Char) (rest : List Char) :
    read (renderChar c ++ rest) = push c (read rest) := by
  unfold renderChar
  split
  case h_8 hquote hbackslash _ _ _ _ _ =>
    split
    case isTrue hcontrol =>
      have hunit := unit?_controlDigits _ hcontrol
      have hnotTrailing : isTrailingHalf c.toNat = false := by
        simp [isTrailingHalf]; omega
      have hnotLeading : isLeadingHalf c.toNat = false := by
        simp [isLeadingHalf]; omega
      simp only [controlDigits, List.cons_append, List.nil_append]
      rw [read.eq_def]
      simp [hunit, hnotTrailing, hnotLeading]
    case isFalse hplain =>
      have hc : isControl c = false := by simpa [isControl] using hplain
      rw [List.singleton_append, read.eq_def]
      simp only [if_neg hquote, if_neg hbackslash, hc, Bool.false_eq_true, if_false]
  all_goals
    rw [List.cons_append, read.eq_def]
    simp [escaped?]

/-- The inside of a written literal, with its closing quote. -/
theorem read_flatMap_renderChar (text rest : List Char) :
    read (text.flatMap renderChar ++ '"' :: rest) = .ok (text, rest) := by
  induction text with
  | nil => exact read_quote rest
  | cons c text ih =>
    rw [List.flatMap_cons, List.append_assoc, read_renderChar, ih, push_ok]

end Literal

/-- How a written literal begins and what is left behind its opening quote. -/
theorem renderText_append (text rest : List Char) :
    renderText text ++ rest = '"' :: (text.flatMap renderChar ++ '"' :: rest) := by
  simp [renderText]

end Json
end RepoFeed
