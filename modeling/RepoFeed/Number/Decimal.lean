/-
Numbers in decimal notation.

A number has digits before or behind a point, or on both sides, and perhaps an
exponent.  The infinite values and the undefined one are numbers too and are
written as words.
-/

namespace RepoFeed
namespace Decimal

def dropSign : List Char → List Char
  | '+' :: text | '-' :: text => text
  | text => text

/-- Whether a text is an exponent, which may be missing. -/
def isExponent : List Char → Bool
  | [] => true
  | c :: text =>
    let digits := dropSign text
    (c == 'e' || c == 'E') && !digits.isEmpty && digits.all Char.isDigit

/-- Whether a text is a number in digits and without a sign. -/
def isUnsigned (text : List Char) : Bool :=
  let whole := text.takeWhile Char.isDigit
  let (places, rest) :=
    match text.dropWhile Char.isDigit with
    | '.' :: rest => (rest.takeWhile Char.isDigit, rest.dropWhile Char.isDigit)
    | rest => ([], rest)
  !(whole.isEmpty && places.isEmpty) && isExponent rest

/-- Whether a text is one of the words for a number, in letters of either
case. -/
def isWord (text : List Char) : Bool :=
  ["inf", "infinity", "nan"].contains (String.ofList (text.map Char.toLower))

/-- Whether a text is a number. -/
def isNumber (text : List Char) : Bool :=
  isUnsigned (dropSign text) || isWord (dropSign text)

end Decimal
end RepoFeed
