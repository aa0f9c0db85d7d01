/-
The search terms of a text.

A term is a longest stretch of letters and numbers, in lower case.  A text is
known by the terms it holds, each once, in the order in which they first occur.
The stretches are cut before their case is changed: lower case may bring in a mark
that is no letter, and it must not cut a term in two.
-/
import MediaLibrary.Text.Letters
import MediaLibrary.Text.Lowercase

namespace MediaLibrary.Text

/-- The longest stretches of characters that satisfy `p`, in order. -/
def runsOf (p : Char → Bool) : List Char → List (List Char)
  | [] => []
  | c :: rest =>
    if p c then (c :: rest.takeWhile p) :: runsOf p (rest.dropWhile p)
    else runsOf p rest
termination_by cs => cs.length
decreasing_by
  · exact Nat.lt_succ_of_le (List.dropWhile_sublist p).length_le
  · simp

/-- The distinct terms of a text, in the order of their first occurrence. -/
def terms (s : String) : List String :=
  ((runsOf isWordChar s.toList).map fun run => String.ofList (lowercaseChars run)).eraseDups

example : terms "The movie, THE 2nd-movie" = ["the", "movie", "2nd"] := by decide +kernel

end MediaLibrary.Text
