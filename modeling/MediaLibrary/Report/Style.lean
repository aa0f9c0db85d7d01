/-
Styled text for terminals.

A style is switched on in front of a text and everything is switched off behind it.
Where the text itself switches everything off, the style is switched on again.
-/

namespace MediaLibrary

/-- The styles of the report. -/
inductive Style where
  | bold
  | dimmed
  | italic
  | red
  | green
  deriving DecidableEq

namespace Style

/-- The number of a style. -/
def code : Style → String
  | bold => "1"
  | dimmed => "2"
  | italic => "3"
  | red => "31"
  | green => "32"

/-- What switches every style off. -/
def off : String := "\x1b[0m"

/-- What switches some styles on. -/
def on (styles : List Style) : String :=
  "\x1b[" ++ ";".intercalate (styles.map code) ++ "m"

end Style

/-- How a report is written: with styles or without. -/
structure Paint where
  colored : Bool
  deriving DecidableEq

/-- A text in some styles. -/
def Paint.styled (p : Paint) (styles : List Style) (text : String) : String :=
  if p.colored then
    Style.on styles ++ text.replace Style.off (Style.off ++ Style.on styles) ++ Style.off
  else text

end MediaLibrary
