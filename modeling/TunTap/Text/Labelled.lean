/-!
# Labelled values

The text of a value for a reader of the program: a label and the parts of the value, already written, by position or
by name. It is written on one line (`oneLine`) or with one part a line (`multiLine`).
-/

namespace TunTap

/-- A label with the written parts of a value. -/
inductive Labelled where
  | bare (label : String)
  | byPosition (label : String) (parts : List String)
  | byName (label : String) (parts : List (String × String))

namespace Labelled

/-- A part with its name. -/
def named (part : String × String) : String := part.1 ++ ": " ++ part.2

/-- A line of its own for a part. -/
def line (part : String) : String := "    " ++ part ++ ",\n"

/-- The parts in brackets after the label, separated by commas. -/
def oneLine : Labelled → String
  | bare label => label
  | byPosition label parts => label ++ "(" ++ ", ".intercalate parts ++ ")"
  | byName label parts => label ++ " \x7b " ++ ", ".intercalate (parts.map named) ++ " \x7d"

/-- The brackets opened after the label, and each part indented on a line of its own. -/
def multiLine : Labelled → String
  | bare label => label
  | byPosition label parts => label ++ "(\n" ++ String.join (parts.map line) ++ ")"
  | byName label parts => label ++ " \x7b\n" ++ String.join (parts.map (line ∘ named)) ++ "\x7d"

end Labelled

/-- Numbers between square brackets. -/
def bracketed (items : List String) : String := "[" ++ ", ".intercalate items ++ "]"

end TunTap
