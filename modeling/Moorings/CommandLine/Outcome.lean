/-!
# What a command prints

A command that has something to tell prints it as one JSON object, with its
members in the order of their names, each on a line of its own and indented by
two spaces. A member is a number, a text, or an object of numbers and texts.

In a text a quote, a backslash and the control characters are escaped, five of
these by a letter and the others by four hexadecimal digits; all other
characters stand as they are.

A command that fails prints a report instead: the failure, and below it what
lies behind it, numbered if there is more than one cause.
-/

namespace Moorings.CommandLine

/-- A number or a text. -/
inductive Scalar where
  | number (n : Nat)
  | text (s : String)
  deriving DecidableEq, Repr

/-- A member of an outcome. -/
inductive Member where
  | scalar (value : Scalar)
  | record (members : List (String × Scalar))
  deriving DecidableEq, Repr

/-- **What a command has to tell**, as named members. -/
abbrev Outcome := List (String × Member)

/-- How one character stands in a text. -/
def escapeChar (c : Char) : List Char :=
  if c = '\"' then ['\\', '\"']
  else if c = '\\' then ['\\', '\\']
  else if c = '\x08' then ['\\', 'b']
  else if c = '\x0c' then ['\\', 'f']
  else if c = '\n' then ['\\', 'n']
  else if c = '\r' then ['\\', 'r']
  else if c = '\t' then ['\\', 't']
  else if c.toNat < 32 then
    let digits := Nat.toDigits 16 c.toNat
    ['\\', 'u'] ++ List.replicate (4 - digits.length) '0' ++ digits
  else [c]

/-- A text between quotes. -/
def jsonText (s : String) : String :=
  String.ofList ('\"' :: s.toList.flatMap escapeChar ++ ['\"'])

namespace Outcome

/-- Members in the order of their names. -/
def sorted {α : Type} (members : List (String × α)) : List (String × α) :=
  members.mergeSort fun a b => a.1 ≤ b.1

/-- An object, given its members as texts. -/
def objectText (indent : String) (members : List (String × String)) : String :=
  let lines := members.map fun (name, value) => s!"{indent}  {jsonText name}: {value}"
  "\x7b\n" ++ ",\n".intercalate lines ++ "\n" ++ indent ++ "\x7d"

/-- A number or a text, as JSON. -/
def scalarText : Scalar → String
  | .number n => toString n
  | .text s => jsonText s

/-- A member, as JSON. -/
def memberText : Member → String
  | .scalar value => scalarText value
  | .record members =>
    objectText "  " ((sorted members).map fun (name, value) => (name, scalarText value))

/-- **The outcome as JSON.** -/
def text (outcome : Outcome) : String :=
  objectText "" ((sorted outcome).map fun (name, value) => (name, memberText value))

end Outcome

/-! ## Reports -/

/-- The causes of a failure, one to a line. -/
def causesText : List String → String
  | [] => ""
  | [cause] => s!"\nCaused by:\n    {cause}\n"
  | causes =>
    let lines := causes.zipIdx.map fun (cause, i) => s!"    {i}: {cause}\n"
    "\nCaused by:\n" ++ "".intercalate lines

/-- **The report of a failure**: the failure in words, and its causes. -/
def report (failure : String) (causes : List String) : String :=
  s!"Error: {failure}\n" ++ causesText causes

/-! ## How a command ends -/

/-- **How a command ends**: its code, and what it has printed. -/
structure Exit where
  code : Nat
  output : String := ""
  report : String := ""
  deriving DecidableEq, Repr

namespace Exit

/-- It went well, and there is nothing to tell. -/
def silent : Exit := { code := 0 }

/-- It went well, and this is the outcome. -/
def told (outcome : Outcome) : Exit := { code := 0, output := outcome.text ++ "\n" }

/-- It failed for a reason that has these texts, outermost first. -/
def failed : List String → Exit
  | [] => { code := 1 }
  | failure :: causes => { code := 1, report := CommandLine.report failure causes }

end Exit

end Moorings.CommandLine
