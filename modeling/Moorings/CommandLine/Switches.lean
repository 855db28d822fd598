/-!
# Reading the arguments of a program

Arguments are switches, words that stand by themselves, and at some point
perhaps the name of a command, which takes all arguments after it for its own.

* `--name` is a switch with a name of its own; `-n` is one with a letter, and
  several of those may be drawn together behind one dash.
* A switch with a value takes it from behind an equals sign (`--name=value`,
  `-n=value`), from the same argument (`-nvalue`), or else from the next
  argument, which must not look like a switch itself.
* After the argument `--` nothing is a switch or a command any more.
* No switch may be given twice.

A `Form` says what may be given, and `Form.read` reads the arguments from left
to right. What it meets first decides how the reading stops, if it stops: a
request for help or for the version, or arguments that do not fit the form.
-/

namespace Moorings.CommandLine

/-- Why reading the arguments stops before they are understood. -/
inductive Stop where
  /-- They do not fit. -/
  | usage
  /-- They ask for help. -/
  | help
  /-- They ask for the version. -/
  | version
  deriving DecidableEq, Repr

/-- A switch. -/
structure Switch where
  /-- The name behind two dashes. -/
  name : String
  /-- The letter behind one dash. -/
  letter : Option Char := none
  /-- Which texts are a value for it, if it takes a value. -/
  accepts : Option (String → Bool) := none

/-- **What may be given.** -/
structure Form where
  /-- The switches. -/
  switches : List Switch
  /-- The commands, of which one may end the arguments. -/
  commands : List String := []
  /-- Which texts may stand by themselves; at most one does. -/
  word : Option (String → Bool) := none
  /-- Whether one may ask for the version. -/
  hasVersion : Bool := false

/-- **What has been given.** -/
structure Given where
  /-- The names of the switches without a value. -/
  flags : List String := []
  /-- The names and the values of the others. -/
  values : List (String × String) := []
  /-- The word that stands by itself. -/
  word : Option String := none
  /-- The command, and the arguments that are its own. -/
  command : Option (String × List String) := none
  deriving DecidableEq, Repr

namespace Given

/-- Whether a switch without a value has been given. -/
def hasFlag (g : Given) (name : String) : Bool := g.flags.contains name

/-- The value of a switch. -/
def value? (g : Given) (name : String) : Option String := g.values.lookup name

/-- One switch more, which must not be there yet. -/
def addFlag (g : Given) (name : String) : Except Stop Given :=
  if g.hasFlag name then .error .usage else .ok { g with flags := name :: g.flags }

/-- One value more, which must suit its switch; the switch must not be there
yet. -/
def addValue (g : Given) (switch : Switch) (value : String) : Except Stop Given :=
  let suits := switch.accepts.any fun accepts => accepts value
  if suits && (g.value? switch.name).isNone then
    .ok { g with values := (switch.name, value) :: g.values }
  else .error .usage

end Given

/-- What an argument looks like. -/
inductive Argument where
  /-- Two dashes, a name, and what stands behind an equals sign. -/
  | named (name : String) (value : Option String)
  /-- One dash and at least one more character. -/
  | letters (chars : List Char)
  /-- Two dashes alone. -/
  | end_
  /-- Anything else. -/
  | word
  deriving DecidableEq, Repr

/-- What an argument looks like. -/
def Argument.of (text : String) : Argument :=
  match text.toList with
  | ['-', '-'] => end_
  | '-' :: '-' :: rest =>
    let name := String.ofList (rest.takeWhile (· ≠ '='))
    match rest.dropWhile (· ≠ '=') with
    | _ :: value => named name (some (String.ofList value))
    | [] => named name none
  | '-' :: c :: rest => letters (c :: rest)
  | _ => word

namespace Form

/-- The switch with this name. -/
def named? (f : Form) (name : String) : Option Switch := f.switches.find? (·.name = name)

/-- The switch with this letter. -/
def lettered? (f : Form) (letter : Char) : Option Switch :=
  f.switches.find? (·.letter = some letter)

/-- A switch by its name. If it still lacks its value, it is given back. -/
def readNamed (f : Form) (g : Given) (name : String) (value : Option String) :
    Except Stop (Given × Option Switch) :=
  match f.named? name, value with
  | none, _ =>
    if name = "help" then .error (if value.isNone then .help else .usage)
    else if name = "version" && f.hasVersion && value.isNone then .error .version
    else .error .usage
  | some switch, some value => do pure (← g.addValue switch value, none)
  | some switch, none =>
    if switch.accepts.isSome then .ok (g, some switch)
    else do pure (← g.addFlag switch.name, none)

/-- Switches by their letters. If the last one still lacks its value, it is
given back. -/
def readLetters (f : Form) (g : Given) : List Char → Except Stop (Given × Option Switch)
  | [] => .ok (g, none)
  | c :: rest =>
    match f.lettered? c with
    | none =>
      if c = 'h' then .error .help
      else if c = 'V' && f.hasVersion then .error .version
      else .error .usage
    | some switch =>
      if switch.accepts.isNone then do f.readLetters (← g.addFlag switch.name) rest
      else
        match rest with
        | [] => .ok (g, some switch)
        | '=' :: value => do pure (← g.addValue switch (String.ofList value), none)
        | value => do pure (← g.addValue switch (String.ofList value), none)

/-- A word that stands by itself. -/
def readWord (f : Form) (g : Given) (text : String) : Except Stop Given :=
  if (f.word.any fun accepts => accepts text) && g.word.isNone then
    .ok { g with word := some text }
  else .error .usage

/-- The arguments after two dashes alone. -/
def readWords (f : Form) (g : Given) : List String → Except Stop Given
  | [] => .ok g
  | text :: rest => do f.readWords (← f.readWord g text) rest

/-- The command that an argument names, with those after it for its own. To
ask for help on a command is to ask for help. -/
def command? (f : Form) (text : String) (rest : List String) :
    Option (Except Stop (String × List String)) :=
  if f.commands.contains text then some (.ok (text, rest))
  else if text = "help" && !f.commands.isEmpty then
    match rest with
    | [] => some (.error .help)
    | name :: _ =>
      some (.error (if name = "help" || f.commands.contains name then .help else .usage))
  else none

/-- The arguments from left to right, where `lacking` is the switch whose
value comes next, if one does. -/
def readFrom (f : Form) (g : Given) (lacking : Option Switch) :
    List String → Except Stop Given
  | [] => if lacking.isSome then .error .usage else .ok g
  | text :: rest =>
    match lacking, Argument.of text with
    | some switch, .word => do f.readFrom (← g.addValue switch text) none rest
    | some _, _ => .error .usage
    | none, shape =>
      match f.command? text rest with
      | some command => do pure { g with command := some (← command) }
      | none =>
        match shape with
        | .end_ => f.readWords g rest
        | .named name value => do
          let (g, lacking) ← f.readNamed g name value
          f.readFrom g lacking rest
        | .letters chars => do
          let (g, lacking) ← f.readLetters g chars
          f.readFrom g lacking rest
        | .word => do f.readFrom (← f.readWord g text) none rest

/-- **What the arguments give**, if they fit the form. -/
def read (f : Form) (arguments : List String) : Except Stop Given :=
  f.readFrom {} none arguments

end Form

end Moorings.CommandLine
