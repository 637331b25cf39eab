/-
This file reads the arguments of the command line.

    [options] export_hw [options] [--link] [--kernel NAME] [DIRECTORY]

Some options may stand in front of the command and behind it, the others only behind it. Options
are read from left to right; an option that is not known, that lacks its value, has one that it
does not take, or is given twice at one level makes the arguments unreadable, unless help has been
asked for before it.
-/

import KernelExport.Text.Blank

namespace KernelExport.CommandLine

/-- When reports are coloured. -/
inductive ColourChoice where
  /-- When they go to a terminal. -/
  | auto
  | always
  | never
  deriving DecidableEq, Repr

def ColourChoice.ofWord? : String → Option ColourChoice
  | "auto" => some .auto
  | "always" => some .always
  | "never" => some .never
  | _ => none

/-- What an export is asked to be like. -/
structure Request where
  quiet : Bool
  verbose : Bool
  colour : ColourChoice
  /-- The configuration file, or the directory that it lies in. -/
  configuration : Option String
  link : Bool
  /-- The only kernel to export. -/
  kernel : Option String
  /-- The directory to export to. -/
  directory : Option String
  deriving DecidableEq, Repr

/-- What arguments ask for. -/
inductive Demand where
  /-- A text about the program. -/
  | information
  | exporting (request : Request)
  deriving DecidableEq, Repr

/-! ### Options -/

/-- Where an option stands: in front of the command or behind it. -/
inductive Level where
  | front
  | behind
  deriving DecidableEq, Repr

/-- The options. -/
inductive Switch where
  | quiet
  | verbose
  | colour
  | configuration
  | link
  | kernel
  | help
  | version
  deriving DecidableEq, Repr

namespace Switch

def all : List Switch := [.quiet, .verbose, .colour, .configuration, .link, .kernel, .help, .version]

def long : Switch → String
  | .quiet => "quiet"
  | .verbose => "verbose"
  | .colour => "color"
  | .configuration => "config"
  | .link => "link"
  | .kernel => "kernel"
  | .help => "help"
  | .version => "version"

def letter? : Switch → Option Char
  | .quiet => some 'q'
  | .verbose => some 'v'
  | .colour | .configuration => none
  | .link => some 'l'
  | .kernel => some 'k'
  | .help => some 'h'
  | .version => some 'V'

def takesValue : Switch → Bool
  | .colour | .configuration | .kernel => true
  | _ => false

def standsAt : Switch → Level → Bool
  | .quiet, _ | .verbose, _ | .colour, _ | .configuration, _ | .help, _ => true
  | .link, level | .kernel, level => level = .behind
  | .version, level => level = .front

end Switch

/-- What one level has been given. -/
structure Given where
  quiet : Bool := false
  verbose : Bool := false
  colour : Option ColourChoice := none
  configuration : Option String := none
  link : Bool := false
  kernel : Option String := none
  directory : Option String := none
  deriving DecidableEq, Repr

namespace Given

/-- Takes in an option and its value, unless it has been given or the value is none of its. -/
def set (given : Given) (option : Switch) (value : String) : Option Given :=
  match option with
  | .quiet => if given.quiet then none else some { given with quiet := true }
  | .verbose => if given.verbose then none else some { given with verbose := true }
  | .link => if given.link then none else some { given with link := true }
  | .colour =>
    match given.colour, ColourChoice.ofWord? value with
    | none, some choice => some { given with colour := some choice }
    | _, _ => none
  | .configuration =>
    if given.configuration.isSome then none else some { given with configuration := some value }
  | .kernel => if given.kernel.isSome then none else some { given with kernel := some value }
  | .help | .version => none

/-- Takes in a directory, unless one has been given. It may not be empty. -/
def setDirectory (given : Given) (directory : String) : Option Given :=
  if given.directory.isSome ∨ directory = "" then none
  else some { given with directory := some directory }

/-- The request that the two levels make. What stands behind the command counts for more. -/
def request (front behind : Given) : Request where
  quiet := front.quiet || behind.quiet
  verbose := front.verbose || behind.verbose
  colour := ((behind.colour).or front.colour).getD .auto
  configuration := behind.configuration.or front.configuration
  link := behind.link
  kernel := behind.kernel
  directory := behind.directory

end Given

/-! ### Arguments -/

/-- What an argument is by its look. -/
inductive Argument where
  /-- `--`: no options follow. -/
  | separator
  /-- A long option and the value written behind it. -/
  | long (name : List Char) (value : Option (List Char))
  /-- Letters of options, one at least. -/
  | letters (letters : List Char)
  /-- Anything else. A single dash is no option. -/
  | plain

def Argument.ofText (text : String) : Argument :=
  match text.toList with
  | ['-', '-'] => .separator
  | '-' :: '-' :: rest =>
    let name := rest.takeWhile (· ≠ '=')
    if name.length < rest.length then .long name (some (rest.drop (name.length + 1)))
    else .long name none
  | '-' :: letter :: rest => .letters (letter :: rest)
  | _ => .plain

/-- The value that an option takes from the arguments behind it, and the arguments behind that.
What looks like an option is no value. -/
def nextValue : List String → Option (String × List String)
  | value :: rest =>
    match Argument.ofText value with
    | .plain => some (value, rest)
    | _ => none
  | [] => none

/-- How reading goes on behind an argument. -/
inductive Step where
  /-- With what has been given, and with the arguments left. -/
  | on (given : Given) (left : List String)
  /-- It ends: a text about the program is asked for. -/
  | information

/-- Reads letters of options. A value stands behind its letter, with or without an equals sign, or
in the next argument. -/
def readLetters (level : Level) (given : Given) (left : List String) : List Char → Option Step
  | [] => some (.on given left)
  | letter :: rest => do
    let option ← Switch.all.find? fun option =>
      option.letter? = some letter && option.standsAt level
    if option = .help ∨ option = .version then some .information
    else if option.takesValue then
      match rest with
      | [] => do
        let (value, left) ← nextValue left
        some (.on (← given.set option value) left)
      | '=' :: value | value => do some (.on (← given.set option (String.ofList value)) left)
    else readLetters level (← given.set option "") left rest

def readLong (level : Level) (given : Given) (left : List String) (name : List Char)
    (value : Option (List Char)) : Option Step := do
  let option ← Switch.all.find? fun option =>
    option.long.toList = name && option.standsAt level
  match option.takesValue, value with
  | true, some value => do some (.on (← given.set option (String.ofList value)) left)
  | true, none => do
    let (value, left) ← nextValue left
    some (.on (← given.set option value) left)
  | false, some _ => none
  | false, none =>
    if option = .help ∨ option = .version then some .information
    else do some (.on (← given.set option "") left)

def commandNames : List String := ["export_hw", "export-hw"]

/-- Reads at most so many of the arguments behind the command. -/
def readBehind (front given : Given) : (most : Nat) → List String → Option Demand
  | 0, _ => none
  | _, [] => some (.exporting (front.request given))
  | most + 1, argument :: rest =>
    let step : Option Step := match Argument.ofText argument with
      | .separator => do
        let given ← rest.foldlM Given.setDirectory given
        some (.on given [])
      | .long name value => readLong .behind given rest name value
      | .letters letters => readLetters .behind given rest letters
      | .plain => do some (.on (← given.setDirectory argument) rest)
    match step with
    | none => none
    | some .information => some .information
    | some (.on given left) => readBehind front given most left

/-- Reads at most so many of the arguments in front of the command. -/
def readFront (given : Given) : (most : Nat) → List String → Option Demand
  | 0, _ => none
  | _, [] => none
  | most + 1, argument :: rest =>
    match Argument.ofText argument with
    | .plain =>
      if argument ∈ commandNames then readBehind given {} (rest.length + 1) rest
      else if argument = "help" ∧ rest.all (fun word => word ∈ "help" :: commandNames) ∧
          rest.length ≤ 1 then some .information
      else none
    | .separator => none
    | .long name value =>
      match readLong .front given rest name value with
      | none => none
      | some .information => some .information
      | some (.on given left) => readFront given most left
    | .letters letters =>
      match readLetters .front given rest letters with
      | none => none
      | some .information => some .information
      | some (.on given left) => readFront given most left

/-- What the arguments ask for, unless they cannot be read. -/
def read (arguments : List String) : Option Demand :=
  readFront {} (arguments.length + 1) arguments

end KernelExport.CommandLine
