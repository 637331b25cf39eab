/-
This file runs small scripts, for the outer layer, in which tools are processes.

It stands for the shells of the system. What is proved about exports holds for every way to run
tools, and nothing of it rests on this file. So it knows no more of the language than it takes to
try out the scripts that set up a tool: commands one after another, of words in which variables
are replaced by their values, with output that may be sent to a file.
-/

import KernelExport.FileSystem.Action
import KernelExport.Text.Scan

namespace KernelExport

/-- Variables and their values. What comes first counts. -/
abbrev Environment : Type := List (String × String)

/-- A program that can be run: with an environment and arguments it changes the file system and
answers its status, or none if a signal ends it. -/
abbrev Program : Type := Environment → List String → StateM FileSystem (Option Nat)

abbrev Programs : Type := String → Option Program

namespace Shell

open Text (Scan)

/-! ### Reading scripts -/

/-- A part of a word: characters that stand for themselves, or the value of a variable. -/
inductive Part where
  | literal (text : String)
  | variable (name : String)
  deriving DecidableEq, Repr

/-- A command: the parts of its words, and of the name of the file that its output is sent to. -/
structure SimpleCommand where
  words : List (List Part)
  target : Option (List Part)
  deriving DecidableEq, Repr

def endsWord (character : Char) : Bool :=
  character ∈ [' ', '\t', '\n', ';', '&', '|', '<', '>', '(', ')', '\x22', '\x27', '\\', '$']

def expansion : Scan Part := do
  Scan.char '$'
  let name ← (do
    let first ← Scan.satisfy Text.startsIdentifier
    return first :: (← Scan.takeWhile Text.continuesIdentifier)) <|> do
    let special ← Scan.satisfy fun character => character.isDigit || character ∈ ['#', '?', '$']
    pure [special]
  pure (.variable (String.ofList name))

/-- Reads characters up to the first that fails the test, one of them at least. -/
def literal (test : Char → Bool) : Scan Part := do
  let first ← Scan.satisfy test
  return .literal (String.ofList (first :: (← Scan.takeWhile test)))

def parts : Scan (List Part) :=
  (do
    Scan.char '\x22'
    let inner ← Scan.many (expansion <|> literal (· ∉ ['\x22', '\\', '$']))
    Scan.char '\x22'
    pure inner) <|>
  (do
    Scan.char '\x27'
    let inner ← Scan.takeWhile (· != '\x27')
    Scan.char '\x27'
    pure [.literal (String.ofList inner)]) <|> do
  return [← expansion <|> literal fun character => !endsWord character]

def blanks : Scan Unit := do
  discard (Scan.takeWhile fun character => character == ' ' || character == '\t')

def word : Scan (List Part) := do
  let first ← parts
  let rest ← Scan.many parts
  blanks
  pure (first ++ rest.flatten)

/-- Reads a command, or a line that says something to the reader of the script alone. -/
def command : Scan SimpleCommand := do
  blanks
  discard (Scan.optional do
    Scan.char '#'
    Scan.takeWhile (· != '\n'))
  let words ← Scan.many word
  let target ← Scan.optional do
    Scan.char '>'
    blanks
    word
  pure ⟨words, target⟩

def script : Scan (List SimpleCommand) :=
  Scan.separated command (Scan.char ';' <|> Scan.char '\n')

/-! ### Running scripts -/

/-- What a script runs in. -/
structure Context where
  environment : Environment
  arguments : List String
  /-- The status of the last command. -/
  status : Nat := 0

/-- How a script goes on behind a command. -/
inductive Flow where
  /-- With the next command. -/
  | next
  /-- It returns to what runs it. -/
  | returned
  /-- Its process ends. -/
  | exited
  /-- Its process is ended by a signal. -/
  | killed
  deriving DecidableEq, Repr

namespace Context

def value (context : Context) (name : String) : String :=
  match name, name.toNat? with
  | "#", _ => toString context.arguments.length
  | "?", _ => toString context.status
  | _, some index => context.arguments[index - 1]?.getD ""
  | _, none => (context.environment.lookup name).getD ""

def expand (context : Context) (word : List Part) : String :=
  String.join (word.map fun
    | .literal text => text
    | .variable name => context.value name)

/-- The context in which an argument of the form `name=value` is a variable. -/
def exporting (context : Context) (argument : String) : Context :=
  match Text.split '=' argument.toList with
  | name :: value@(_ :: _) =>
    let binding := (String.ofList name, String.ofList (['='].intercalate value))
    { context with environment := binding :: context.environment }
  | _ => context

end Context

/-- The status that a command is given, or else the one of the command before it. -/
def statusOf (context : Context) (arguments : List String) : Nat :=
  match arguments with
  | argument :: _ => argument.toNat?.getD 2 % 256
  | [] => context.status

/-- Performs a command, given as its words: its output, the context behind it, and how the script
goes on. A program that a signal ends leaves the status of the kill signal. -/
def perform (programs : Programs) (context : Context) :
    List String → StateM FileSystem (String × Context × Flow)
  | [] => pure ("", context, .next)
  | "exit" :: rest => pure ("", { context with status := statusOf context rest }, .exited)
  | "return" :: rest => pure ("", { context with status := statusOf context rest }, .returned)
  | "kill" :: _ => pure ("", context, .killed)
  | "echo" :: rest => pure (" ".intercalate rest ++ "\n", { context with status := 0 }, .next)
  | "export" :: rest => pure ("", { rest.foldl Context.exporting context with status := 0 }, .next)
  | name :: arguments => do
    let status ← match programs name with
      | none => pure 127
      | some run => do pure ((← run context.environment arguments).getD 137)
    pure ("", { context with status }, .next)

/-- Sends an output to a file. -/
def send (path : String) (output : String) : StateM FileSystem Bool := do
  return (← (FileAction.change (·.writeFile (.ofText path) output.toUTF8)).run).toBool

/-- Runs a command. Nothing is done if what it writes cannot be sent where it should go. -/
def runCommand (programs : Programs) (context : Context) (command : SimpleCommand) :
    StateM FileSystem (Context × Flow) := do
  let target := command.target.map context.expand
  let possible ← (target.mapM (send · ""))
  if possible = some false then pure ({ context with status := 1 }, .next)
  else
    let (output, after) ← perform programs context (command.words.map context.expand)
    discard (target.mapM (send · output))
    pure after

/-- Runs commands until one of them ends the script. -/
def run (programs : Programs) (context : Context) :
    List SimpleCommand → StateM FileSystem (Context × Flow)
  | [] => pure (context, .next)
  | command :: rest => do
    match ← runCommand programs context command with
    | (after, .next) => run programs after rest
    | ending => pure ending

/-- Runs the text of a script. One that cannot be read fails. -/
def runText (programs : Programs) (context : Context) (text : String) :
    StateM FileSystem (Context × Flow) :=
  match script.whole text.toList with
  | some commands => run programs context commands
  | none => pure ({ context with status := 2 }, .exited)

/-- The shell as a program, which runs the text behind `-c`. -/
def program (programs : Programs) : Program := fun environment arguments => do
  match arguments with
  | "-c" :: text :: rest =>
    let (after, flow) ← runText programs { environment, arguments := rest.tail } text
    pure (if flow = .killed then none else some after.status)
  | [] => pure (some 0)
  | _ => pure (some 2)

end Shell

end KernelExport
