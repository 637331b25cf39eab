/-
This file reads the port declaration of a kernel from its source.

A declaration is the word `A3_KERNEL` with an argument list in parentheses:

    A3_KERNEL(a3in_t a, a3in_t b, a3reg_t size, a3out_t c)

It stands in code, exactly once; comments and literals are blanked before it is looked for. Each
argument is a role tag and an identifier, and no identifier occurs twice. Line breaks inside an
argument are dropped and its other blanks are squeezed, so a line break alone does not hold a tag
and a name apart.

Whatever is wrong is reported with the byte offset in the source at which it shows. Of several
faults the first is reported, in the order of `Declaration.read`: the number of declarations, the
parentheses, an empty list, and then the arguments from left to right.
-/

import KernelExport.Interface.Blanking
import KernelExport.Interface.Port

namespace KernelExport

/-! ### Faults -/

/-- What is wrong with the port declaration of a kernel. -/
inductive DeclarationError where
  /-- There is none. -/
  | notFound
  /-- There are several; the offset is that of the second. -/
  | repeated (count offset : Nat)
  /-- The argument list that opens at the offset is not closed. -/
  | unterminated (offset : Nat)
  /-- A parenthesis opens inside the argument list. -/
  | nestedParenthesis (offset : Nat)
  /-- The argument list that opens at the offset is empty. -/
  | noPorts (offset : Nat)
  /-- The argument is not a tag and a name. -/
  | malformedArgument (argument : String) (offset : Nat)
  /-- The tag of the argument names no role. -/
  | unknownRole (tag : String) (offset : Nat)
  /-- The name in the argument is no identifier. -/
  | invalidName (name : String) (offset : Nat)
  /-- The name in the argument is that of an earlier port. -/
  | repeatedPort (name : String) (offset : Nat)
  deriving DecidableEq, Repr

namespace DeclarationError

def message : DeclarationError → String
  | .notFound => "A3_KERNEL port declaration not found"
  | .repeated count _ =>
    "A3_KERNEL declared " ++ toString count ++ " times, expected exactly once"
  | .unterminated _ => "unterminated A3_KERNEL argument list"
  | .nestedParenthesis _ => "nested parenthesis in A3_KERNEL argument list"
  | .noPorts _ => "A3_KERNEL declares no ports"
  | .malformedArgument argument _ =>
    "malformed port argument `" ++ argument ++ "`, expected `<role tag> <identifier>`"
  | .unknownRole tag _ => "unknown port role tag `" ++ tag ++ "`"
  | .invalidName name _ => "invalid port identifier `" ++ name ++ "`"
  | .repeatedPort name _ => "port `" ++ name ++ "` declared more than once"

/-- The byte offset in the source that a fault points at. -/
def offset? : DeclarationError → Option Nat
  | .notFound => none
  | .repeated _ offset | .unterminated offset | .nestedParenthesis offset | .noPorts offset
  | .malformedArgument _ offset | .unknownRole _ offset | .invalidName _ offset
  | .repeatedPort _ offset => some offset

end DeclarationError

/-- The port declaration of a kernel. -/
structure Declaration where
  /-- The arguments, with their blanks squeezed. -/
  arguments : List String
  /-- The ports, one for each argument. -/
  ports : List Port
  /-- The byte offset of the declaring word in the source. -/
  offset : Nat
  deriving DecidableEq, Repr

namespace Declaration

/-! ### Sites -/

/-- The word that declares ports. -/
def keyword : List Char := ['A', '3', '_', 'K', 'E', 'R', 'N', 'E', 'L']

/-- An occurrence of the declaring word with a parenthesis behind it. -/
structure Site where
  /-- The byte offset of the word. -/
  offset : Nat
  /-- The byte offset of the parenthesis. -/
  opening : Nat
  /-- The text behind the parenthesis. -/
  rest : List Char
  deriving DecidableEq, Repr

/-- The site at the front of a text that stands at a byte offset, behind the character `before`.
The word has to stand on its own, and only blanks may come between it and the parenthesis. -/
def siteAt (offset : Nat) (before : Option Char) (text : List Char) : Option Site :=
  if keyword.isPrefixOf text && !before.any Text.continuesIdentifier then
    let behind := text.drop keyword.length
    match Text.trimStart behind with
    | '(' :: rest =>
      some ⟨offset, offset + Text.byteSize keyword + Text.byteSize (behind.takeWhile Text.isBlank),
        rest⟩
    | _ => none
  else none

/-- The sites in a text that stands at a byte offset, behind the character `before`. -/
def sitesFrom (offset : Nat) (before : Option Char) : List Char → List Site
  | [] => []
  | character :: rest =>
    (siteAt offset before (character :: rest)).toList ++
      sitesFrom (offset + character.utf8Size) (some character) rest

/-- The sites in the code of a source, from left to right. -/
def sites (code : List Char) : List Site :=
  sitesFrom 0 none code

def onlySite (code : List Char) : Except DeclarationError Site :=
  match sites code with
  | [] => .error .notFound
  | [site] => .ok site
  | first :: second :: others =>
    .error (.repeated (first :: second :: others).length second.offset)

/-! ### The argument list -/

def body (site : Site) : Except DeclarationError (List Char) :=
  if ')' ∈ site.rest then
    let body := site.rest.takeWhile (· ≠ ')')
    if '(' ∈ body then
      .error (.nestedParenthesis (site.opening + 1 + Text.byteSize (body.takeWhile (· ≠ '('))))
    else if body.all Text.isBlank then .error (.noPorts site.opening)
    else .ok body
  else .error (.unterminated site.opening)

/-- Writes each run of blanks as one space, unless it is one blank, which is kept. `run` is what
a run that has been read up to here is written as. -/
def squeezeAfter (run : Option Char) : List Char → List Char
  | [] => run.toList
  | character :: rest =>
    if Text.isBlank character then
      squeezeAfter (some (if run.isSome then ' ' else character)) rest
    else run.toList ++ character :: squeezeAfter none rest

/-- An argument without line breaks, with its runs of blanks squeezed and none around it. -/
def normalize (argument : List Char) : List Char :=
  Text.trim (squeezeAfter none (argument.filter fun character =>
    character ≠ '\n' ∧ character ≠ '\r'))

def readPort (argument : List Char) (offset : Nat) : Except DeclarationError Port :=
  match Text.words argument with
  | [tag, name] =>
    match Role.ofTag? (String.ofList tag) with
    | none => .error (.unknownRole (String.ofList tag) offset)
    | some role =>
      if Text.isIdentifier name then .ok ⟨role, String.ofList name, offset⟩
      else .error (.invalidName (String.ofList name) offset)
  | _ => .error (.malformedArgument (String.ofList argument) offset)

/-- The arguments and their ports, when the first argument starts at a byte offset and the names
`taken` are those of earlier ports. -/
def readArguments (offset : Nat) (taken : List String) :
    List (List Char) → Except DeclarationError (List (String × Port))
  | [] => .ok []
  | argument :: others => do
    let place := offset + Text.byteSize (argument.takeWhile Text.isBlank)
    let normalized := normalize argument
    let port ← readPort normalized place
    if port.name ∈ taken then throw (.repeatedPort port.name place)
    let rest ← readArguments (offset + Text.byteSize argument + 1) (port.name :: taken) others
    pure ((String.ofList normalized, port) :: rest)

def read (source : String) : Except DeclarationError Declaration := do
  let site ← onlySite (SourceText.blank source.toList)
  let read ← readArguments (site.opening + 1) [] (Text.split ',' (← body site))
  pure ⟨read.map Prod.fst, read.map Prod.snd, site.offset⟩

/-! ### Views -/

/-- The roles and names of the ports, in the order of their declaration. -/
def tokens (declaration : Declaration) : List (Role × String) :=
  declaration.ports.map fun port => (port.role, port.name)

/-- The names of the ports, in the order of their declaration, with commas between them. -/
def names (declaration : Declaration) : String :=
  ", ".intercalate (declaration.ports.map Port.name)

end Declaration

end KernelExport
