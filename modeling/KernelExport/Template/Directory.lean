/-
This file renders template sets: directories of templates, into directories of files.

Names are templates as much as files are. A file that is text is rendered, any other is taken over
as it is, and a directory is rendered into a directory. A file called `_sources` stands for the
files of all source directories, which arrive in its place by copy or by link.

A file that is written takes the place of a symbolic link that stood there: what a link of an
earlier rendering leads to is never written to.
-/

import KernelExport.FileSystem.Tree
import KernelExport.Template.Dictionary

namespace KernelExport

/-- Steps of rendering, which may fail. What was done before a failure stays done. -/
abbrev TemplateAction (Result : Type) : Type := ExceptT TemplateError (StateM FileSystem) Result

namespace TemplateAction

open FileSystem FileAction

/-- The steps on files that concern a path. -/
def onFiles {Result : Type} (path : Path) (action : FileAction Result) : TemplateAction Result :=
  ExceptT.adapt (TemplateError.files path) action

/-- What a text of the template at a path means with a dictionary. -/
def meaning (dictionary : Dictionary) (path : Path) (text : String) : TemplateAction String :=
  match dictionary.render text with
  | .ok rendered => pure rendered
  | .error fault => throw (.ofFault path fault)

/-- The file that stands for the files of the source directories. -/
def sourcesMarker : String := "_sources"

/-- Writes a file. A link that stands in its place is taken away first. -/
def replaceFile (target : Path) (content : ByteArray) : TemplateAction Unit := do
  match (← get).standing target with
  | .ok (.link _) => onFiles target (change (·.removeFile target))
  | _ => pure ()
  onFiles target (change (·.writeFile target content))

def renderFile (dictionary : Dictionary) (template target : Path) : TemplateAction Unit := do
  let content ← onFiles template (ask (·.readFile template))
  let rendered ← match String.fromUTF8? content with
    | some text => String.toUTF8 <$> meaning dictionary template text
    | none => pure content
  replaceFile target rendered

/-- Renders a directory that is reached through so many more levels at most. -/
def renderWithin (dictionary : Dictionary) (transfer : Transfer) :
    (levels : Nat) → (template target : Path) → TemplateAction Unit
  | 0, template, _ => throw (.files template .nameTooLong)
  | levels + 1, template, target => do
    onFiles target (createDirectories target)
    (← onFiles template (ask (·.readDirectory template))).forM fun name => do
      if name = sourcesMarker then
        dictionary.sources.forM fun source => onFiles source (overlay transfer source target)
      else
        let inner := template.child name
        let output := target.join (.ofText (← meaning dictionary inner name))
        if (← get).isDirectory inner then renderWithin dictionary transfer levels inner output
        else renderFile dictionary inner output

/-- Renders a template set into a directory. Source files arrive by `transfer`. -/
def render (dictionary : Dictionary) (transfer : Transfer) (template target : Path) :
    TemplateAction Unit := do
  if (← get).isDirectory template then
    renderWithin dictionary transfer pathLimit template target
  else throw (.notFound template)

end TemplateAction

end KernelExport
