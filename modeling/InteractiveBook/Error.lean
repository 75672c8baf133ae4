/-!
# Failures

Every way in which compiling a book can fail, and the one wording of each. The causes fall into
four groups: the source, the template, the package and the surrounding system.
-/

namespace InteractiveBook

/-- What makes a template unusable. -/
inductive TemplateFault where
  /-- There is no manifest entry. -/
  | missingManifest
  /-- The manifest is not readable as one, for the given reason. -/
  | malformedManifest (reason : String)
  /-- The manifest describes something else than an interactive book. -/
  | invalidTemplate (reason : String)
  /-- The archive cannot be opened, or its manifest cannot be read from it. -/
  | corruptTemplate (reason : String)
  deriving DecidableEq, Repr

/-- What makes a package fail on its way to bytes. -/
inductive PackageFault where
  /-- An entry of the template cannot be read. -/
  | archiveRead (reason : String)
  /-- The package cannot be written as an archive. -/
  | archiveWrite (reason : String)
  /-- The content document cannot be written as text. -/
  | serialize (reason : String)
  /-- Removing directory entries lost a file. -/
  | repairInvariant (reason : String)
  deriving DecidableEq, Repr

/-- Every way in which compiling a book can fail. -/
inductive BookError where
  /-- The source has neither a heading nor any content. -/
  | noChaptersFound
  /-- The template is unusable. -/
  | template (fault : TemplateFault)
  /-- The package could not be assembled. -/
  | package (fault : PackageFault)
  /-- The surrounding system failed. -/
  | io (reason : String)
  deriving DecidableEq, Repr

/-- The wording of a template fault. -/
def TemplateFault.message : TemplateFault → String
  | missingManifest => "Missing manifest: the template has no h5p.json"
  | malformedManifest reason => "Malformed manifest: " ++ reason
  | invalidTemplate reason => "Invalid template: " ++ reason
  | corruptTemplate reason => "Corrupt template archive: " ++ reason

/-- The wording of a package fault. -/
def PackageFault.message : PackageFault → String
  | archiveRead reason => "Failed to read archive: " ++ reason
  | archiveWrite reason => "Failed to write archive: " ++ reason
  | serialize reason => "Failed to serialize content: " ++ reason
  | repairInvariant reason => "Directory repair removed files: " ++ reason

/-- The wording of a source without chapters. -/
def noChaptersMessage : String :=
  "No chapters found: the document needs at least one '# ' heading or some content"

/-- The cause of a failure, one step below the group it belongs to. -/
def BookError.cause : BookError → String
  | noChaptersFound => noChaptersMessage
  | template fault => fault.message
  | package fault => fault.message
  | io reason => reason

/-- The group that a failure belongs to. -/
def BookError.group : BookError → String
  | noChaptersFound => "Parse error"
  | template _ => "Template error"
  | package _ => "Package error"
  | io _ => "IO error"

/-- The wording of a failure: its group, then its cause. -/
def BookError.message (e : BookError) : String := e.group ++ ": " ++ e.cause

end InteractiveBook
