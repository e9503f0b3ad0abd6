import LintRun.Diagnostic
import LintRun.Nolint.Directive
import LintRun.Path

/-!
# Suppressing issues

The filter keeps the directives of every file it has been asked about, each with a mark that
tells whether it has suppressed anything.  A file is read once, the first time it matters, and
is judged by what was in it then.
-/

set_option autoImplicit false

namespace LintRun

/-- The components by which a source file is known. -/
abbrev SourceKey := List Path.Component

/-- A directive and whether it has suppressed an issue. -/
structure MarkedDirective where
  directive : Directive
  used : Bool := false
deriving DecidableEq

/-- The files that have been read, each with its directives, the first one read first. -/
structure NolintFilter where
  files : List (SourceKey × List MarkedDirective) := []

namespace NolintFilter

/-- Whether a file has been read. -/
def hasRead (f : NolintFilter) (key : SourceKey) : Bool :=
  f.files.any (·.1 == key)

/-- The directives of a file that has been read. -/
def directives? (f : NolintFilter) (key : SourceKey) : Option (List MarkedDirective) :=
  (f.files.find? (·.1 == key)).map (·.2)

/-- The directives of a source text, none of them used. -/
def markedDirectives (source : String) : List MarkedDirective :=
  (Directive.readAll source).map fun directive => { directive }

/-- Reads a file before any issue in it is met, unless it has been read or cannot be. -/
def preloadOne (read : SourceKey → Option String) (f : NolintFilter) (key : SourceKey) :
    NolintFilter :=
  if f.hasRead key then f
  else
    match read key with
    | some source => { files := f.files ++ [(key, markedDirectives source)] }
    | none => f

/-- Reads files before any issue in them is met. -/
def preload (read : SourceKey → Option String) (f : NolintFilter) (keys : List SourceKey) :
    NolintFilter :=
  keys.foldl (preloadOne read) f

/-- Reads a file that an issue is in, unless it has been read.  A file that cannot be read has
no directives from then on. -/
def consult (read : SourceKey → Option String) (f : NolintFilter) (key : SourceKey) :
    NolintFilter :=
  if f.hasRead key then f
  else { files := f.files ++ [(key, ((read key).map markedDirectives).getD [])] }

/-- Marks a directive as used if it suppresses an issue. -/
def mark (issue : Issue) (m : MarkedDirective) : MarkedDirective :=
  if m.directive.suppresses issue then { m with used := true } else m

/-- Decides about one issue: whether a directive of its file suppresses it, and what is known
of the files afterwards.  An issue without a line is never suppressed. -/
def judge (read : SourceKey → Option String) (f : NolintFilter) (issue : Issue) :
    Bool × NolintFilter :=
  if issue.line = 0 then (false, f)
  else
    let key := Path.sourceKey issue.path
    let f := f.consult read key
    let suppressed := ((f.directives? key).getD []).any (·.directive.suppresses issue)
    (suppressed,
      { files := f.files.map fun file =>
          if file.1 = key then (file.1, file.2.map (mark issue)) else file })

/-- The issues that no directive suppresses, and what is known of the files afterwards. -/
def apply (read : SourceKey → Option String) (f : NolintFilter) :
    List Issue → List Issue × NolintFilter
  | [] => ([], f)
  | issue :: rest =>
    let (suppressed, f) := f.judge read issue
    let (kept, f) := apply read f rest
    (if suppressed then kept else issue :: kept, f)

/-- The directives that have suppressed nothing, by path and then by line. -/
def unmatched (f : NolintFilter) : List Diagnostic :=
  let sorted := f.files.mergeSort fun a b => (Path.compareComponents a.1 b.1).isLE
  sorted.flatMap fun file =>
    (file.2.filter (!·.used)).map fun m =>
      Diagnostic.unmatchedNolint (Path.ofComponents file.1) m.directive.line

end NolintFilter

end LintRun
