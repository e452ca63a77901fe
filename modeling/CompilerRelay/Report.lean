import CompilerRelay.Editor.Diagnostic
import CompilerRelay.Outcome

/-!
Reports: what a compiler answers to a job about the project or a document.

A report lists files with their findings.  A null answer is the empty report,
and one malformed finding makes the whole report unreadable.
-/

namespace CompilerRelay

/-- A remark of the compiler, before it carries the label of its source.  The
label belongs to the settings with which the compiler was launched, and not to
the report. -/
structure Finding where
  range : Range
  message : String
  severity : Severity
  deriving DecidableEq, Repr

namespace Finding

def form : Form Finding :=
  (Form.pure mk).and (Form.required "range" Range.decode)
    |>.and (Form.required "message" Decoder.string)
    |>.and (Form.trailing "severity" Severity.decode .error)

def decode : Decoder Finding :=
  form.decode "struct CompilerDiagnostic"

def toDiagnostic (source : String) (finding : Finding) : Diagnostic where
  range := finding.range
  severity := finding.severity
  source := source
  message := finding.message

end Finding

/-- The findings in one file. -/
structure FileReport where
  uri : Uri
  findings : List Finding
  deriving DecidableEq, Repr

namespace FileReport

def form : Form FileReport :=
  (Form.pure mk).and (Form.required "uri" Uri.decode)
    |>.and (Form.trailing "diagnostics" (Decoder.list Finding.decode) [])

def decode : Decoder FileReport :=
  form.decode "struct FileDiagnostics"

end FileReport

/-- The files a compiler reports on, in its order.  A file may be listed more
than once; the entries are then published one after the other, and the last one
stays. -/
structure Report where
  files : List FileReport
  deriving DecidableEq, Repr

namespace Report

def form : Form Report :=
  (Form.pure mk).and (Form.trailing "files" (Decoder.list FileReport.decode) [])

def decode : Decoder Report :=
  form.decode "struct CompileReport"

def ofAnswer (answer : Json) : Except JobError Report :=
  if answer.isNull then .ok ⟨[]⟩
  else (decode answer).mapError fun complaint => .garbled complaint.message

/-- The diagnostics of each file, labelled with their source. -/
def diagnostics (source : String) (report : Report) : List (Uri × List Diagnostic) :=
  report.files.map fun file => (file.uri, file.findings.map (Finding.toDiagnostic source))

end Report
end CompilerRelay
