import EnvAudit.Config.Basic
import EnvAudit.Document.Decode
import EnvAudit.Failure
import EnvAudit.Json.Writer
import EnvAudit.Report.Junit
import EnvAudit.Report.Text
import EnvAudit.Verdict.Document

namespace EnvAudit.Report

structure Options where
  format : ReportFormat := .text
  output : Option String := none
  verbose : Bool := false
  colour : Bool := true
  indent : Int := 2
  deriving Repr, Inhabited

open Document (Field asText asFlag asWhole asRecord asOptional asOneOf optionalField) in
def Options.decode : Document → Checked Options :=
  asRecord fun entries =>
    Options.mk <$> optionalField (asOneOf .wordUnknown ReportFormat.ofWord?) (.plain "format") .text entries
      <*> optionalField (asOptional asPath) (.plain "output_path") none entries
      <*> optionalField asFlag (.plain "verbose") false entries
      <*> optionalField asFlag (.plain "color") true entries
      <*> optionalField asWhole (.plain "indent") 2 entries
where
  /-- Reads a path. -/
  asPath : Document → Checked String
    | .text s => .ok s
    | _ => .misfit .pathExpected

def jsonLayout (indent : Int) : Json.Layout :=
  { indent := if indent == 0 then none else some indent.toNat, ascii := false }

def document (v : Verdict) (time : String) : Json :=
  .obj (v.toMembers (some (.float v.summary.elapsed)) ++ [("timestamp", .str time)])

def json (v : Verdict) (indent : Int) (time : String) : Except Failure String :=
  match Json.write? (jsonLayout indent) (document v time) with
  | .ok report => .ok report
  | .error message => .error (.badValue message)

def render [Markup.Dialect] (v : Verdict) (format : ReportFormat) (options : Options) (time : String) :
    Except Failure String :=
  match format with
  | .text =>
    match text v options.colour with
    | .ok report => .ok report
    | .error fault => .error (.markup fault.message)
  | .json => json v options.indent time
  | .junit => .ok (junit v options.indent)

def unknownFormat [Host] (d : Document) : Failure :=
  match d.spell 0 with
  | .ok shown =>
    .badValue ("Unsupported output format: " ++ shown ++ " (choose from " ++
      ", ".intercalate (ReportFormat.all.map (·.word)) ++ ")")
  | .error hidden => .ofHidden hidden

def format? [Host] (d : Document) : Except Failure ReportFormat :=
  match d with
  | .text word => (ReportFormat.ofWord? word).elim (.error (unknownFormat d)) .ok
  | _ => .error (unknownFormat d)

def save (w : Workspace) (report : String) (output : Option String) : Except Failure Workspace :=
  match output with
  | none => .error (.badValue "render_to_file needs a context with output_path set")
  | some path =>
    match w.save (Location.ofString path) report with
    | .ok w => .ok w
    | .error error => .error (.path error)

end EnvAudit.Report
