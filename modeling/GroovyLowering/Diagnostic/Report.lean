import GroovyLowering.Diagnostic.Context

/-!
# Reports

A report of an error is a summary line, and on request the source region it is about: the plain
context, or a drawing.

A `Drawing` says what is to be drawn: the message, the region in the source and a label on it.  How
that looks is not settled here.  So every definition takes the drawer as an argument, a function
from a drawing to its text that may fail to write one.  Where it fails the message of the error
stands for the drawing, so a rendered error shows its message as long as what is drawn does
(`message_infix_rendered`).
-/

namespace GroovyLowering.Diagnostic

/-- How much a report shows. -/
inductive Verbosity where
  /-- The summary line. -/
  | summary
  /-- The source region as well. -/
  | context
deriving DecidableEq, Repr

/-- How an error is reported. -/
structure ReportOptions where
  /-- How much is shown. -/
  verbosity : Verbosity := .summary
  /-- Whether the source region is drawn. -/
  graphics : Bool := false
  /-- Whether a drawing is colored. -/
  color : Bool := false
deriving DecidableEq, Repr

/-! ## Drawings -/

/-- What is to be drawn: an error in a source, with a label on the region it is about. -/
structure Drawing where
  /-- The message of the error. -/
  message : String
  /-- The name of the source. -/
  sourceName : String
  /-- The source. -/
  source : String
  /-- The offsets at which the region starts and ends, in characters. -/
  range : Nat × Nat
  /-- The text of the label. -/
  label : String
  /-- Whether colors are used. -/
  color : Bool
deriving DecidableEq, Repr

/-- What makes the text of a drawing, or none where it cannot be written. -/
abbrev Drawer := Drawing → Option String

/-- What is drawn of an error. -/
def drawing (record : ErrorRecord) (source sourceName : String) (color : Bool) : Drawing :=
  { message := record.message, sourceName, source, range := charRange source record.span,
    label := "lowering stopped here", color }

section

variable (draw : Drawer) (record : ErrorRecord) (source sourceName : String) (color : Bool)

/-- The text of a drawn error.  The message stands for a drawing that cannot be written. -/
def rendered : String := (draw (drawing record source sourceName color)).getD record.message

/-- That what is drawn shows the message. -/
def Drawer.ShowsMessage : Prop :=
  ∀ d text, draw d = some text → d.message.toList <:+: text.toList

variable {draw} in
/-- A rendered error shows its message, drawn or not. -/
theorem message_infix_rendered (hdraw : draw.ShowsMessage) :
    record.message.toList <:+: (rendered draw record source sourceName color).toList := by
  rw [rendered]
  cases htext : draw (drawing record source sourceName color) with
  | none => exact List.infix_refl _
  | some text => exact hdraw _ text htext

/-! ## Whole reports -/

/-- The summary line of a report. -/
def summary : String :=
  "Syntax error @ " ++ toString record.span.startLine ++ "/" ++ toString record.span.startCol ++
    ": " ++ record.message

/-- The source region of a report. -/
def region (options : ReportOptions) : List String :=
  if options.graphics then Text.lines (rendered draw record source sourceName options.color)
  else plainContext record source

/-- The lines of a report.  Without a source there is only the summary. -/
def report (source : Option String) (options : ReportOptions) : List String :=
  match options.verbosity, source with
  | .context, some source => summary record :: region draw record source sourceName options
  | _, _ => [summary record]

end

end GroovyLowering.Diagnostic
