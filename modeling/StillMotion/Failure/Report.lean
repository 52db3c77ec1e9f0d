import StillMotion.Data.Record
import StillMotion.Failure.Fault

/-!
# Reports of faults

A fault as data: its kind and its message, and what else belongs to a fault of its kind.  Where
the wording of a message is not fixed, the report has none.  Data that does not fit a record is
refused with all of its issues, under the title of the record.
-/

namespace StillMotion

def Step.report : Step → Value
  | .key name => .str name
  | .index position => .int position
  | .number n => .int n

def Issue.report (issue : Issue) : Value :=
  .mapping ([("loc", .list (issue.place.map Step.report)), ("type", .str issue.kind.name)] ++
    match issue.kind with
    | .rejected reason => [("msg", .str ("Value error, " ++ reason))]
    | _ => [])

def Issue.reports (issues : List Issue) : Value := .list (issues.map Issue.report)

def RenderOutcome.report (outcome : RenderOutcome) : Entries :=
  [("status", .str outcome.status), ("ok", .bool outcome.isOk),
   ("output_path", .str outcome.outputPath), ("returncode", Value.ofOption .int outcome.returnCode),
   ("message", .str outcome.message), ("log_tail", Value.strings outcome.logTail)]

namespace Fault

def hasWording : Fault → Bool
  | .invalid _ _ | .document | .encoding _ | .tooDeep => false
  | _ => true

def details : Fault → Entries
  | .invalid title issues => [("model", .str title), ("errors", Issue.reports issues)]
  | .config _ path issues =>
      ("path", Value.ofOption .str path) ::
        (issues.map fun issues => ("errors", Issue.reports issues)).toList
  | .gate stage errors => [("stage", .str stage), ("errors", Value.strings errors)]
  | .render outcome => [("outcome", .mapping outcome.report)]
  | .pipeline _ category requestId stage =>
      [("category", .str category.word), ("request_id", .str requestId),
       ("stage", Value.ofOption .str stage)]
  | _ => []

def report (fault : Fault) : Value :=
  .mapping ([("error", .str fault.kind)] ++
    (if fault.hasWording then [("message", .str fault.message)] else []) ++ fault.details)

end Fault

/-! ## Refused data -/

def Codec.read {α : Type} (c : Codec α) (data : Value) : Except Fault α :=
  match c.decode data with
  | .ok a => .ok a
  | .error issues => .error (.invalid c.title issues)

end StillMotion
