import StillMotion.Data.Issue
import StillMotion.Data.Misfit
import StillMotion.Failure.Category
import StillMotion.Number.Scalar
import StillMotion.Render.Outcome
import StillMotion.Text.Quoted

/-!
# Faults

Everything that can go wrong, by cause.  A fault has a kind, under which it is reported, and a
message; the wording is in `Fault.kind` and `Fault.message` alone.
-/

namespace StillMotion

open StillMotion.Number StillMotion.Text

inductive FileCause where
  | notFound
  | permission
  | fileExists
  | notDirectory
  | isDirectory
  | nameTooLong
deriving DecidableEq, Repr

namespace FileCause

def code : FileCause → Nat
  | .notFound => 2
  | .permission => 13
  | .fileExists => 17
  | .notDirectory => 20
  | .isDirectory => 21
  | .nameTooLong => 36

def words : FileCause → String
  | .notFound => "No such file or directory"
  | .permission => "Permission denied"
  | .fileExists => "File exists"
  | .notDirectory => "Not a directory"
  | .isDirectory => "Is a directory"
  | .nameTooLong => "File name too long"

def kind : FileCause → String
  | .notFound => "FileNotFoundError"
  | .permission => "PermissionError"
  | .fileExists => "FileExistsError"
  | .notDirectory => "NotADirectoryError"
  | .isDirectory => "IsADirectoryError"
  | .nameTooLong => "OSError"

end FileCause

inductive EncodingCause where
  | invalidStart
  | invalidContinuation
  | unexpectedEnd
deriving DecidableEq, Repr

def EncodingCause.words : EncodingCause → String
  | .invalidStart => "invalid start byte"
  | .invalidContinuation => "invalid continuation byte"
  | .unexpectedEnd => "unexpected end of data"

structure EncodingFault where
  cause : EncodingCause
  byte : UInt8
  first : Nat
  last : Nat
deriving DecidableEq, Repr

def EncodingFault.message (fault : EncodingFault) : String :=
  if fault.first == fault.last then
    "'utf-8' codec can't decode byte 0x" ++ String.ofList (hexDigits 2 fault.byte.toNat) ++
      s!" in position {fault.first}: {fault.cause.words}"
  else
    "'utf-8' codec can't decode bytes in position " ++
      s!"{fault.first}-{fault.last}: {fault.cause.words}"

inductive Fault where
  | arithmetic (cause : ArithmeticFault)
  /-- An integer of more digits than are converted. -/
  | numeralTooLong (digits : Nat)
  | index
  /-- An operation on values that it does not apply to. -/
  | misfit (cause : Misfit)
  | invalid (title : String) (issues : List Issue)
  | file (cause : FileCause) (path : String)
  /-- A path that holds the character of code zero. -/
  | nullInPath
  | encoding (cause : EncodingFault)
  | rootNotMapping (path : String)
  /-- A document that cannot be parsed. -/
  | document
  /-- Data nested too deeply. -/
  | tooDeep
  /-- A fault of the configuration, which may concern a file and the issues with it. -/
  | config (detail : String) (path : Option String) (issues : Option (List Issue))
  /-- An answer of an analysis backend that cannot be used. -/
  | analysis (detail : String)
  /-- An instruction template that cannot be resolved. -/
  | instruction (detail : String)
  /-- Input that a stage refuses; trying again would not help. -/
  | gate (stage : String) (errors : List String)
  | render (outcome : RenderOutcome)
  | launcherMissing (binary : String)
  | pipeline (text : String) (category : ErrorCategory) (requestId : String)
      (stage : Option String)
  /-- A failure of a collaborator outside the library, under its own kind. -/
  | external (kind : String) (text : Option String)
deriving Repr

def ArithmeticFault.kind : ArithmeticFault → String
  | .divisionByZero => "ZeroDivisionError"
  | .nanToInteger | .integerTooWide => "ValueError"
  | .infinityToInteger | .integerTooLarge | .powerTooLarge | .quotientTooLarge => "OverflowError"

def ArithmeticFault.message : ArithmeticFault → String
  | .divisionByZero => "division by zero"
  | .infinityToInteger => "cannot convert float infinity to integer"
  | .nanToInteger => "cannot convert float NaN to integer"
  | .integerTooLarge => "int too large to convert to float"
  | .powerTooLarge => "(34, 'Numerical result out of range')"
  | .quotientTooLarge => "integer division result too large for a float"
  | .integerTooWide =>
      "Exceeds the limit (4300 digits) for integer string conversion; " ++
        "use sys.set_int_max_str_digits() to increase the limit"

namespace Fault

def kind : Fault → String
  | .arithmetic cause => ArithmeticFault.kind cause
  | .numeralTooLong _ => "ValueError"
  | .index => "IndexError"
  | .misfit cause => cause.kind
  | .invalid _ _ => "ValidationError"
  | .file cause _ => cause.kind
  | .nullInPath => "ValueError"
  | .encoding _ => "UnicodeDecodeError"
  | .rootNotMapping _ => "ValueError"
  | .document => "YAMLError"
  | .tooDeep => "RecursionError"
  | .config _ _ _ => "ConfigError"
  | .analysis _ => "AnalysisError"
  | .instruction _ => "PromptResolutionError"
  | .gate _ _ => "ValidationGateError"
  | .render _ => "RenderError"
  | .launcherMissing _ => "RendererNotFoundError"
  | .pipeline _ _ _ _ => "PipelineError"
  | .external kind _ => kind

def issueCount (title : String) (count : Nat) : String :=
  if count == 1 then s!"1 validation error for {title}"
  else s!"{count} validation errors for {title}"

def message : Fault → String
  | .arithmetic cause => ArithmeticFault.message cause
  | .numeralTooLong digits =>
      "Exceeds the limit (4300 digits) for integer string conversion: " ++
        s!"value has {digits} digits; use sys.set_int_max_str_digits() to increase the limit"
  | .index => "list index out of range"
  | .misfit cause => cause.message
  | .invalid title issues => issueCount title issues.length
  | .file cause path => s!"[Errno {cause.code}] {cause.words}: {quoted path}"
  | .nullInPath => "embedded null byte"
  | .encoding cause => cause.message
  | .rootNotMapping path => s!"Document root must be a mapping: {path}"
  | .document => "document cannot be parsed"
  | .tooDeep => "maximum recursion depth exceeded"
  | .config detail none _ => detail
  | .config detail (some path) _ => s!"{path}: {detail}"
  | .analysis detail => detail
  | .instruction detail => detail
  | .gate stage errors => s!"{stage} validation failed: " ++ "; ".intercalate errors
  | .render outcome => outcome.description
  | .launcherMissing binary => s!"Renderer launcher '{binary}' not found on PATH"
  | .pipeline text _ _ _ => text
  | .external _ text => text.getD ""

def telling (fault : Fault) : String :=
  if fault.message.isEmpty then fault.kind else fault.message

def wrap (fault : Fault) (stage requestId : String) (attempts : Nat) : Fault :=
  let category := ErrorCategory.ofFailure fault.telling (some stage)
  let tries := if attempts == 1 then "attempt" else "attempts"
  .pipeline s!"{stage} stage failed after {attempts} {tries}: {fault.telling}. {category.hint}"
    category requestId (some stage)

end Fault

end StillMotion
