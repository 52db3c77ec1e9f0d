import StillMotion.Failure.Fault

/-!
# Faults of templates

Why a template cannot be read or filled in.  A fault of a file that a template includes is passed
on as it is.
-/

namespace StillMotion.Instruction

open StillMotion.Text

inductive TemplateFault where
  /-- Something without a value is used. -/
  | undefined (reason : String)
  /-- A template that another one refers to is not there. -/
  | notFound
  | malformed (message : String)
  /-- A filter or test that is not known where a template is read. -/
  | unknown (sort name : String)
  /-- A filter or test that is not known where a template is filled in. -/
  | unavailable (sort name : String)
  /-- A rule for whole templates is broken. -/
  | assertion (message : String)
  | refused (message : String)
  | unsuitable (message : String)
  | misfit (cause : Misfit)
  | tooDeep
  | other (fault : Fault)
deriving Repr

namespace TemplateFault

/-- The fault of a template as one of the library; `name` and `directory` tell which one. -/
def toFault (name directory : String) : TemplateFault → Fault
  | .undefined reason => .instruction s!"Undefined variable in template '{name}': {reason}"
  | .notFound => .instruction s!"Template '{name}' not found in {directory}"
  | .malformed message => .external "TemplateSyntaxError" (some message)
  | .unknown sort word =>
      .external "TemplateAssertionError" (some s!"No {sort} named {quoted word}.")
  | .unavailable sort word =>
      .external "TemplateRuntimeError" (some s!"No {sort} named {quoted word} found.")
  | .assertion message => .external "TemplateAssertionError" (some message)
  | .refused message => .external "TemplateRuntimeError" (some message)
  | .unsuitable message => .external "FilterArgumentError" (some message)
  | .misfit cause => .misfit cause
  | .tooDeep => .tooDeep
  | .other fault => fault

end TemplateFault

end StillMotion.Instruction
