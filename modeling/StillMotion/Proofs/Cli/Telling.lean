import StillMotion.Cli.Run
import StillMotion.Console.Terminal
import StillMotion.Proofs.Console.Markup
import StillMotion.Proofs.Files.Act

/-!
# Telling of faults

A session has an outcome, has printed something and leaves a workspace.  A command tells of some
faults in one line of markup and exits as misused; others leave it.  The
message is escaped, so the line is shown whatever the message says.  The name of a file is put in
as it is, so a line with one may be no markup.
-/

namespace StillMotion

/-! ## Running sessions -/

section Sessions

variable {ε α β : Type}

namespace Session

/-- The outcome of a session, what has been printed after it and the workspace that it leaves. -/
def on (session : Session ε α) (printed : List Printed) (w : Workspace ε) :
    (Except Leaving α × List Printed) × Workspace ε := (session.run.run printed).run w

variable {session : Session ε α} {next : α → Session ε β} {act : Act ε α}
  {printed printed' : List Printed} {w w' : Workspace ε} {a : α} {leaving : Leaving}

@[simp] theorem on_pure (a : α) (printed : List Printed) (w : Workspace ε) :
    (pure a : Session ε α).on printed w = ((.ok a, printed), w) := rfl

theorem on_bind (session : Session ε α) (next : α → Session ε β) (printed : List Printed)
    (w : Workspace ε) :
    (session >>= next).on printed w = match session.on printed w with
      | ((.ok a, printed'), w') => (next a).on printed' w'
      | ((.error leaving, printed'), w') => ((.error leaving, printed'), w') := by
  simp only [on, ExceptT.run_bind, StateT.run_bind]
  rcases StateT.run (StateT.run session.run printed) w with ⟨⟨_ | a, printed'⟩, w'⟩ <;> rfl

theorem on_bind_ok (h : session.on printed w = ((.ok a, printed'), w')) :
    (session >>= next).on printed w = (next a).on printed' w' := by
  rw [on_bind, h]

theorem on_bind_error (h : session.on printed w = ((.error leaving, printed'), w')) :
    (session >>= next).on printed w = ((.error leaving, printed'), w') := by
  rw [on_bind, h]

@[simp] theorem on_attempt (act : Act ε α) (printed : List Printed) (w : Workspace ε) :
    (attempt act).on printed w = ((.ok (act.on w).1, printed), (act.on w).2) := rfl

end Session

namespace Transcript

def ofOutcome (outcome : Except Leaving Unit) (printed : List Printed) : Transcript :=
  match outcome with
  | .ok () => ⟨0, none, printed.reverse⟩
  | .error (.exit code) => ⟨code, none, printed.reverse⟩
  | .error (.fault cause) => ⟨faultCode, some cause, printed.reverse⟩

end Transcript

end Sessions

variable {ε α : Type} {w : Workspace ε} {path : Path} {fault : Fault}

namespace Console

open StillMotion.Text

/-! ## The style of headings -/

end Console

namespace Cli

/-! ## Refusals -/

/-- A fault that ends a command, and what is said of it, if anything is. -/
structure Refusal where
  fault : Fault
  line? : Option String

namespace Refusal

def configLine (fault : Fault) : String :=
  heading "Config error:" ++ " " ++ Markup.escape fault.message

def ofConfig : Fault → Refusal
  | .config detail path issues =>
      ⟨.config detail path issues, some (configLine (.config detail path issues))⟩
  | fault => ⟨fault, none⟩

def session (refusal : Refusal) : Session ε α :=
  match refusal.line? with
  | some line => do
      Session.say line
      Session.exit misuse
  | none => throw (.fault refusal.fault)

def ending (refusal : Refusal) : Leaving × List Printed :=
  match refusal.line? with
  | some line =>
      match Markup.render line.toList with
      | .ok shown => (.exit misuse, [.text (Session.visible shown)])
      | .error cause => (.fault cause, [])
  | none => (.fault refusal.fault, [])

def transcript (refusal : Refusal) : Transcript :=
  Transcript.ofOutcome (.error refusal.ending.1) refusal.ending.2

end Refusal

namespace Refusal

variable {what : String}

end Refusal

end Cli

end StillMotion
