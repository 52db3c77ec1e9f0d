import StillMotion.Proofs.Cli.Telling
import StillMotion.Proofs.Config.Loading
import StillMotion.Proofs.Files.Storage
import StillMotion.Proofs.Pipeline.Answer
import StillMotion.Proofs.Text.Search

/-!
# Refused inputs

What becomes of a command whose input file is no document of the kind that it takes.  Nothing is
written then.  What the reader of documents fails with is not always a fault that the commands
tell, and the name of a file is put into what they tell as it is.
-/

namespace StillMotion

variable {ε α : Type} {w : Workspace ε} {path : Path} {content : ByteArray} {fault : Fault}

/-! ## Contents of files -/

namespace Document

/-- The text that bytes are; every line ends in a line feed. -/
def textOf (content : ByteArray) : Except Fault String :=
  ((Utf8.decode content).map Text.unified).mapError .encoding

def ofContent (path : Path) (content : ByteArray) : Except Fault Value :=
  textOf content >>= mappingIn path

end Document

/-! ## Documents that are no records -/

namespace Cli

/-! ## Inputs -/

/-- The input file of a command, the kind of document that it should hold and the check of one. -/
structure Input where
  path : Path
  what : String
  check : Value → Except Fault Unit

def Input.outcome (input : Input) (content : ByteArray) : Except Fault Unit :=
  Document.ofContent input.path content >>= input.check

variable {command : CliCommand} {input : Input} {services : Services ε} {args : List String}

def clip : Path := ⟨.here, ["clip.json"]⟩

end Cli

end StillMotion
