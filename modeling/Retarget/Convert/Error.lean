import Retarget.Disk.Refusal

/-!
# Why a conversion stops
-/

namespace Retarget

/-- Why a file or a tree was not converted. -/
inductive ConvertError
  | inputNotFound (input : Path)
  | notADirectory (input : Path)
  | notAFile (input : Path)
  | outputInsideInput (input output : Path)
  /-- There is no name to derive the output from. -/
  | noFolderName (input : Path)
  | io (path : Path) (r : Refusal)
deriving Repr, BEq, DecidableEq

namespace ConvertError

def message : ConvertError → String
  | inputNotFound p => "Input does not exist: " ++ p.display
  | notADirectory p => "Input path is not a directory: " ++ p.display
  | notAFile p => "Input path is not a file: " ++ p.display
  | outputInsideInput i o => "Output " ++ o.display ++ " lies inside input " ++ i.display
  | noFolderName p => "Cannot derive an output name from " ++ p.display
  | io p r => "I/O error on " ++ p.display ++ ": " ++ r.message

/-- The message, and the messages of what is behind it. -/
def chain : ConvertError → List String
  | io p r => [(io p r).message, r.message]
  | e => [e.message]

/-- The error of an input that cannot be looked up. -/
def ofInput (p : Path) : Cause → ConvertError
  | .notFound => inputNotFound p
  | c => io p ⟨c, none⟩

/-- The error of a path on which an operation is refused. -/
def ofCause (p : Path) (c : Cause) : ConvertError := io p ⟨c, none⟩

end ConvertError

/-- The path of an output beside its input. -/
def outputBeside (input : Path) : Except ConvertError Path :=
  match input.outputBeside? with
  | some p => .ok p
  | none => .error (.noFolderName input)

end Retarget
