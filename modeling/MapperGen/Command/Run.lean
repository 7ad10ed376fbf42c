import MapperGen.Command.Arguments
import MapperGen.Command.Generate

/-!
# Running the program

From arguments to what is printed and the exit status.
-/

namespace MapperGen

inductive Printed where
  | text (t : Text)
  | help (topic : Topic)
  deriving DecidableEq, Repr

/-- What a failed run complains of. -/
inductive Complaint where
  | misuse (fault : UsageFault)
  | failure (fault : CommandFault)
  deriving DecidableEq, Repr

/-- How a run ended. -/
structure Outcome where
  printed : Printed
  complaint : Option Complaint
  deriving DecidableEq, Repr

namespace Outcome

/-- A run that printed a text and nothing else. -/
def ofText (t : Text) : Outcome := ⟨.text t, none⟩

def ofFault (fault : CommandFault) : Outcome := ⟨.text [], some (.failure fault)⟩

def exitCode (o : Outcome) : Nat :=
  match o.complaint with
  | none => 0
  | some (.misuse _) => 1
  | some (.failure fault) => fault.exitCode

end Outcome

def Complaint.report : Complaint → Text
  | misuse fault => line ("error: ".toList ++ fault.message)
  | failure fault => line ("Error: ".toList ++ fault.message)

def versionLine : Text := line "mapwright 0.1.0".toList

/-- What is printed when code was generated. -/
def generatedLine (path : Text) : Text := line ("Generated mappers: ".toList ++ path)

variable {m : Type → Type} [Monad m] [FileAccess m]

def Command.runWith (c : Command) (config : Config) (around : Surroundings) : m Outcome := do
  match c with
  | .generate output asked _ =>
    match ← generateFile output asked config around with
    | .error fault => return .ofFault fault
    | .ok none => return .ofText []
    | .ok (some path) => return .ofText (generatedLine path)
  | .spec asked _ =>
    match ← describeFile asked config around with
    | .error fault => return .ofFault fault
    | .ok text => return .ofText (line text)

/-- The file that is to configure a command. -/
def Command.config? : Command → Option Text
  | generate _ _ config | spec _ config => config

def Command.run (c : Command) (around : Surroundings) : m Outcome := do
  match ← Config.load c.config? with
  | .error fault => return .ofFault fault
  | .ok config => c.runWith config around

/-- Does what arguments ask for. -/
def Request.answer (r : Request) (around : Surroundings) : m Outcome := do
  match r with
  | .run command _ => command.run around
  | .showHelp topic => return ⟨.help topic, none⟩
  | .showVersion => return .ofText versionLine
  | .misuse fault => return ⟨.text [], some (.misuse fault)⟩

def runProgram (arguments : List Text) (around : Surroundings) : m Outcome :=
  (Request.read arguments).answer around

end MapperGen
