import Bpf.CommandLine
import Bpf.Memory.Kernel

/-!
# The program

Reads the configuration, does the job that the arguments name on a fresh kernel in memory, and prints
the text that it gives.  A failure goes to the error output, and the exit status is then not zero.
-/

namespace Bpf.Main

/-- A failure of the run-time system as a failed call to the operating system. -/
def ioError : IO.Error → IoError
  | .noFileOrDirectory _ code _ => .os code.toNat
  | .permissionDenied _ code _ => .os code.toNat
  | .inappropriateType _ code _ => .os code.toNat
  | _ => .os Errno.eio

/-- The answer to the attempt to read a file. -/
def readFile (file : String) : IO (Except IoError (List UInt8)) := do
  try
    let bytes ← IO.FS.readBinFile file
    return .ok bytes.toList
  catch e => return .error (ioError e)

/-- The configuration that the arguments name. -/
def readConfig : Option String → IO (Except Error Config)
  | none => return .ok {}
  | some file => return Config.ofFile (← readFile file)

/-- The kernel that the program works on. -/
def kernel (config : Config) : Kernel (Memory.Machine Unit) :=
  Memory.kernel { logSize := config.logSize } {}

/-- The text that a job gives on a fresh kernel. -/
def answer (config : Config) (job : Job) : Except Error String :=
  ((job.run (kernel config) config).run (Host.new ⟨{}, ()⟩)).1

/-- Does the job that the arguments name. -/
def text (arguments : List String) : IO (Except Error String) := do
  match CommandLine.parse arguments with
  | .error e => return .error e
  | .ok line =>
    match ← readConfig line.configFile with
    | .error e => return .error e
    | .ok config => return answer config line.job

end Bpf.Main

/-- Runs the program. -/
def main (arguments : List String) : IO UInt32 := do
  match ← Bpf.Main.text arguments with
  | .ok text =>
    IO.print text
    return 0
  | .error e =>
    IO.eprintln e.message
    return 1
