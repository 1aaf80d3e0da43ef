import Bpf.Config
import Bpf.Output

/-!
# The command line

A `CommandLine` is what the arguments of the program say: the file that the configuration is in, if
there is one, and a `Job`.  `CommandLine.parse` reads the arguments, and `Job.run` does the job on a
host and gives the text to print.
-/

namespace Bpf

variable {σ : Type}

/-- What the program is asked to do. -/
inductive Job where
  /-- Probe every declared feature. -/
  | probeFeatures (json : Bool)
  /-- Tell whether programs of a type may call a helper. -/
  | askHelper (programType : ProgramType) (helper : Helper)
  /-- List the links of the kernel. -/
  | listLinks (json : Bool)
  /-- Describe the object pinned at a path. -/
  | describePin (path : Path)
  /-- Remove the pin at a path. -/
  | removePin (path : Path)
deriving DecidableEq

/-- What the arguments of the program say. -/
structure CommandLine where
  /-- The file that the configuration is in; without one every setting has its default. -/
  configFile : Option String
  job : Job
deriving DecidableEq

namespace Job

/-- How the program is called. -/
def usage : String :=
  "usage: [--config FILE] (features [--json] | helper TYPE HELPER | links [--json] | show PATH"
    ++ " | unpin PATH)"

/-- The job that the arguments name. -/
def parse : List String → Except Error Job
  | ["features"] => .ok (.probeFeatures false)
  | ["features", "--json"] => .ok (.probeFeatures true)
  | ["helper", programType, helper] => do
    return .askHelper (← Code.parse programType) (← Helper.parse helper)
  | ["links"] => .ok (.listLinks false)
  | ["links", "--json"] => .ok (.listLinks true)
  | ["show", path] => .ok (.describePin ⟨path⟩)
  | ["unpin", path] => .ok (.removePin ⟨path⟩)
  | _ => .error (.invalidInput usage)

/-- Does the job and gives the text to print.  A relative path is one in the directory that the
configuration names. -/
def run (K : Kernel σ) (config : Config) : Job → Action (Host σ) String
  | .probeFeatures json => do
    return Output.features (← Action.ofStep (Host.probeAll K)) json
  | .askHelper programType helper => do
    return Output.helper programType helper
      (← Action.ofStep (Host.haveHelper K programType helper))
  | .listLinks json => Host.onKernel (Output.links K json)
  | .describePin path => Host.onKernel (Output.pinned K (config.pinPath path))
  | .removePin path => do
    Host.onKernel (Pin.remove K (config.pinPath path))
    return Output.asLine s!"unpinned {(config.pinPath path).text}"

end Job

/-- What the arguments say. -/
def CommandLine.parse : List String → Except Error CommandLine
  | "--config" :: file :: rest => return ⟨some file, ← Job.parse rest⟩
  | "-c" :: file :: rest => return ⟨some file, ← Job.parse rest⟩
  | rest => return ⟨none, ← Job.parse rest⟩

end Bpf
