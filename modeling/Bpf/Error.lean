import Bpf.Errno
import Bpf.Text.Blank
import Bpf.Version.Basic

/-!
# Errors

`Error` holds the causes for which an operation of the library fails, `FeatureError` those for which
a feature is not reported as supported; an inconclusive feature carries the error that left it open.
`Error.message` is the wording, `Error.category` the coarse classification, and `Error.errno` the error
number of the kernel call underneath.
-/

namespace Bpf

/-- A failed call to the operating system. -/
inductive IoError where
  /-- The call returned an error number. -/
  | os (errno : Errno)
  /-- A file name cannot be passed on because it contains a NUL. -/
  | nulInFileName
  /-- A file that should hold text does not. -/
  | notText
deriving DecidableEq

namespace IoError

/-- The error number, if the call got as far as returning one. -/
def errno : IoError → Option Errno
  | .os n => some n
  | _ => none

/-- The file that was asked for is not there. -/
def isNotFound (e : IoError) : Bool := e.errno = some Errno.enoent

/-- The wording. -/
def message : IoError → String
  | .os n => s!"{Errno.text n} (os error {n})"
  | .nulInFileName => "file name contained an unexpected NUL byte"
  | .notText => "stream did not contain valid UTF-8"

end IoError

mutual
/-- The causes for which an operation fails. -/
inductive Error where
  /-- The running kernel lacks the capability. -/
  | notSupported (reason : Option String)
  /-- The caller broke the contract of the operation. -/
  | invalidInput (message : String)
  /-- What was asked for does not exist. -/
  | notFound (message : String)
  /-- The kernel broke the contract of a command. -/
  | fatal (message : String)
  /-- A kernel call failed. -/
  | syscall (call : String) (source : IoError)
  /-- The verifier rejected a program, with the lines it logged. -/
  | verifier (source : IoError) (log : List String)
  /-- A feature is not there, or not known to be. -/
  | feature (source : FeatureError)
  /-- The type information of the kernel is unreadable. -/
  | btf (message : String)
  /-- The configuration is unusable. -/
  | config (message : String)
  /-- A file operation failed. -/
  | io (source : IoError)

/-- The causes for which a feature is not reported as supported. -/
inductive FeatureError where
  /-- The kernel lacks the feature; `version` is the first release known to have it. -/
  | notSupported (feature : String) (version : Option KernelVersion) (reason : Option String)
  /-- The probe could not decide. -/
  | inconclusive (feature : String) (source : Error)
  /-- No probe exists for what was asked. -/
  | noProbe (subject : String)
end

deriving instance DecidableEq for Error, FeatureError

/-- The answer to the question whether a feature is there. -/
abbrev Verdict := Except FeatureError Unit

/-- What a caller is to do about an error. -/
inductive ErrorCategory where
  | notSupported
  | invalidInput
  | inconclusive
  | notFound
  | fatal
deriving DecidableEq

/-- The name of a category of errors. -/
def ErrorCategory.name : ErrorCategory → String
  | .notSupported => "NotSupported"
  | .invalidInput => "InvalidInput"
  | .inconclusive => "Inconclusive"
  | .notFound => "NotFound"
  | .fatal => "Fatal"

/-! ### Wording -/

/-- A reason behind a colon, or nothing. -/
def reasonSuffix : Option String → String
  | none => ""
  | some reason => ": " ++ reason

/-- The release that a feature requires, in parentheses, or nothing. -/
def requirement : Option KernelVersion → String
  | none => ""
  | some version => s!" (requires >= {version.text})"

/-- The last line of a log that is not blank, in parentheses, or nothing. -/
def lastLine (log : List String) : String :=
  match log.reverse.find? (fun line => !Text.isBlankText line) with
  | none => ""
  | some line => s!" ({Text.trim line})"

mutual
/-- The wording of an error. -/
def Error.message : Error → String
  | .notSupported reason => "not supported" ++ reasonSuffix reason
  | .invalidInput message => "invalid input: " ++ message
  | .notFound message => "not found: " ++ message
  | .fatal message => "internal invariant violated: " ++ message
  | .syscall call source => s!"{call} failed: {source.message}"
  | .verifier source log => s!"program rejected by the verifier: {source.message}{lastLine log}"
  | .feature source => FeatureError.message source
  | .btf message => "BTF error: " ++ message
  | .config message => "configuration error: " ++ message
  | .io source => "IO error: " ++ source.message

/-- The wording of an error about a feature. -/
def FeatureError.message : FeatureError → String
  | .notSupported feature version reason =>
    s!"{feature} not supported{requirement version}{reasonSuffix reason}"
  | .inconclusive feature source => s!"detect support for {feature}: " ++ Error.message source
  | .noProbe subject => "no feature probe for " ++ subject
end

/-! ### Classification -/

namespace Error

/-- A failed kernel call with its error number. -/
def ofErrno (call : String) (errno : Errno) : Error := .syscall call (.os errno)

/-- The error number of the kernel call underneath, if there is one. -/
def errno : Error → Option Errno
  | .syscall _ source => source.errno
  | .verifier source _ => source.errno
  | .io source => source.errno
  | _ => none

/-- The kernel call underneath failed with this error number. -/
def isErrno (e : Error) (n : Errno) : Bool := e.errno = some n

/-- The category of an error.  Only a definite answer of a probe makes a feature unsupported. -/
def category : Error → ErrorCategory
  | .notSupported _ => .notSupported
  | .invalidInput _ => .invalidInput
  | .config _ => .invalidInput
  | .notFound _ => .notFound
  | .fatal _ => .fatal
  | .feature (.notSupported ..) => .notSupported
  | .feature (.noProbe _) => .invalidInput
  | .feature (.inconclusive ..) => .inconclusive
  | .syscall .. => .inconclusive
  | .verifier .. => .inconclusive
  | .btf _ => .inconclusive
  | .io _ => .inconclusive

/-- The name of a cause. -/
def kind : Error → String
  | .notSupported _ => "NotSupported"
  | .invalidInput _ => "InvalidInput"
  | .notFound _ => "NotFound"
  | .fatal _ => "Fatal"
  | .syscall .. => "Syscall"
  | .verifier .. => "Verifier"
  | .feature (.notSupported ..) => "FeatureNotSupported"
  | .feature (.inconclusive ..) => "FeatureInconclusive"
  | .feature (.noProbe _) => "FeatureNoProbe"
  | .btf _ => "Btf"
  | .config _ => "Config"
  | .io _ => "Io"

/-- The log that comes with an error, if one does. -/
def log? : Error → Option (List String)
  | .verifier _ log => some log
  | _ => none

/-- The error as an object. -/
def toJson (e : Error) : Json :=
  let members :=
    [ ("error", Json.string e.kind), ("message", .string e.message),
      ("class", .string e.category.name), ("errno", Json.optional Json.int e.errno) ]
  match e.log? with
  | some log => .object (members ++ [("log", .array (log.map .string))])
  | none => .object members

/-- The kernel lacks what was asked for. -/
def isNotSupported (e : Error) : Bool := e.category = .notSupported

end Error

end Bpf
