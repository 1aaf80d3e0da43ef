import Bpf.Host
import Bpf.Link.Iterator
import Bpf.Pinned

/-!
# Output

The texts that the command line prints: reports on features, the answer on a helper, the list of links
and the description of a pinned object.  A list of links that ends with an error is not printed at
all.
-/

namespace Bpf.Output

variable {σ : Type}

/-! ### Columns -/

/-- A text filled up with blanks to a width, at its end. -/
def padRight (width : Nat) (s : String) : String :=
  s ++ String.ofList (List.replicate (width - s.length) ' ')

/-- A text filled up with blanks to a width, at its beginning. -/
def padLeft (width : Nat) (s : String) : String :=
  String.ofList (List.replicate (width - s.length) ' ') ++ s

/-- A text as a line. -/
def asLine (s : String) : String := s ++ "\n"

/-! ### Features -/

/-- The first release of a feature. -/
def since : Option KernelVersion → String
  | some version => s!">= {version.text}"
  | none => ""

/-- One row of a report, with the name in a column of the given width. -/
def featureLine (width : Nat) (row : FeatureRow) : String :=
  s!"{padRight width row.name}  {padRight 8 (since row.version)}  {row.outcome.text}"

/-- The width of the column of names: the size of the longest one in bytes. -/
def nameWidth (rows : List FeatureRow) : Nat :=
  (rows.map fun row => row.name.utf8ByteSize).foldl max 0

/-- A report on features. -/
def features (rows : List FeatureRow) (json : Bool) : String :=
  if json then asLine (Json.array (rows.map FeatureRow.toJson)).pretty
  else String.join (rows.map fun row => asLine (featureLine (nameWidth rows) row))

/-- The answer to the question whether programs of a type may call a helper. -/
def helper (programType : ProgramType) (helper : Helper) : Verdict → String
  | .ok () => asLine s!"{helper.text} is available to {Code.text programType} programs"
  | .error e => asLine e.message

/-! ### Links -/

/-- What the kernel reports about the links above an id, without those that are gone when they are
asked about. -/
def linkInfos (K : Kernel σ) (cursor : UInt32) : Action σ (List LinkInfo) := do
  match ← LinkIterator.nextLink K cursor with
  | none => return []
  | some (id, link) =>
    let answer ← Action.attempt (link.info K)
    let rest ← linkInfos K id.1
    match answer with
    | .ok info => return info :: rest
    | .error _ => return rest
termination_by UInt32.size - cursor.toNat
decreasing_by exact LinkIterator.sub_toNat_lt_of_lt id.2

/-- The program of a link. -/
def programColumn : Option UInt32 → String
  | some id => toString id.toNat
  | none => "-"

/-- One link. -/
def linkLine (info : LinkInfo) : String :=
  let id := padLeft 6 (toString info.id.toNat)
  let linkType := padRight 14 (Code.text info.linkType)
  let program := padRight 6 (programColumn info.programId)
  s!"{id}  {linkType}  prog {program}  {info.details.toJson.compact}"

/-- A list of links. -/
def linkList (infos : List LinkInfo) (json : Bool) : String :=
  if json then asLine (Json.array (infos.map LinkInfo.toJson)).pretty
  else String.join (infos.map fun info => asLine (linkLine info))

/-- The links of the kernel. -/
def links (K : Kernel σ) (json : Bool) : Action σ String :=
  return linkList (← linkInfos K 0) json

/-! ### Pinned objects -/

/-- The object pinned at a path. -/
def pinned (K : Kernel σ) (path : Path) : Action σ String := do
  match ← Pinned.load K path with
  | .map _ => return asLine s!"{path.text}: map"
  | .program program =>
    let info ← program.info K
    return asLine
      s!"{path.text}: {Code.text info.programType} program id {info.id} {Text.quote info.name}"
  | .link link => return asLine (← link.info K).toJson.pretty

end Bpf.Output
