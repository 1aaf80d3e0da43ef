import Bpf.Proofs.LinkRows
import Bpf.Proofs.NextIds
import Bpf.Proofs.OpenedReports
import Bpf.Proofs.Pins
import Bpf.Proofs.WalkEnds

/-!
# Lists of links

A list of links is printed when all of them have been handed over and asked for their reports
(`Listing`); the ones that do not answer are left out, and a failure of the walk is all that is
answered.  A kernel in memory lists the links that can be opened, by ascending id, and the row of each
shows what is reported about it.
-/

namespace Bpf

open Memory

variable {σ η : Type}

/-! ### Lists over any kernel -/

namespace LinkIterator

/-- A walk that goes on above an id, and whose link has been taken. -/
def above (cursor : UInt32) : LinkIterator := ⟨cursor, none, none, false⟩

/-- A walk that has found no link above an id. -/
def ended (cursor : UInt32) : LinkIterator := ⟨cursor, none, none, true⟩

end LinkIterator

open LinkIterator (above)

namespace Output

/-- What is listed of the answer to a question for a report. -/
def row : Except Error LinkInfo → List LinkInfo
  | .ok info => [info]
  | .error _ => []

end Output

namespace Memory

/-! ### The reports that there are -/

namespace State

variable {s : State} {id : UInt32}

/-- What is read from the reply on the link with an id. -/
def Reports (settings : Settings) (s : State) (id : UInt32) (info : LinkInfo) : Prop :=
  ∃ record, s.links.get? id = some record
    ∧ Link.readInfo (record.report settings.infoLength) = .ok info

theorem Reports.id_eq {settings : Settings} {info : LinkInfo}
    (hlength : ∀ n, settings.infoLength = some n → 8 ≤ n) (hvalid : s.Valid)
    (h : s.Reports settings id info) :
  info.id = id
  := by
  obtain ⟨record, hrecord, hread⟩ := h
  obtain ⟨info', hread', -, hid⟩ := record.readInfo_report_of_le hlength
  cases hread.symm.trans hread'
  rw [hid, hvalid.records id record hrecord]

theorem Reports.of_links {settings : Settings} {s' : State} {info : LinkInfo}
    (h : s.Reports settings id info) (hlinks : s'.links = s.links) :
  s'.Reports settings id info
  := by
  rw [Reports, hlinks]
  exact h

/-- The answer to the question for the reports on some links that can be opened.  If the device does not
let itself be opened, its failure is the answer; but one that sounds as if there were no such link has
all of them passed over. -/
structure Lists (settings : Settings) (s : State) (ids : List UInt32)
    (answer : Except Error (List LinkInfo)) : Prop where
  all : s.HasDescriptors →
    ∃ infos, answer = .ok infos ∧ List.Forall₂ (s.Reports settings) ids infos
  failed : ∀ failure, s.device = some failure →
    answer = if ids = [] ∨ failure = .os Errno.enoent then .ok [] else .error (.io failure)

namespace Lists

variable {settings : Settings} {s' : State} {ids : List UInt32} {info : LinkInfo}
  {answer : Except Error (List LinkInfo)} {failure : IoError}

theorem nil (settings : Settings) (s : State) :
  Lists settings s [] (.ok [])
  where
  all _ := ⟨[], rfl, .nil⟩
  failed _ _ := (if_pos (.inl rfl)).symm

theorem of_links (h : Lists settings s' ids answer) (hlinks : s'.links = s.links)
    (hdevice : s'.device = s.device) :
  Lists settings s ids answer
  where
  all hfd := by
    obtain ⟨infos, hanswer, hinfos⟩ := h.all (hdevice.trans hfd)
    exact ⟨infos, hanswer, hinfos.imp fun _ _ hreports => hreports.of_links hlinks.symm⟩
  failed failure hfailure := h.failed failure (hdevice.trans hfailure)

/-- One more link comes first. -/
theorem cons (h : Lists settings s' ids answer) (hlinks : s'.links = s.links)
    (hdevice : s'.device = s.device) (hfd : s.HasDescriptors)
    (hinfo : s.Reports settings id info) :
  Lists settings s (id :: ids) (answer.map (info :: ·))
  where
  all _ := by
    obtain ⟨infos, rfl, hinfos⟩ := h.all (hdevice.trans hfd)
    refine ⟨info :: infos, rfl, .cons hinfo (hinfos.imp ?_)⟩
    intro _ _ hreports
    exact hreports.of_links hlinks.symm
  failed _ hfailure := nomatch hfd.symm.trans hfailure

theorem refused (hdevice : s.device = some failure) (hne : failure ≠ .os Errno.enoent) (id : UInt32)
    (ids : List UInt32) :
  Lists settings s (id :: ids) (.error (.io failure))
  where
  all hfd := nomatch hdevice.symm.trans hfd
  failed failure' hfailure := by
    cases hdevice.symm.trans hfailure
    rw [if_neg]
    rintro (hnil | heq)
    · cases hnil
    · exact hne heq

end Lists

end State

namespace Machine

variable {settings : Settings} {script : Script η} {m : Machine η} {cursor id : UInt32}
  {info : LinkInfo}

end Machine

end Memory

end Bpf
