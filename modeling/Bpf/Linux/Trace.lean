import Bpf.Linux.Attr
import Bpf.Request

/-!
# Traces of the system call

`Attr.toJson` shows the arguments of the system call `bpf`.  The lists behind the addresses in a
request for a link with many probes are shown as far as the request says they reach.
-/

namespace Bpf.Linux

/-- The list at an address, if there is an address. -/
def bufferAt (cells : List Cell) (offset : Nat) : Option Buffer :=
  match cells[offset]? with
  | some (.address buffer _) => some buffer
  | _ => none

/-- The word at an offset; the bytes of an address have no value. -/
def wordAt (cells : List Cell) (offset : Nat) : Nat :=
  ofLittleEndian (((cells.drop offset).take 4).map fun
    | .byte b => b
    | .address .. => 0)

/-- The first elements of a list. -/
def bufferJson (count : Nat) : Option Buffer → Json
  | none => .null
  | some (.text text) => .string text.text
  | some (.texts texts) => .array ((texts.take count).map fun t => .string t.text)
  | some (.words words) => LinkExtra.wordsJson (words.take count)

/-- The bytes of a part without addresses. -/
def cellsHex (cells : List Cell) : Json :=
  .string (Text.hex (cells.map fun
    | .byte b => b
    | .address .. => 0))

/-- The part of a request for a link that depends on the hook. -/
def extraJson (attachType : UInt32) (cells : List Cell) : Json :=
  let list count offset := bufferJson count (bufferAt cells offset)
  if attachType = Code.raw AttachType.traceKprobeMulti then
    let count := wordAt cells 4
    .object
      [ ("flags", .nat (wordAt cells 0)), ("cnt", .nat count), ("syms", list count 8),
        ("addrs", list count 16), ("cookies", list count 24) ]
  else if attachType = Code.raw AttachType.traceUprobeMulti then
    let count := wordAt cells 32
    .object
      [ ("path", list count 0), ("offsets", list count 8), ("ref_ctr_offsets", list count 16),
        ("cookies", list count 24), ("cnt", .nat count), ("flags", .nat (wordAt cells 36)),
        ("pid", .nat (wordAt cells 40)) ]
  else cellsHex cells

namespace Attr

/-- The arguments by name. -/
def fields (attr : Attr) : List (String × Json) :=
  let word (w : UInt32) := Json.nat w.toNat
  match attr with
  | .progLoad l =>
    [ ("prog_type", word l.programType), ("insn_cnt", word l.insnCount),
      ("insns", insnsJson l.insns), ("license", .string l.license.text),
      ("prog_flags", word l.flags), ("prog_name", .string (Text.hex l.name)),
      ("expected_attach_type", word l.attachType), ("attach_btf_id", word l.attachBtfId),
      ("log_level", word l.logLevel), ("log_size", word l.logSize), ("log_buf", .bool l.hasLog) ]
  | .objPin path fd =>
    [("pathname", .string path.text), ("bpf_fd", word fd), ("file_flags", word 0)]
  | .objGet path flags =>
    [("pathname", .string path.text), ("bpf_fd", word 0), ("file_flags", word flags)]
  | .progAttach target program attachType flags replace =>
    [ ("target_fd", word target), ("attach_bpf_fd", word program),
      ("attach_type", word attachType), ("attach_flags", word flags),
      ("replace_bpf_fd", word replace) ]
  | .infoByFd fd length => [("bpf_fd", word fd), ("info_len", word length)]
  | .progQuery target attachType => [("target_fd", word target), ("attach_type", word attachType)]
  | .rawTracepointOpen name program =>
    [ ("name", Json.optional (fun n : NulFree => .string n.text) name),
      ("prog_fd", word program) ]
  | .linkCreate a =>
    [ ("prog_fd", word a.program), ("target_fd", word a.target),
      ("attach_type", word a.attachType), ("flags", word a.flags),
      ("extra", extraJson a.attachType a.extra) ]
  | .linkUpdate link new flags old =>
    [ ("link_fd", word link), ("new_prog_fd", word new), ("flags", word flags),
      ("old_prog_fd", word old) ]
  | .linkDetach link => [("link_fd", word link)]
  | .linkFdById id => [("link_id", word id)]
  | .linkNextId start => [("start_id", word start)]

/-- The call as an object. -/
def toJson (attr : Attr) : Json := .object (("cmd", .string attr.command) :: attr.fields)

end Attr

end Bpf.Linux
