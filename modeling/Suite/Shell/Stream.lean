import Suite.Host.Machine
import Suite.Text.Octets

/-!
# Streams

Channels lead to streams: texts that are read, texts that are collected, files at a position, the
ends of pipes, and devices. All processes share the files and the streams,
which together are their `World`; the world also knows which processes there are, what they hold
open, how they ended and what signals are on their way to them. What is read and written are texts
of octets.
-/

namespace Suite.Shell

open Host (Device Ending FileTree IoError Location Node)

/-- The reason for a refusal, without its number. -/
def reason (e : IoError) : String :=
  let text := e.message.toList.takeWhile (· ≠ '(')
  String.ofList (text.reverse.dropWhile (· = ' ')).reverse

/-- The reason why a file cannot be used; `missing` if the way to it or the file is not there. -/
def reasonOr (missing : String) (e : IoError) : String :=
  if e = .notFound || e = .notDirectory then missing else reason e

/-- What a channel leads to. -/
inductive Stream
  /-- A text that is read; this is what is left of it. -/
  | source (rest : List Char)
  /-- A text that is written, the last character first. -/
  | collector (written : List Char)
  /-- A file, and how many bytes of it lie behind. What is written with `appends` goes to its
  end. -/
  | file (l : Location) (position : Nat) (reads writes appends : Bool)
  /-- The end of a pipe at which it is read. -/
  | outlet (pipe : Nat)
  /-- The end of a pipe at which it is written. -/
  | inlet (pipe : Nat)
  | device (d : Device)
  deriving Repr

/-- A pipe holds what was written to it and has not been read. -/
structure Pipe where
  /-- What is read first. -/
  front : List Char := []
  /-- What comes after that, the last character first. -/
  back : List Char := []
  size : Nat := 0
  /-- How often processes hold the end open where the pipe is read. -/
  readers : Nat := 0
  /-- How often processes hold the end open where the pipe is written. -/
  writers : Nat := 0
  deriving Repr

namespace Pipe

/-- How many characters a pipe has room for. -/
def capacity : Nat := 65536

/-- How many characters are written at once or not at all. -/
def whole : Nat := 4096

/-- What there is to read. -/
def content (p : Pipe) : List Char := if p.back.isEmpty then p.front else p.front ++ p.back.reverse

/-- The pipe with characters behind those that are in it. -/
def push (p : Pipe) (s : List Char) : Pipe :=
  { p with back := s.reverseAux p.back, size := p.size + s.length }

/-- The pipe without the characters that are read first. -/
def drop (p : Pipe) (count : Nat) : Pipe :=
  { p with front := p.content.drop count, back := [], size := p.size - count }

end Pipe

/-- What all processes share. -/
structure World where
  files : FileTree
  streams : Array Stream := #[]
  pipes : Array Pipe := #[]
  /-- The number of the process that begins next. -/
  nextProcess : Nat
  /-- The processes that have not ended, with the streams they hold open. -/
  alive : List (Nat × List Nat) := []
  /-- How processes have ended for whose end nobody has waited, the last one first. -/
  ended : List (Nat × Ending) := []
  /-- Signals that have been sent, each to a process that has not seen it yet. -/
  sent : List (Nat × Nat) := []
  deriving Repr

/-- What a file is opened for. -/
inductive Access
  | read
  | write
  | append
  | readWrite
  deriving DecidableEq, Repr

namespace World

/-- The bytes of the file at a location, if there is one. -/
def content? (w : World) (l : Location) : Option (List UInt8) :=
  (w.files.node? l).bind Node.content?

/-- What there is to read in a stream now; nothing for one that cannot be read. -/
def unread? (w : World) (i : Nat) : Option (List Char) :=
  match w.streams[i]? with
  | some (.source rest) => some rest
  | some (.file l position true _ _) =>
    (w.content? l).map fun content => Text.ofBytes (content.drop position)
  | some (.outlet p) => w.pipes[p]?.map Pipe.content
  | some (.device _) => some []
  | _ => none

/-- A pipe. -/
def pipe (w : World) (pipe : Nat) : Pipe := (w.pipes[pipe]?).getD {}

/-- Some process can write to a pipe. -/
def isWritten (w : World) (pipe : Nat) : Bool := 0 < (w.pipe pipe).writers

/-- Some process can read a pipe. -/
def isRead (w : World) (pipe : Nat) : Bool := 0 < (w.pipe pipe).readers

/-- There is something to read in a stream, or there will never be. -/
def settled (w : World) (i : Nat) : Bool :=
  match w.streams[i]? with
  | some (.outlet p) => 0 < (w.pipe p).size || !w.isWritten p
  | _ => true

/-- How many characters a pipe has room for. -/
def room (w : World) (pipe : Nat) : Nat := Pipe.capacity - (w.pipe pipe).size

/-- The world with a stream in the place of another one. -/
def withStream (w : World) (i : Nat) (s : Stream) : World :=
  { w with streams := w.streams.set! i s }

/-- The world with a pipe changed. -/
def withPipe (w : World) (pipe : Nat) (f : Pipe → Pipe) : World :=
  { w with pipes := w.pipes.modify pipe f }

/-- The world after so many characters of a stream are read. -/
def skip (w : World) (i count : Nat) : World :=
  match w.streams[i]? with
  | some (.source rest) => w.withStream i (.source (rest.drop count))
  | some (.outlet p) => w.withPipe p (·.drop count)
  | some (.file l position reads writes appends) =>
    w.withStream i (.file l (position + count) reads writes appends)
  | _ => w

/-- Bytes with others written over them from a position on. -/
def overwritten (content : List UInt8) (position : Nat) (bs : List UInt8) : List UInt8 :=
  content.take position ++ List.replicate (position - content.length) 0 ++ bs ++
    content.drop (position + bs.length)

/-- The world after characters are written to a stream that is no pipe; nothing for one that cannot
be written. -/
def write? (w : World) (i : Nat) (s : List Char) : Option World :=
  match w.streams[i]? with
  | some (.collector written) => some (w.withStream i (.collector (s.reverseAux written)))
  | some (.device .null) => some w
  | some (.file l position reads true appends) =>
    match w.files.node? l with
    | some (.file content executable) =>
      let position := if appends then content.length else position
      let files := w.files.put l (.file (overwritten content position (Text.bytes s)) executable)
      some ({ w with files }.withStream i (.file l (position + s.length) reads true appends))
    | _ => none
  | _ => none

/-- The world with one more stream, and the number of that. -/
def push (w : World) (s : Stream) : Nat × World :=
  (w.streams.size, { w with streams := w.streams.push s })

/-- The world with one more pipe, and the numbers of the streams that are its ends: where it is read
and where it is written. -/
def pushPipe (w : World) : Nat × Nat × World :=
  let (outlet, w) := w.push (.outlet w.pipes.size)
  let (inlet, w) := w.push (.inlet w.pipes.size)
  (outlet, inlet, { w with pipes := w.pipes.push {} })

/-- What a collector has collected. -/
def collected (w : World) (i : Nat) : List Char :=
  match w.streams[i]? with
  | some (.collector written) => written.reverse
  | _ => []

/-- The world with the count of those changed who hold a stream open, if it is an end of a pipe. -/
def counting (f : Nat → Nat) (w : World) (i : Nat) : World :=
  match w.streams[i]? with
  | some (.outlet p) => w.withPipe p fun q => { q with readers := f q.readers }
  | some (.inlet p) => w.withPipe p fun q => { q with writers := f q.writers }
  | _ => w

/-- The world in which a process holds no streams open any more, and has ended. -/
def without (w : World) (process : Nat) : World :=
  let before := (w.alive.lookup process).getD []
  let w := before.foldl (counting (· - 1)) w
  { w with alive := w.alive.filter fun a => a.1 ≠ process }

/-- The world in which a process holds these streams open. -/
def holding (w : World) (process : Nat) (streams : List Nat) : World :=
  if w.alive.lookup process = some streams then w
  else
    let w := streams.foldl (counting (· + 1)) (w.without process)
    { w with alive := (process, streams) :: w.alive }

/-- The world after a process has ended. -/
def afterEnd (w : World) (process : Nat) (ending : Ending) : World :=
  let w := w.without process
  { w with
    ended := (process, ending) :: w.ended
    sent := w.sent.filter fun m => m.1 ≠ process }

/-- The process has not ended, or nobody has waited for its end. -/
def knows (w : World) (process : Nat) : Bool :=
  w.alive.any (·.1 = process) || w.ended.any (·.1 = process)

/-- A signal is on its way to a process. -/
def isCalled (w : World) (process : Nat) : Bool := w.sent.any (·.1 = process)

/-- What stands at the place that a path leads to. -/
def placeOf (w : World) (cwd : Location) (p : Path) : Except IoError (Location × Node) := do
  let l ← w.files.locate cwd p
  match w.files.node? l with
  | some n => .ok (l, n)
  | none => .error .notFound

/-- The stream of the file that a path leads to, and the world with that file. -/
def openFile (w : World) (cwd : Location) (access : Access) (p : Path) :
    Except IoError (Stream × World) := do
  match access with
  | .read =>
    match ← w.placeOf cwd p with
    | (_, .device .terminal) => .error .noDevice
    | (_, .device d) => return (.device d, w)
    | (l, _) => return (.file l 0 true false false, w)
  | _ =>
    let l ← w.files.locateFile cwd p
    match w.files.node? l with
    | some .directory => .error .isDirectory
    | some (.device .terminal) => .error .noDevice
    | some (.device d) => return (.device d, w)
    | some (.file content executable) => return leading l content executable
    | some (.program _) => return leading l Host.machineCode true
    | none => if w.files.isOpen l then return leading l [] false else .error .notFound
where
  /-- The stream of the file that stands, or is to stand, at a location with this content. -/
  leading (l : Location) (content : List UInt8) (executable : Bool) : Stream × World :=
    let kept := if access = .write then [] else content
    (.file l 0 (access = .readWrite) true (access = .append),
      { w with files := w.files.put l (.file kept executable) })

end World

end Suite.Shell
