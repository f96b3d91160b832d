import NativeGlue.FileTree.Names
import NativeGlue.Text.Narrow

set_option autoImplicit false

/-! # Processes

What a running program can reach: a file tree with a current directory, and numbered streams. A
stream leads to a channel, which several streams can share, so that what one of them reads or writes
moves the others on as well. All texts are narrow.

The tree of a process is sound, and its channels lead to places with names. A process holds the
proofs of this, and what it can do hands them on, so nothing is left to prove about a program. -/

namespace NativeGlue

/-- How a file is opened. -/
inductive Access where
  | read
  /-- From its beginning, and nothing is left of what was in it. -/
  | replace
  /-- At its end. -/
  | append
  /-- For both, from its beginning. -/
  | readWrite
  deriving DecidableEq, Repr

/-- Where bytes come from or go to. -/
inductive Channel where
  /-- Nothing comes from it, and what goes to it is gone. -/
  | void
  /-- What goes to it is kept, last piece first. -/
  | kept (pieces : List String)
  /-- This is still to come from it. -/
  | given (rest : List Char)
  /-- A file, and the place in it where reading or writing goes on; some always write at its end. -/
  | file (place : Location) (offset : Nat) (appends : Bool)
  deriving DecidableEq, Repr

namespace Channel

/-- A channel that leads to a place with names, if it leads to a file. -/
def IsPlaced : Channel → Prop
  | file place _ _ => FileTree.Named place
  | _ => True

/-- Pass over that many characters. -/
def skip (count : Nat) : Channel → Channel
  | given rest => given (rest.drop count)
  | file place offset appends => file place (offset + count) appends
  | c => c

theorem IsPlaced.skip {c : Channel} (h : c.IsPlaced) (count : Nat) : (c.skip count).IsPlaced := by
  cases c <;> exact h

end Channel

/-- What a running program can reach. -/
structure Process where
  files : FileTree
  channels : Array Channel
  /-- The channels that streams lead to. -/
  streams : List (Nat × Nat)
  sound : files.IsSound
  placed : ∀ c ∈ channels, c.IsPlaced

namespace Process

/-- The first process of a rehearsal: it reads nothing, and what it prints is kept. -/
def start (files : FileTree) (sound : files.IsSound) : Process where
  files := files
  channels := #[.void, .kept [], .kept []]
  streams := [(0, 0), (1, 1), (2, 2)]
  sound := sound
  placed := by simp [Channel.IsPlaced]

/-! ## Streams -/

/-- The channel that a stream leads to. -/
def channelOf? (p : Process) (stream : Nat) : Option Nat := p.streams.lookup stream

/-- Let a stream lead to a channel. -/
def lead (p : Process) (stream channel : Nat) : Process :=
  { p with streams := (stream, channel) :: p.streams.filter (·.1 != stream) }

/-- Let a stream lead nowhere. -/
def close (p : Process) (stream : Nat) : Process :=
  { p with streams := p.streams.filter (·.1 != stream) }

/-- Add a channel. -/
def addChannel (p : Process) (c : Channel) (hc : c.IsPlaced := by trivial) : Nat × Process :=
  (p.channels.size, { p with
    channels := p.channels.push c
    placed := fun d hd => (Array.mem_push.1 hd).elim (p.placed d) fun heq => heq ▸ hc })

/-- Change a channel. -/
def changeChannel (p : Process) (channel : Nat) (f : Channel → Channel)
    (hf : ∀ c ∈ p.channels, (f c).IsPlaced) : Process :=
  { p with
    channels := p.channels.modify channel f
    placed := by
      intro c hc
      obtain ⟨i, hi, rfl⟩ := Array.getElem_of_mem hc
      rw [Array.getElem_modify]
      split
      · exact hf _ (Array.getElem_mem _)
      · exact p.placed _ (Array.getElem_mem _) }

/-- What was kept of what went to a channel. -/
def keptText (p : Process) (channel : Nat) : String :=
  match p.channels[channel]? with
  | some (.kept pieces) => String.join pieces.reverse
  | _ => ""

/-- The process after another one that it has started: its streams and its directory are its own. -/
def resume (p after : Process) : Process :=
  { after with
    streams := p.streams
    files := { after.files with current := p.files.current }
    sound := after.sound.enter p.sound.current }

/-! ## Files -/

/-- Go to a directory. -/
def enter (p : Process) (place : Location) (hplace : FileTree.Named place) : Process :=
  { p with files := { p.files with current := place }, sound := p.sound.enter hplace }

/-- Let the files be others. -/
def withFiles (p : Process) (files : FileTree) (sound : files.IsSound) : Process :=
  { p with files, sound }

/-- Take away what is at a location. -/
def take (p : Process) (place : Location) : Process :=
  p.withFiles (p.files.take place) (p.sound.take place)

/-- Take away what is at a location and below it. -/
def takeAll (p : Process) (place : Location) : Process :=
  p.withFiles (p.files.takeAll place) (p.sound.takeAll place)

/-- The path that a narrow text is. -/
def pathOf (s : String) : Path := ⟨Text.widen s⟩

/-- The bytes in the file at a location, as characters. -/
def charsAt (p : Process) (place : Location) : List Char :=
  match p.files.node? place with
  | some (.file content) => content.bytes.map Text.charOfByte
  | _ => []

/-- Put characters into the file at a location. -/
def putChars (p : Process) (place : Location) (hplace : FileTree.Named place) (cs : List Char) :
    Process :=
  p.withFiles (p.files.fill place (.ofBytes (cs.map Text.byteOfChar))) (p.sound.fill hplace _)

/-- The stream that a location is another name of. -/
def streamAt? : Location → Option Nat
  | ["dev", "stdin"] => some 0
  | ["dev", "stdout"] => some 1
  | ["dev", "stderr"] => some 2
  | ["dev", "fd", n] => n.toNat?
  | _ => none

/-- Open what is at a location. -/
def openAt (p : Process) (place : Location) (hplace : FileTree.Named place) (access : Access) :
    Except IoError (Nat × Process) :=
  let opened (p : Process) (appends : Bool) : Nat × Process :=
    p.addChannel (.file place 0 appends) hplace
  match streamAt? place with
  | some stream =>
    match p.channelOf? stream with
    | some channel => .ok (channel, p)
    | none => .error .notFound
  | none =>
    match p.files.node? place, access with
    | none, .read => .error .notFound
    | some .directory, _ | some .sink, _ => .ok (p.addChannel .void)
    | some (.file _), .append => .ok (opened p true)
    | none, .append => .ok (opened (p.putChars place hplace []) true)
    | _, .replace => .ok (opened (p.putChars place hplace []) false)
    | none, .readWrite => .ok (opened (p.putChars place hplace []) false)
    | _, _ => .ok (opened p false)

/-- Open the file at a path. -/
def openFile (p : Process) (path : String) (access : Access) : Except IoError (Nat × Process) := do
  match access with
  | .read =>
    match h : p.files.locate (pathOf path) with
    | .ok place => p.openAt place (FileTree.named_locate p.sound h) .read
    | .error e => .error e
  | access =>
    match h : p.files.writable (pathOf path) with
    | .ok place => p.openAt place (FileTree.named_writable p.sound h) access
    | .error e => .error e

/-! ## Reading and writing -/

/-- What is still to come from a stream. -/
def input (p : Process) (stream : Nat) : List Char :=
  match (p.channelOf? stream).bind (p.channels[·]?) with
  | some (.given rest) => rest
  | some (.file place offset _) => (p.charsAt place).drop offset
  | _ => []

/-- Take that many characters from a stream. -/
def skip (p : Process) (stream count : Nat) : Process :=
  match p.channelOf? stream with
  | none => p
  | some channel => p.changeChannel channel (.skip count) fun c hc => (p.placed c hc).skip count

/-- All that is still to come from a stream, which is then taken from it. -/
def takeInput (p : Process) (stream : Nat) : String × Process :=
  let cs := p.input stream
  (.ofList cs, p.skip stream cs.length)

/-- Whether a stream leads somewhere. -/
def isOpen (p : Process) (stream : Nat) : Bool := (p.channelOf? stream).isSome

/-- Write to a channel. -/
def writeTo (p : Process) (channel : Nat) (s : String) : Process :=
  match hchannel : p.channels[channel]? with
  | some (.kept pieces) => p.changeChannel channel (fun _ => .kept (s :: pieces)) fun _ _ => trivial
  | some (.file place offset appends) =>
    have hplace : FileTree.Named place := p.placed _ (Array.mem_of_getElem? hchannel)
    let before := p.charsAt place
    let start := if appends then before.length else offset
    let written := s.toList
    let gap := List.replicate (start - before.length) (Char.ofNat 0)
    (p.putChars place hplace
      (before.take start ++ gap ++ written ++ before.drop (start + written.length))).changeChannel
      channel (fun _ => .file place (start + written.length) appends) fun _ _ => hplace
  | _ => p

/-- Write to a stream. What goes nowhere is gone. -/
def write (p : Process) (stream : Nat) (s : String) : Process :=
  if s.isEmpty then p
  else match p.channelOf? stream with
    | some channel => p.writeTo channel s
    | none => p

/-- What the first process of a rehearsal leaves. -/
def output (p : Process) (status : Nat) : Output :=
  ⟨some status, Text.widen (p.keptText 1), Text.widen (p.keptText 2)⟩

end Process

/-- The text of a file system error without its number. -/
def IoError.reason (e : IoError) : String :=
  ((Text.split " (os error " e.text).head?).getD e.text

end NativeGlue
