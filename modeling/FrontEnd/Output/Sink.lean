/-
This file holds the output of a run. A sink may refuse what does not fit into it.
-/

namespace FrontEnd

/-- Why a sink takes no more bytes. -/
inductive WriteFault where
  | refused (complaint : String)
  | full
  deriving DecidableEq, Repr

def WriteFault.text : WriteFault → String
  | refused complaint => complaint
  | full => "failed to write whole buffer"

/-- A place for output. It may have room for a limited number of bytes more, and a complaint to
make when the room is used up. -/
structure Sink where
  written : ByteArray
  room : Option Nat
  complaint : Option String

namespace Sink

def unlimited : Sink := ⟨.empty, none, none⟩

def limited (room : Nat) (complaint : Option String) : Sink := ⟨.empty, some room, complaint⟩

def fault (sink : Sink) : WriteFault :=
  match sink.complaint with
  | some complaint => .refused complaint
  | none => .full

def hasRoom (sink : Sink) (count : Nat) : Bool :=
  match sink.room with
  | some room => count ≤ room
  | none => true

/-- The initial bytes for which the sink has room. -/
def fitting (sink : Sink) (bytes : ByteArray) : ByteArray :=
  match sink.room with
  | some room => bytes.extract 0 room
  | none => bytes

/-- A sink takes the part of the bytes for which it has room. -/
def take (sink : Sink) (bytes : ByteArray) : Sink :=
  { sink with
    written := sink.written ++ sink.fitting bytes
    room := sink.room.map (· - bytes.size) }

/-- A text that does not fit as a whole is written in part. -/
def put (sink : Sink) (text : String) : Option WriteFault × Sink :=
  let bytes := text.toUTF8
  if sink.hasRoom bytes.size then (none, sink.take bytes) else (some sink.fault, sink.take bytes)

/-- The first text that does not fit is the last one that is tried. -/
def putAll (sink : Sink) : List String → Option WriteFault × Sink
  | [] => (none, sink)
  | text :: rest =>
      match sink.put text with
      | (none, next) => next.putAll rest
      | (some fault, next) => (some fault, next)

/-- The written bytes as a text. A character that the limit cut in two is replaced. -/
def text (sink : Sink) : String :=
  let without (count : Nat) : Option String :=
    String.fromUTF8? (sink.written.extract 0 (sink.written.size - count))
  match without 0 with
  | some text => text
  | none =>
      match [1, 2, 3].findSome? without with
      | some text => text ++ "\uFFFD"
      | none => "\uFFFD"

end Sink

/-- A line is written as its text and then its line feed. -/
def lines (texts : List String) : List String :=
  texts.flatMap fun text => [text, "\n"]

end FrontEnd
