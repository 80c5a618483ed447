/-
This file lets several cursors walk through several texts, one command at a time.
-/

import FrontEnd.Text.Cursor

namespace FrontEnd.Cursor

/-- What a single cursor can be asked to do. -/
inductive Action where
  | peek
  | next
  | nth (count : Nat)
  | collect
  | skipIf (expected : Char)
  | skipWhile (accepts : Char → Bool)
  | place
  | describe
  | describeFully

inductive Answer where
  | nothing
  | character (found : Option Char)
  | text (found : String)
  | flag (holds : Bool)
  | slice (found : Option String)
  deriving DecidableEq, Repr

def perform (cursor : Cursor) : Action → Answer × Cursor
  | .peek => (.character cursor.peek?, cursor)
  | .next => cursor.next.map .character id
  | .nth count => (cursor.nth count).map .character id
  | .collect => cursor.collect.map .text id
  | .skipIf expected => (cursor.skipIf expected).map .flag id
  | .skipWhile accepts => (.nothing, cursor.skipWhile accepts)
  | .place => (.text cursor.position.text, cursor)
  | .describe => (.text cursor.describe, cursor)
  | .describeFully => (.text cursor.describeFully, cursor)

/-- A growing list of cursors over a fixed list of texts. -/
structure Session where
  sources : List String
  cursors : List Cursor

/-- A command names texts and cursors by their numbers, which count from zero. -/
inductive Command where
  | create (source : Nat)
  | clone (cursor : Nat)
  | act (cursor : Nat) (action : Action)
  | slice (start stop : Nat)

/-- The answer to a command, the place of the cursor it is about, and the session after it. -/
structure Reply where
  answer : Answer
  position : Position
  session : Session

namespace Session

/-- A new cursor stands at the end of the list. -/
def opened (session : Session) (cursor : Cursor) : Reply :=
  ⟨.nothing, cursor.position, { session with cursors := session.cursors ++ [cursor] }⟩

/-- A command that names no text or no cursor has no reply. -/
def step (session : Session) : Command → Option Reply
  | .create source => session.sources[source]?.map fun text => session.opened (.ofString text)
  | .clone cursor => session.cursors[cursor]?.map session.opened
  | .act number action =>
      session.cursors[number]?.map fun cursor =>
        let (answer, moved) := cursor.perform action
        ⟨answer, moved.position, { session with cursors := session.cursors.set number moved }⟩
  | .slice start stop =>
      match session.cursors[start]?, session.cursors[stop]? with
      | some first, some second => some ⟨.slice (first.sliceTo? second), first.position, session⟩
      | _, _ => none

/-- The replies to commands that follow one another. -/
def replies (session : Session) : List Command → Option (List Reply)
  | [] => some []
  | command :: rest => do
      let reply ← session.step command
      let others ← reply.session.replies rest
      return reply :: others

end Session

end FrontEnd.Cursor
