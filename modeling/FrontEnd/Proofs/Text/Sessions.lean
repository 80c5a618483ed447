import FrontEnd.Proofs.Text.Slices

namespace FrontEnd.Cursor

/-- Marks in the place of cursors. -/
structure Tally where
  sources : List String
  marks : List Mark

/-- What a command comes to: its answer, the mark it is about, and the tally after it. -/
structure Entry where
  answer : Answer
  mark : Mark
  tally : Tally

namespace Tally

/-- A new mark stands at the end of the list. -/
def opened (tally : Tally) (mark : Mark) : Entry :=
  ⟨.nothing, mark, { tally with marks := tally.marks ++ [mark] }⟩

/-- A command changes one mark or adds one. -/
def step (tally : Tally) : Command → Option Entry
  | .create source => tally.sources[source]?.map fun text => tally.opened (.first text)
  | .clone number => tally.marks[number]?.map tally.opened
  | .act number action =>
      tally.marks[number]?.map fun mark =>
        let (answer, moved) := mark.perform action
        ⟨answer, moved, { tally with marks := tally.marks.set number moved }⟩
  | .slice start stop =>
      match tally.marks[start]?, tally.marks[stop]? with
      | some first, some second => some ⟨.slice (first.slice? second), first, tally⟩
      | _, _ => none

def entries (tally : Tally) : List Command → Option (List Entry)
  | [] => some []
  | command :: rest => do
      let entry ← tally.step command
      let others ← entry.tally.entries rest
      return entry :: others

/-- The session of the cursors that stand at the marks. -/
def session (tally : Tally) : Session := ⟨tally.sources, tally.marks.map Mark.cursor⟩

end Tally

def Entry.reply (entry : Entry) : Reply := ⟨entry.answer, entry.mark.place, entry.tally.session⟩

namespace Tally

variable (tally : Tally)

/-- A cursor of the session stands at the mark of its number. -/
theorem getElem?_session (number : Nat) :
    tally.session.cursors[number]? = tally.marks[number]?.map Mark.cursor := List.getElem?_map

/-- A new mark opens a new cursor. -/
theorem opened_session (mark : Mark) :
    tally.session.opened mark.cursor = (tally.opened mark).reply := by
  simp [Session.opened, opened, Entry.reply, session, Mark.cursor]

/-- A command does with cursors what it does with marks. -/
theorem step_session (command : Command) :
    tally.session.step command = (tally.step command).map Entry.reply := by
  cases command with
  | create source =>
      rw [Session.step, step, Option.map_map]
      exact congrArg (Option.map · _) (funext fun text => tally.opened_session (.first text))
  | clone number =>
      rw [Session.step, step, getElem?_session, Option.map_map, Option.map_map]
      exact congrArg (Option.map · _) (funext tally.opened_session)
  | act number action =>
      rw [Session.step, step, getElem?_session, Option.map_map, Option.map_map]
      refine congrArg (Option.map · _) (funext fun mark => ?_)
      simp only [Function.comp_apply, Mark.perform_cursor, Entry.reply, session, List.map_set]
      rfl
  | slice start stop =>
      rw [Session.step, step, getElem?_session, getElem?_session]
      cases tally.marks[start]? with
      | none => rfl
      | some first =>
          cases tally.marks[stop]? with
          | none => rfl
          | some second =>
              simp only [Option.map_some, Mark.sliceTo?_cursor]
              rfl

/-- A session replies what the entries of its tally tell, for any commands. -/
theorem replies_session (commands : List Command) :
    tally.session.replies commands = (tally.entries commands).map (List.map Entry.reply) := by
  induction commands generalizing tally with
  | nil => rfl
  | cons command rest ih =>
      rw [Session.replies, entries, step_session]
      cases tally.step command with
      | none => rfl
      | some entry =>
          have others : entry.reply.session.replies rest =
              (entry.tally.entries rest).map (List.map Entry.reply) := ih entry.tally
          simp only [Option.map_some, Option.bind_eq_bind, Option.bind_some, others]
          cases entry.tally.entries rest <;> rfl

/-- A command adds a mark at the beginning of a text or at another mark, or changes a mark as an
action does, or leaves all marks as they are. -/
theorem step_cases {tally : Tally} {command : Command} {entry : Entry}
    (stepped : tally.step command = some entry) :
    entry.tally.sources = tally.sources ∧
      ((∃ mark, (mark ∈ tally.marks ∨ ∃ source ∈ tally.sources, mark = .first source) ∧
          entry.tally.marks = tally.marks ++ [mark]) ∨
        (∃ number mark action, command = .act number action ∧
          tally.marks[number]? = some mark ∧
          entry.tally.marks = tally.marks.set number (mark.perform action).2) ∨
        entry.tally.marks = tally.marks) := by
  cases command with
  | create source =>
      obtain ⟨text, found, rfl⟩ := Option.map_eq_some_iff.1 stepped
      exact ⟨rfl, .inl ⟨_, .inr ⟨text, List.mem_of_getElem? found, rfl⟩, rfl⟩⟩
  | clone number =>
      obtain ⟨mark, found, rfl⟩ := Option.map_eq_some_iff.1 stepped
      exact ⟨rfl, .inl ⟨mark, .inl (List.mem_of_getElem? found), rfl⟩⟩
  | act number action =>
      obtain ⟨mark, found, rfl⟩ := Option.map_eq_some_iff.1 stepped
      exact ⟨rfl, .inr (.inl ⟨number, mark, action, rfl, found, rfl⟩)⟩
  | slice start stop =>
      rw [step] at stepped
      cases first : tally.marks[start]? with
      | none => simp [first] at stepped
      | some _ =>
          cases second : tally.marks[stop]? with
          | none => simp [first, second] at stepped
          | some _ =>
              simp only [first, second, Option.some.injEq] at stepped
              subst stepped
              exact ⟨rfl, .inr (.inr rfl)⟩

/-- All marks are in texts of the tally. -/
def Sound (tally : Tally) : Prop :=
  ∀ mark ∈ tally.marks, ∃ source ∈ tally.sources, mark.text = source.toList

/-- A mark stays in the text of a source when a command moves it or copies it. -/
theorem Sound.step {tally : Tally} (sound : tally.Sound) {command : Command} {entry : Entry}
    (stepped : tally.step command = some entry) : entry.tally.Sound := by
  obtain ⟨sources, ⟨mark, origin, marks⟩ | ⟨number, mark, action, _, found, marks⟩ | marks⟩ :=
    step_cases stepped
  · rw [Sound, sources, marks]
    refine List.forall_mem_append.2 ⟨sound, List.forall_mem_singleton.2 ?_⟩
    obtain member | ⟨source, member, rfl⟩ := origin
    · exact sound mark member
    · exact ⟨source, member, rfl⟩
  · rw [Sound, sources, marks]
    intro other member
    obtain inside | rfl := List.mem_or_eq_of_mem_set member
    · exact sound other inside
    · rw [Mark.text_perform]
      exact sound mark (List.mem_of_getElem? found)
  · rw [Sound, sources, marks]
    exact sound

/-- All entries of a run keep the sources and their marks inside of them. -/
theorem Sound.entries {tally : Tally} (sound : tally.Sound) {commands : List Command}
    {entries : List Entry} (ran : tally.entries commands = some entries) :
    ∀ entry ∈ entries, entry.tally.sources = tally.sources ∧ entry.tally.Sound := by
  induction commands generalizing tally entries with
  | nil =>
      cases ran
      exact nofun
  | cons command rest ih =>
      rw [Tally.entries] at ran
      obtain ⟨entry, stepped, ran⟩ := Option.bind_eq_some_iff.1 ran
      obtain ⟨others, later, same⟩ := Option.bind_eq_some_iff.1 ran
      cases same
      have sources := (step_cases stepped).1
      have next := sound.step stepped
      refine List.forall_mem_cons.2 ⟨⟨sources, next⟩, fun other member => ?_⟩
      obtain ⟨same, alsoSound⟩ := ih next later other member
      exact ⟨same.trans sources, alsoSound⟩

/-- If there are no marks in the beginning, all later ones are in the texts of the tally. -/
theorem exists_source {sources : List String} {commands : List Command} {entries : List Entry}
    (ran : Tally.entries ⟨sources, []⟩ commands = some entries) {entry : Entry}
    (moment : entry ∈ entries) {mark : Mark} (inside : mark ∈ entry.tally.marks) :
    ∃ source ∈ sources, mark.text = source.toList := by
  have sound : (Tally.mk sources []).Sound := nofun
  obtain ⟨same, known⟩ := sound.entries ran entry moment
  have origin := known mark inside
  rwa [same] at origin

/-- A mark stays where it is unless an action is performed on it. -/
theorem getElem?_step {tally : Tally} {command : Command} {entry : Entry}
    (stepped : tally.step command = some entry) {number : Nat} {mark : Mark}
    (found : tally.marks[number]? = some mark) (apart : ∀ action, command ≠ .act number action) :
    entry.tally.marks[number]? = some mark := by
  obtain ⟨_, ⟨other, _, marks⟩ | ⟨changed, other, action, rfl, _, marks⟩ | marks⟩ :=
    step_cases stepped
  · rw [marks, List.getElem?_append_left (List.getElem?_eq_some_iff.1 found).1, found]
  · have differs : changed ≠ number := fun same => apart action (by rw [same])
    rw [marks, List.getElem?_set_ne differs, found]
  · rw [marks, found]

end Tally

/-- A session without cursors in the beginning is one of marks. Each mark is in one of the texts,
its cursor is in front of the character that it is in front of, and commands that are not about it
leave it alone. Of two marks in a text, the one with more characters in front of it has the place
further behind. -/
theorem replies_eq_entries (sources : List String) (commands : List Command) :
    (Session.replies ⟨sources, []⟩ commands =
      (Tally.entries ⟨sources, []⟩ commands).map (List.map Entry.reply)) ∧
    (∀ entries, Tally.entries ⟨sources, []⟩ commands = some entries →
      ∀ entry ∈ entries, ∀ mark ∈ entry.tally.marks,
        (∃ source ∈ sources, mark.text = source.toList) ∧
          mark.cursor.peek? = mark.text[mark.consumed]?) ∧
    (∀ (tally : Tally) command entry, tally.step command = some entry →
      ∀ number mark, tally.marks[number]? = some mark →
        (∀ action, command ≠ .act number action) → entry.tally.marks[number]? = some mark) ∧
    (∀ one other : Mark, one.text = other.text → one.consumed < other.consumed →
      one.cursor.position.Before other.cursor.position) := by
  refine ⟨Tally.replies_session ⟨sources, []⟩ commands, ?_, ?_, ?_⟩
  · intro entries ran entry moment mark inside
    exact ⟨Tally.exists_source ran moment inside, mark.peek?_cursor⟩
  · intro tally command entry stepped number mark found apart
    exact Tally.getElem?_step stepped found apart
  · intro one other same less
    exact Mark.place_before same less

/-- The number of characters that have been read. -/
def consumed (cursor : Cursor) : Nat := cursor.source.length - cursor.rest.length

theorem skip_skip (cursor : Cursor) (count more : Nat) :
    (cursor.skip count).skip more = cursor.skip (count + more) := by
  simp only [skip, List.drop_drop, List.take_add, Position.advance_append]

/-- Where a cursor stands is told by the number of characters that it has read. -/
theorem consumed_cursor (mark : Mark) : mark.cursor.consumed = mark.consumed := by
  rw [consumed, Mark.cursor, List.length_drop]
  exact Nat.sub_sub_self mark.within

/-- The cursors of a session stand at marks in its texts. -/
theorem exists_mark_of_replies {sources : List String} {commands : List Command}
    {replies : List Reply} (ran : Session.replies ⟨sources, []⟩ commands = some replies)
    {reply : Reply} (moment : reply ∈ replies) {cursor : Cursor}
    (inside : cursor ∈ reply.session.cursors) :
    ∃ mark : Mark, (∃ source ∈ sources, mark.text = source.toList) ∧ mark.cursor = cursor := by
  have counted := Tally.replies_session ⟨sources, []⟩ commands
  obtain ⟨entries, marked, rfl⟩ := Option.map_eq_some_iff.1 (counted.symm.trans ran)
  obtain ⟨entry, member, rfl⟩ := List.mem_map.1 moment
  obtain ⟨mark, known, stands⟩ := List.mem_map.1 inside
  exact ⟨mark, Tally.exists_source marked member known, stands⟩

/-- The last cursor of a session moves on by a character. -/
theorem step_next {session : Session} {front : List Cursor} {cursor : Cursor}
    (last : session.cursors = front ++ [cursor]) :
    ∃ reply, session.step (.act front.length .next) = some reply ∧
      reply.answer = .character cursor.peek? ∧
      reply.session.cursors = front ++ [cursor.skip 1] := by
  have found : session.cursors[front.length]? = some cursor := by
    rw [last, List.getElem?_concat_length]
  have replaced : session.cursors.set front.length (cursor.skip 1) = front ++ [cursor.skip 1] := by
    rw [last, List.set_append_right _ _ (Nat.le_refl _), Nat.sub_self]
    rfl
  exact ⟨_, by rw [Session.step, found]; rfl, rfl, replaced⟩

/-- A cursor that moves on character by character answers with the characters that it passes. -/
theorem replies_next {reply : Reply} {front : List Cursor} {cursor : Cursor}
    (last : reply.session.cursors = front ++ [cursor]) {count : Nat}
    (enough : count ≤ cursor.rest.length) :
    ∃ others, reply.session.replies (List.replicate count (.act front.length .next)) = some others ∧
      others.map Reply.answer = (cursor.rest.take count).map (Answer.character ∘ some) ∧
      ((reply :: others).getLast?.map fun final => final.session.cursors) =
        some (front ++ [cursor.skip count]) := by
  induction count generalizing reply cursor with
  | zero => exact ⟨[], rfl, rfl, congrArg some last⟩
  | succ count ih =>
      obtain ⟨first, rest, more⟩ : ∃ first rest, cursor.rest = first :: rest :=
        List.exists_cons_of_length_pos (Nat.lt_of_lt_of_le (Nat.succ_pos count) enough)
      have behind : (cursor.skip 1).rest = rest := by rw [skip, more]; rfl
      have fewer : count ≤ (cursor.skip 1).rest.length := by
        rw [behind]
        exact Nat.le_of_succ_le_succ (by rwa [more] at enough)
      obtain ⟨moved, stepped, answer, advanced⟩ := step_next last
      obtain ⟨others, ran, answers, final⟩ := ih advanced fewer
      refine ⟨moved :: others, ?_, ?_, ?_⟩
      · rw [List.replicate_succ, Session.replies, stepped, Option.bind_eq_bind, Option.bind_some, ran]
        rfl
      · rw [List.map_cons, answer, answers, behind, peek?, more]
        rfl
      · rw [List.getLast?_cons_cons, final, skip_skip, Nat.add_comm]

/-- A copy of a cursor reads what is in front of another cursor of the same text, and becomes that
cursor. -/
theorem replies_clone {session : Session} {number : Nat} {start stop : Mark}
    (found : session.cursors[number]? = some start.cursor) (same : start.text = stop.text)
    (before : start.consumed ≤ stop.consumed) :
    ∃ replies, session.replies (.clone number :: List.replicate (stop.consumed - start.consumed)
        (.act session.cursors.length .next)) = some replies ∧
      replies.map Reply.answer = .nothing ::
        ((start.text.take stop.consumed).drop start.consumed).map (Answer.character ∘ some) ∧
      (replies.getLast?.map fun final => final.session.cursors) =
        some (session.cursors ++ [stop.cursor]) := by
  have enough : stop.consumed - start.consumed ≤ start.cursor.rest.length := by
    rw [Mark.cursor, List.length_drop, same]
    exact Nat.sub_le_sub_right stop.within _
  have arrives : start.cursor.skip (stop.consumed - start.consumed) = stop.cursor := by
    have there : start.move (start.consumed + (stop.consumed - start.consumed)) = stop := by
      rw [Nat.add_sub_of_le before]
      exact Mark.ext same (by rw [Mark.consumed_move, same, Nat.min_eq_left stop.within])
    rw [Mark.skip_cursor, there]
  have opened : (session.opened start.cursor).session.cursors =
      session.cursors ++ [start.cursor] := rfl
  obtain ⟨others, ran, answers, final⟩ := replies_next opened enough
  refine ⟨session.opened start.cursor :: others, ?_, ?_, ?_⟩
  · rw [Session.replies, Session.step, found, Option.map_some, Option.bind_eq_bind,
      Option.bind_some, ran]
    rfl
  · rw [List.map_cons, answers, List.drop_take]
    rfl
  · rw [final, arrives]

/-- There is no text between two cursors of a session exactly if they are in different texts or the
second one has read less. Otherwise the text is what the first has still to read on the way to the
second, as a copy of the first does character by character, and with a third cursor behind the
second it goes on up to the third. -/
theorem sliceTo?_of_replies {sources : List String} {commands : List Command} {replies : List Reply}
    (ran : Session.replies ⟨sources, []⟩ commands = some replies) {reply : Reply}
    (moment : reply ∈ replies) {number : Nat} {start stop : Cursor}
    (found : reply.session.cursors[number]? = some start) (inside : stop ∈ reply.session.cursors) :
    ((∃ source ∈ sources, start.source = source.toList) ∧
      start.rest = start.source.drop start.consumed) ∧
    (start.sliceTo? stop = none ↔ start.source ≠ stop.source ∨ stop.consumed < start.consumed) ∧
    (start.source = stop.source → start.consumed ≤ stop.consumed →
      start.sliceTo? stop =
          some (String.ofList ((start.source.take stop.consumed).drop start.consumed)) ∧
        (∃ walk, reply.session.replies (.clone number :: List.replicate
            (stop.consumed - start.consumed) (.act reply.session.cursors.length .next)) = some walk ∧
          walk.map Reply.answer = .nothing ::
            ((start.source.take stop.consumed).drop start.consumed).map (Answer.character ∘ some) ∧
          (walk.getLast?.map fun final => final.session.cursors) =
            some (reply.session.cursors ++ [stop])) ∧
        ∀ behind ∈ reply.session.cursors, stop.source = behind.source →
          stop.consumed ≤ behind.consumed →
          ∃ first second, start.sliceTo? stop = some first ∧ stop.sliceTo? behind = some second ∧
            start.sliceTo? behind = some (first ++ second)) := by
  obtain ⟨one, known, rfl⟩ := exists_mark_of_replies ran moment (List.mem_of_getElem? found)
  obtain ⟨other, -, rfl⟩ := exists_mark_of_replies ran moment inside
  simp only [consumed_cursor, Mark.sliceTo?_cursor]
  refine ⟨⟨known, rfl⟩, ?_, ?_⟩
  · exact Mark.slice?_eq_none_iff
  · intro same before
    refine ⟨if_pos ⟨same, before⟩, replies_clone found same before, ?_⟩
    intro cursor member alike further
    obtain ⟨third, -, rfl⟩ := exists_mark_of_replies ran moment member
    rw [consumed_cursor] at further
    rw [Mark.sliceTo?_cursor, Mark.sliceTo?_cursor]
    exact Mark.slice?_append same alike before further

/-- The characters of these two equal texts have one, two and four bytes. -/
theorem sliceTo?_of_replies_equalTexts :
    ∃ replies, Session.replies ⟨["é$\n😀", "é$\n😀"], []⟩
        [.create 0, .act 0 .next, .create 1, .act 1 (.nth 2)] = some replies ∧
      ∃ reply ∈ replies, ∃ start stop, reply.session.cursors = [start, stop] ∧
        start.sliceTo? stop = some "$\n" ∧ stop.sliceTo? start = none := by
  have ran : Session.replies ⟨["é$\n😀", "é$\n😀"], []⟩
      [.create 0, .act 0 .next, .create 1, .act 1 (.nth 2)] = some [_, _, _, _] := rfl
  refine ⟨_, ran, _, .tail _ (.tail _ (.tail _ (.head _))), _, _, rfl, ?_, ?_⟩
  · have ahead := @sliceTo?_of_replies _ _ _ ran _ (.tail _ (.tail _ (.tail _ (.head _)))) 0 _ _ rfl
      (.tail _ (.head _))
    exact (ahead.2.2 rfl (by decide)).1
  · have back := @sliceTo?_of_replies _ _ _ ran _ (.tail _ (.tail _ (.tail _ (.head _)))) 1 _ _ rfl
      (.head _)
    exact back.2.1.2 (.inr (by decide))

end FrontEnd.Cursor
