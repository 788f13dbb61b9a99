import Bytecode.Proofs.Stream
import Bytecode.Session
import Mathlib.Data.List.Forall2

/-!
# No answer counts as no bytes

A source that does not wait may have no answer where another one has no bytes.  Nothing that is done
with a source tells the two apart.  The proof replaces no answer by no bytes in a whole source
(`Source.answered`), and follows that replacement through reads, attempts, streams, cursors and
sessions: it commutes with each of them, so that a session over the one source goes as it goes over
the other (`Session.run_answered`).

What is left of it is that only the answers matter, not the kind of source that they come from
(`Session.no_answer_counts_as_no_bytes`).
-/

namespace Bytecode

/-! ### Sources -/

/-- The reply, with `.bytes []` in place of `.nothing`. -/
def Reply.answered : Reply → Reply
  | .nothing => .bytes []
  | reply => reply

theorem Reply.size_answered (reply : Reply) : reply.answered.size = reply.size := by
  cases reply <;> rfl

/-- Two replies that are equal, but for `.nothing` in place of `.bytes []`. -/
inductive Reply.Same : Reply → Reply → Prop where
  | refl (reply : Reply) : Same reply reply
  | emptied : Same .nothing (.bytes [])
  | withheld : Same (.bytes []) .nothing

theorem Reply.Same.answered_eq {reply reply' : Reply} (h : reply.Same reply') :
    reply.answered = reply'.answered := by
  cases h <;> rfl

namespace Source

/-- The source that has no bytes where this one has no answer.  What `answered` does to a source, it
does to whatever holds one. -/
def answered : Source → Source
  | .nonblocking rest => .reader rest
  | .script replies => .script (replies.map Reply.answered)
  | source => source

theorem read_answered (n : Nat) (s : Source) :
    s.answered.read n = ((s.read n).1.answered, (s.read n).2.answered) := by
  match s with
  | .reader _ => rfl
  | .short _ => rfl
  | .nonblocking rest =>
    have hreply : Reply.bytes (rest.take n) =
        (if (rest.take n).isEmpty then Reply.nothing else .bytes (rest.take n)).answered := by
      cases rest.take n <;> rfl
    exact Prod.ext hreply rfl
  | .greedy _ => rfl
  | .script [] => rfl
  | .script (_ :: _) => rfl

theorem supply_answered (s : Source) : s.answered.supply = s.supply := by
  cases s <;> simp [answered, supply]

end Source

/-- The reader over the source that has no bytes where this one has no answer. -/
def Reader.answered (r : Reader) : Reader :=
  { r with source := r.source.answered }

theorem Reader.read_answered (r : Reader) (n : Nat) :
    r.answered.read n = ((r.read n).1.answered, (r.read n).2.answered) := by
  simp only [read, answered, Source.read_answered, Reply.size_answered]

/-! ### Instructions and streams -/

namespace Outcome

variable {α β : Type}

/-- The outcome that leaves a reader with no bytes where this one has no answer. -/
def answered (o : Outcome α) : Outcome α :=
  { o with reader := o.reader.answered }

theorem andThen_answered {f : α → Reader → Outcome β}
    (hf : ∀ a r, f a r.answered = (f a r).answered) (o : Outcome α) :
    o.answered.andThen f = (o.andThen f).answered := by
  obtain ⟨result, reader, events⟩ := o
  cases result with
  | error e => rfl
  | ok a => simp only [answered, andThen, hf]

end Outcome

namespace Reader

/-- Only `fetch` could tell no answer from no bytes, and it does not. -/
theorem fetch_answered (r : Reader) (n : Nat) : r.answered.fetch n = (r.fetch n).answered := by
  unfold fetch
  rw [read_answered]
  obtain ⟨reply, next⟩ := r.read n
  cases reply with
  | nothing => rfl
  | bytes data =>
    dsimp only [Reply.answered]
    split <;> rfl
  | failure f =>
    dsimp only [Reply.answered]
    split <;> rfl

theorem fetchOperand_answered (r : Reader) :
    r.answered.fetchOperand = r.fetchOperand.answered := by
  unfold fetchOperand
  rw [fetch_answered]
  refine Outcome.andThen_answered ?_ _
  intro data r
  split <;> rfl

theorem finish_answered (d : Dialect) (byte : UInt8) (r : Reader) :
    finish d byte r.answered = (finish d byte r).answered := by
  rcases finish_cases d byte with ⟨-, h⟩ | ⟨_, -, -, h⟩ | ⟨_, _, _, h⟩ | ⟨_, _, _, h⟩
  · rw [h, h]
    rfl
  · rw [h, h]
    rfl
  · rw [h, h]
    rfl
  · rw [h, h, fetchOperand_answered]
    rfl

theorem decode_answered (d : Dialect) (r : Reader) :
    r.answered.decode d = (r.decode d).answered := by
  unfold decode
  rw [fetch_answered]
  refine Outcome.andThen_answered ?_ _
  intro data r
  split
  · rfl
  · exact finish_answered ..

theorem advance_answered (d : Dialect) (offset : Nat) (r : Reader) :
    r.answered.advance d offset = (r.advance d offset).answered := by
  unfold advance
  rw [fetch_answered]
  refine Outcome.andThen_answered ?_ _
  intro data r
  split
  · rfl
  · rw [finish_answered]
    rfl

theorem result_advance_answered (r : Reader) (d : Dialect) (offset : Nat) :
    (r.answered.advance d offset).result = (r.advance d offset).result := by
  rw [advance_answered]
  rfl

theorem supply_advance_answered (r : Reader) (d : Dialect) (offset : Nat) :
    (r.answered.advance d offset).reader.source.supply < r.answered.source.supply ↔
      (r.advance d offset).reader.source.supply < r.source.supply := by
  rw [advance_answered]
  show (r.advance d offset).reader.source.answered.supply < r.source.answered.supply ↔ _
  rw [Source.supply_answered, Source.supply_answered]

end Reader

/-- The run that leaves a reader with no bytes where this one has no answer. -/
def Run.answered (run : Run) : Run :=
  { run with reader := run.reader.answered }

/-- **A stream does not tell no answer from no bytes**: `resume` goes on alike over `r` and
`r.answered`. -/
theorem Run.resume_answered (d : Dialect) (offset : Nat) (r : Reader) :
    resume d offset r.answered = (resume d offset r).answered := by
  -- The induction follows the stream, which goes the same way over both readers.
  induction offset, r using resume.induct (d := d) with
  | case1 offset r o e h =>
    have hadv := (r.result_advance_answered d offset).trans h
    rw [resume_of_error hadv, resume_of_error h, Reader.advance_answered]
    rfl
  | case2 offset r o h =>
    have hadv := (r.result_advance_answered d offset).trans h
    rw [resume_of_end hadv, resume_of_end h, Reader.advance_answered]
    rfl
  | case3 offset r o i h hlt ih =>
    have hadv := (r.result_advance_answered d offset).trans h
    rw [resume_of_instruction hadv ((r.supply_advance_answered d offset).2 hlt),
      resume_of_instruction h hlt, Reader.advance_answered]
    dsimp only [Outcome.answered]
    rw [ih]
    rfl
  | case4 offset r o i h hlt =>
    have hadv := (r.result_advance_answered d offset).trans h
    have hlt' := mt (r.supply_advance_answered d offset).1 hlt
    rw [resume_of_endless hadv hlt', resume_of_endless h hlt, Reader.advance_answered]
    rfl

theorem Reader.decodeAll_answered (d : Dialect) (r : Reader) :
    r.answered.decodeAll d = (r.decodeAll d).answered := by
  have hrun : r.answered.run d = (r.run d).answered := Run.resume_answered d 0 r
  unfold decodeAll
  rw [hrun]
  rfl

/-! ### Cursors and sessions -/

/-- The input with no bytes where this one has no answer. -/
def Input.answered : Input → Input
  | .buffer data => .buffer data
  | .reader r => .reader r.answered

theorem Input.toReader_answered (input : Input) :
    input.answered.toReader = input.toReader.answered := by
  cases input <;> rfl

theorem Input.after_answered (input : Input) (r : Reader) :
    input.answered.after r.answered = (input.after r).answered := by
  cases input <;> rfl

namespace Cursor

/-- The cursor over the reader with no bytes where this one has no answer. -/
def answered (cursor : Cursor) : Cursor :=
  { cursor with own := cursor.own.map Reader.answered }

theorem new_answered (dialect : Option Dialect) (input : Input) :
    new dialect input.answered = (new dialect input).answered := by
  cases input <;> rfl

theorem Stage.advance_answered (s : Settings) (r : Reader) (stage : Stage) :
    stage.advance s r.answered = ((stage.advance s r).1.answered, (stage.advance s r).2) := by
  have hresume : ∀ d offset, resume d offset r.answered =
      ((resume d offset r).1.answered, (resume d offset r).2) := by
    intro d offset
    simp only [resume, Reader.advance_answered]
    rfl
  cases stage with
  | finished => rfl
  | running d offset => exact hresume d offset
  | waiting dialect =>
    rw [advance, advance]
    cases dialect.elim s.defaultDialect .ok with
    | error e => rfl
    | ok d => exact hresume d 0

end Cursor

namespace Session

/-- The session over the input with no bytes where this one has no answer. -/
def answered (session : Session) : Session :=
  { session with
    input := session.input.answered
    cursors := session.cursors.map fun c => (c.1, c.2.answered) }

variable (session : Session)

theorem answered_settings : session.answered.settings = session.settings := rfl

theorem answered_toReader :
    session.answered.input.toReader = session.input.toReader.answered :=
  Input.toReader_answered session.input

theorem settle_answered (o : Outcome Answer) :
    session.answered.settle o.answered = ((session.settle o).1, (session.settle o).2.answered) := by
  simp only [settle, answered, Outcome.answered, Input.after_answered]

theorem keep_answered (id : String) (cursor : Cursor) :
    session.answered.keep id cursor.answered = (session.keep id cursor).answered := by
  simp only [keep, answered, List.map_cons, List.filter_map]
  rfl

theorem lookup_answered (id : String) :
    session.answered.cursors.lookup id = (session.cursors.lookup id).map Cursor.answered := by
  have hlookup : ∀ cursors : List (String × Cursor),
      (cursors.map fun c => (c.1, c.2.answered)).lookup id =
        (cursors.lookup id).map Cursor.answered := by
    intro cursors
    induction cursors with
    | nil => rfl
    | cons c cursors ih =>
      rw [List.map_cons, List.lookup_cons, List.lookup_cons, ih]
      split <;> rfl
  exact hlookup session.cursors

theorem decodeOne_answered (d : Dialect) :
    session.answered.decodeOne d =
      ((session.decodeOne d).1, (session.decodeOne d).2.answered) := by
  obtain ⟨settings, input, cursors⟩ := session
  cases input with
  | buffer data => rfl
  | reader r =>
    show settle _ ((r.answered.decode d).map .instruction) = _
    rw [Reader.decode_answered]
    exact settle_answered _ ((r.decode d).map .instruction)

theorem advance_answered (id : String) (cursor : Cursor) :
    session.answered.advance id cursor.answered =
      ((session.advance id cursor).1, (session.advance id cursor).2.answered) := by
  obtain ⟨stage, own⟩ := cursor
  cases own with
  | some r =>
    have hnext := Cursor.Stage.advance_answered session.settings r stage
    simp only [advance, Cursor.answered, Option.map_some, answered_settings, hnext]
    obtain ⟨o, stage'⟩ := stage.advance session.settings r
    exact Prod.ext rfl (session.keep_answered id ⟨stage', some o.reader⟩)
  | none =>
    have hnext := Cursor.Stage.advance_answered session.settings session.input.toReader stage
    simp only [advance, Cursor.answered, Option.map_none, answered_settings, answered_toReader,
      hnext]
    obtain ⟨o, stage'⟩ := stage.advance session.settings session.input.toReader
    have hkeep := session.keep_answered id ⟨stage', none⟩
    have hsettle := (session.keep id ⟨stage', none⟩).settle_answered (o.map Answer.ofAdvance)
    rw [← hkeep] at hsettle
    exact hsettle

/-- **A step `s` does not tell no answer from no bytes.** -/
theorem step_answered (s : Step) :
    session.answered.step s = ((session.step s).1, (session.step s).2.answered) := by
  cases s with
  | decode choice =>
    rw [step, step, answered_settings]
    cases choice.resolve session.settings with
    | error e => rfl
    | ok d => exact decodeOne_answered ..
  | decodeStandard => exact decodeOne_answered ..
  | decodeAll choice =>
    rw [step, step, answered_settings, answered_toReader]
    cases choice.resolve session.settings with
    | error e => rfl
    | ok d =>
      dsimp only
      rw [Reader.decodeAll_answered]
      exact settle_answered session ((session.input.toReader.decodeAll d).map .instructions)
  | iterate id choice =>
    rw [step, step]
    cases choice.explicit with
    | error e => rfl
    | ok dialect =>
      have hnew : Cursor.new dialect session.answered.input =
          (Cursor.new dialect session.input).answered := Cursor.new_answered ..
      dsimp only
      rw [hnew, keep_answered]
  | advance id =>
    rw [step, step, lookup_answered]
    cases session.cursors.lookup id with
    | none => rfl
    | some cursor => exact advance_answered ..
  | configure settings => rfl

/-- Nor does `run`, whatever the `steps`. -/
theorem run_answered (steps : List Step) :
    session.answered.run steps =
      (session.run steps).map fun taken => (taken.1, taken.2.answered) := by
  induction steps generalizing session with
  | nil => rfl
  | cons s steps ih => rw [run, run, step_answered, List.map_cons, ih]

/-- What can be seen of a session: the `Report` of each step, and the account of the reads made by
then. -/
def seen (steps : List Step) : List (Report × Nat × List Nat) :=
  (session.run steps).map fun taken =>
    (taken.1, taken.2.input.toReader.consumed, taken.2.input.toReader.reads)

theorem seen_answered (steps : List Step) : session.answered.seen steps = session.seen steps := by
  unfold seen
  rw [run_answered, List.map_map]
  refine List.map_congr_left ?_
  intro taken _
  show (_, taken.2.input.answered.toReader.consumed, taken.2.input.answered.toReader.reads) = _
  rw [Input.toReader_answered]
  rfl

end Session

/-- **Kinds of source that should not matter do not.**  Two scripts `replies` and `replies'` that
differ by no answer in place of no bytes, in any places, make for sessions that nobody can tell
apart by what is `seen`: not by a result, by a fault, by a read or by an event.  And the same `data`
in a `buffer`, in a `reader` and in a reader that is `nonblocking` are decoded by `decodeAll` to the
same instructions or the same fault, with the same events. -/
theorem Session.no_answer_counts_as_no_bytes {replies replies' : List Reply}
    (h : List.Forall₂ Reply.Same replies replies') (settings : Settings) (steps : List Step) :
    (start settings (.reader (.ofSource (.script replies)))).seen steps =
      (start settings (.reader (.ofSource (.script replies')))).seen steps ∧
    ∀ (d : Dialect) (data : List UInt8) (input : Input),
      input ∈ [.buffer data, .reader (.ofSource (.reader data)),
        .reader (.ofSource (.nonblocking data))] →
      (input.toReader.decodeAll d).result = ((Reader.ofBytes data).decodeAll d).result ∧
        (input.toReader.decodeAll d).events = ((Reader.ofBytes data).decodeAll d).events := by
  refine ⟨?_, ?_⟩
  · have hreplies : replies.map Reply.answered = replies'.map Reply.answered := by
      induction h with
      | nil => rfl
      | cons hsame _ ih => rw [List.map_cons, List.map_cons, hsame.answered_eq, ih]
    have hanswered : (start settings (.reader (.ofSource (.script replies)))).answered =
        (start settings (.reader (.ofSource (.script replies')))).answered := by
      show start settings (.reader (.ofSource (.script (replies.map Reply.answered)))) = _
      rw [hreplies]
      rfl
    rw [← seen_answered, hanswered, seen_answered]
  · intro d data input hinput
    simp only [List.mem_cons, List.not_mem_nil, or_false] at hinput
    rcases hinput with rfl | rfl | rfl
    · exact ⟨rfl, rfl⟩
    · exact ⟨rfl, rfl⟩
    · have hall : (Reader.ofBytes data).decodeAll d =
          ((Reader.ofSource (.nonblocking data)).decodeAll d).answered :=
        Reader.decodeAll_answered d (.ofSource (.nonblocking data))
      rw [hall]
      exact ⟨rfl, rfl⟩

/-- The replies `.nothing` and `.bytes []` trade places at the opcode of a single instruction and of
a cursor, and at the operand of a single instruction and of a whole stream. -/
theorem Session.no_answer_counts_as_no_bytes_by_turns :
    let replies : List Reply :=
      [.nothing, .bytes [100], .bytes [], .bytes [9], .nothing, .bytes [100], .bytes []]
    let replies' : List Reply :=
      [.bytes [], .bytes [100], .nothing, .bytes [9], .bytes [], .bytes [100], .nothing]
    let steps : List Step :=
      [.decodeStandard, .decode (.named "py39"), .iterate "a" .default, .advance "a", .advance "a",
        .decodeAll (.given .python27)]
    replies ≠ replies' ∧ List.Forall₂ Reply.Same replies replies' ∧
    (start .unset (.reader (.ofSource (.script replies)))).seen steps =
      (start .unset (.reader (.ofSource (.script replies')))).seen steps := by
  intro replies replies' steps
  have hsame : List.Forall₂ Reply.Same replies replies' :=
    .cons .emptied <| .cons (.refl _) <| .cons .withheld <| .cons (.refl _) <| .cons .emptied <|
      .cons (.refl _) <| .cons .withheld .nil
  exact ⟨by decide, hsame, (no_answer_counts_as_no_bytes hsame .unset steps).1⟩

end Bytecode
