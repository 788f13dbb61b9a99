import Bytecode.Cursor

/-!
# Sessions

A session is a number of uses of one input: single instructions, whole streams and cursors, in any
order, with changes of the settings in between.
-/

namespace Bytecode

/-- An `input` in use, the `cursors` made on it and the `settings` in force. -/
structure Session where
  settings : Settings
  input : Input
  /-- The cursors by name, the latest first. -/
  cursors : List (String × Cursor)

namespace Session

/-- One use of the input, or a change of the settings. -/
inductive Step where
  /-- Decode one instruction of the dialect of `choice`. -/
  | decode (choice : Dialect.Choice)
  /-- Decode one instruction of `Dialect.standard`. -/
  | decodeStandard
  /-- Decode a stream of the dialect of `choice` as a whole. -/
  | decodeAll (choice : Dialect.Choice)
  /-- Make a cursor and keep it under `id`, in place of any other. -/
  | iterate (id : String) (choice : Dialect.Choice)
  /-- Advance the cursor kept under `id`. -/
  | advance (id : String)
  /-- Put other `settings` in force. -/
  | configure (settings : Settings)

/-- The answer to a `Step`. -/
inductive Answer where
  | done
  | instruction (i : Instruction)
  | instructions (is : List Instruction)
  /-- The cursor has come to its end. -/
  | finished

/-- The `Answer` to a step or the fault of it, with the events on the way. -/
abbrev Report := Traced Answer

/-- A session on `input` before its first step. -/
def start (settings : Settings) (input : Input) : Session :=
  ⟨settings, input, []⟩

/-- The answer for a cursor that was advanced: an instruction, or `finished` if there is none. -/
def Answer.ofAdvance : Option Instruction → Answer
  | some i => .instruction i
  | none => .finished

/-- A step that fails by `e` and changes nothing. -/
def refuse (session : Session) (e : Fault) : Report × Session :=
  (.silent (.error e), session)

/-- A step that used the shared reader and came to `o`. -/
def settle (session : Session) (o : Outcome Answer) : Report × Session :=
  (⟨o.result, o.events⟩, { session with input := session.input.after o.reader })

/-- Decodes one instruction of `d` from the shared reader.  A `buffer` is none. -/
def decodeOne (session : Session) (d : Dialect) : Report × Session :=
  match session.input with
  | .buffer _ => session.refuse .notReader
  | .reader r => session.settle ((r.decode d).map .instruction)

/-- Keeps `cursor` under `id`, in place of any other. -/
def keep (session : Session) (id : String) (cursor : Cursor) : Session :=
  { session with cursors := (id, cursor) :: session.cursors.filter (·.1 ≠ id) }

/-- Advances `cursor` over its own reader or the shared one by `Cursor.Stage.advance`, and keeps it
under `id`. -/
def advance (session : Session) (id : String) (cursor : Cursor) : Report × Session :=
  match cursor.own with
  | some r =>
    let next := cursor.stage.advance session.settings r
    (⟨next.1.result.map Answer.ofAdvance, next.1.events⟩,
      session.keep id ⟨next.2, some next.1.reader⟩)
  | none =>
    let next := cursor.stage.advance session.settings session.input.toReader
    (session.keep id ⟨next.2, none⟩).settle (next.1.map Answer.ofAdvance)

/-- Takes one step from `session`. -/
def step (session : Session) : Step → Report × Session
  | .decode choice =>
    match choice.resolve session.settings with
    | .error e => session.refuse e
    | .ok d => session.decodeOne d
  | .decodeStandard => session.decodeOne .standard
  | .decodeAll choice =>
    match choice.resolve session.settings with
    | .error e => session.refuse e
    | .ok d => session.settle ((session.input.toReader.decodeAll d).map .instructions)
  | .iterate id choice =>
    match choice.explicit with
    | .error e => session.refuse e
    | .ok dialect =>
      (.silent (.ok .done), session.keep id (.new dialect session.input))
  | .advance id =>
    match session.cursors.lookup id with
    | none => session.refuse (.unknownName id)
    | some cursor => session.advance id cursor
  | .configure settings => (.silent (.ok .done), { session with settings := settings })

/-- Takes steps in order, each by `step`.  Each report comes with the session after its step. -/
def run (session : Session) : List Step → List (Report × Session)
  | [] => []
  | s :: rest =>
    let taken := session.step s
    taken :: taken.2.run rest

end Session
end Bytecode
