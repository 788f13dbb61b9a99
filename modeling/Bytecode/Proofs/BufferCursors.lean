import Bytecode.Proofs.CursorLife
import Bytecode.Proofs.PlainBytes
import Mathlib.Data.List.TakeDrop

/-!
# Cursors over a buffer

Each cursor over a buffer reads it on its own, from the beginning.  So it does not matter what is
done with the buffer between two uses of the cursor: call by call it brings what a run over the
buffer has brought in one go, and then nothing any more (`buffer_cursors_apart`).

A cursor is compared with what its run has left to bring (`Cursor.Faces`): to advance it brings the
first of that and leaves the rest.
-/

namespace Bytecode

open Session (Report Answer)

/-! ### What a run brings, call by call -/

/-- The reports of a cursor that goes through `run`: one for each instruction, and one for the
`ending`. -/
def Run.answers (run : Run) : List Report :=
  run.instructions.map (fun i => .silent (.ok (.instruction i))) ++
    [⟨run.ending.map Answer.ofAdvance, run.events⟩]

/-- A cursor with a reader of its `own` has these reports left to bring. -/
inductive Cursor.Faces : Cursor → List Report → Prop where
  | running (d : Dialect) (offset : Nat) (rest : List UInt8) (consumed : Nat) (reads : List Nat) :
      Faces ⟨.running d offset, some ⟨.reader rest, consumed, reads⟩⟩
        (Run.resume d offset ⟨.reader rest, consumed, reads⟩).answers
  | finished (r : Reader) : Faces ⟨.finished, some r⟩ []

/-- **One step of `resume` brings the first report of its run**, and leaves the others. -/
theorem Cursor.faces_resume (d : Dialect) (offset : Nat) (rest : List UInt8) (consumed : Nat)
    (reads : List Nat) :
    let next := Stage.resume d offset ⟨.reader rest, consumed, reads⟩
    ∃ later, (Run.resume d offset ⟨.reader rest, consumed, reads⟩).answers =
        ⟨next.1.result.map Answer.ofAdvance, next.1.events⟩ :: later ∧
      Faces ⟨next.2, some next.1.reader⟩ later := by
  obtain ⟨span, left, result, rfl, hhead⟩ := d.exists_head rest
  obtain ⟨reads', events, hadv⟩ := Reader.advance_head hhead offset consumed reads
  dsimp only [Stage.resume]
  match result with
  | .error e =>
    rw [Run.resume_of_error (by rw [hadv]), hadv]
    exact ⟨[], rfl, .finished _⟩
  | .ok none =>
    rw [Run.resume_of_end (by rw [hadv]), hadv]
    exact ⟨[], rfl, .finished _⟩
  | .ok (some i) =>
    -- An instruction is read silently, so the events of the run are those of the rest.
    obtain ⟨hd, he⟩ := hhead.encode
    obtain ⟨reads', hadv⟩ := Reader.advance_encoded hd he offset left consumed reads
    have hspan := Instruction.length_of_encode he
    have hpos := i.size_pos
    have hlt : (Source.reader left).supply < (Source.reader (span ++ left)).supply := by
      simp only [Source.supply, List.length_append]
      omega
    rw [Run.resume_of_instruction (by rw [hadv]) (by rw [hadv]; exact hlt), hadv]
    exact ⟨_, rfl, .running d (offset + i.size) left (consumed + span.length) reads'⟩

namespace Session

variable {session : Session} {id : String}

theorem length_reportsOf (id : String) (session : Session) (steps : List Step) :
    (session.reportsOf id steps).length = steps.countP (·.advances id) := by
  induction steps generalizing session with
  | nil => rfl
  | cons s steps ih =>
    by_cases hs : s.advances id = true
    · obtain rfl := Step.advances_iff.1 hs
      rw [reportsOf_advance, List.length_cons, ih, List.countP_cons_of_pos hs]
    · rw [reportsOf_other (Bool.eq_false_iff.2 hs), ih, List.countP_cons_of_neg hs]

/-- To advance a cursor whose `stage` goes on as `resume` brings the first report of the run. -/
theorem step_resume {stage : Cursor.Stage} {d : Dialect} {offset : Nat} {rest : List UInt8}
    {consumed : Nat} {reads : List Nat}
    (hlookup : session.cursors.lookup id = some ⟨stage, some ⟨.reader rest, consumed, reads⟩⟩)
    (hstage : ∀ r, stage.advance session.settings r = Cursor.Stage.resume d offset r) :
    ∃ later, (Run.resume d offset ⟨.reader rest, consumed, reads⟩).answers =
        (session.step (.advance id)).1 :: later ∧
      ∃ next, (session.step (.advance id)).2.cursors.lookup id = some next ∧ next.Faces later := by
  obtain ⟨later, hanswers, hfaces⟩ := Cursor.faces_resume d offset rest consumed reads
  refine ⟨later, ?_, _, ?_, hfaces⟩
  · rw [hanswers, step_advance hlookup, report_advance, hstage]
    rfl
  · rw [step_advance hlookup, lookup_advance, hstage]
    rfl

/-- To advance a cursor brings the first of the `answers` that it faces, or the end if there is
none. -/
theorem step_faces {cursor : Cursor} {answers : List Report}
    (hlookup : session.cursors.lookup id = some cursor) (h : cursor.Faces answers) :
    (session.step (.advance id)).1 = answers.head?.getD (.silent (.ok .finished)) ∧
      ∃ next, (session.step (.advance id)).2.cursors.lookup id = some next ∧
        next.Faces answers.tail := by
  cases h with
  | running d offset rest consumed reads =>
    obtain ⟨later, hanswers, hnext⟩ := step_resume hlookup fun _ => rfl
    rw [hanswers]
    exact ⟨rfl, hnext⟩
  | finished r =>
    rw [step_advance hlookup, report_advance, lookup_advance]
    exact ⟨rfl, _, rfl, .finished r⟩

/-- A cursor brings the `answers` that it faces, whatever other `steps` there are in between, and
the end for ever after. -/
theorem reportsOf_faces {cursor : Cursor} {answers : List Report} {steps : List Step}
    (hlookup : session.cursors.lookup id = some cursor) (h : cursor.Faces answers)
    (hmake : ∀ s ∈ steps, s.remakes id = false) :
    session.reportsOf id steps =
      answers.takeD (steps.countP (·.advances id)) (.silent (.ok .finished)) := by
  induction steps generalizing session cursor answers with
  | nil => rfl
  | cons s steps ih =>
    have hlater : ∀ t ∈ steps, t.remakes id = false :=
      fun t ht => hmake t (List.mem_cons_of_mem _ ht)
    by_cases hs : s.advances id = true
    · obtain rfl := Step.advances_iff.1 hs
      obtain ⟨hreport, next, hnext, hfaces⟩ := step_faces hlookup h
      rw [reportsOf_advance, List.countP_cons_of_pos hs, List.takeD_succ, hreport,
        ih hnext hfaces hlater]
    · have hother := Bool.eq_false_iff.2 hs
      have hsame := session.lookup_step hother (hmake s (List.mem_cons_self ..))
      rw [reportsOf_other hother, List.countP_cons_of_neg hs]
      exact ih (hsame.trans hlookup) h hlater

/-! ### Whole sessions -/

/-- **Cursors over a buffer do not interfere.**  Whatever was done with the buffer `before` the
cursor `id` was `made` on it, and whatever other `steps` there are between those that advance it,
its reports are the `answers` of a run over the `data` with its dialect `d`, as many as were asked
for and then the end again and again.  And a stream that is decoded as a `whole` at any point gives
what it gives `alone`. -/
theorem buffer_cursors_apart (settings : Settings) (data : List UInt8) (before : List Step)
    (id : String) (choice : Dialect.Choice) (steps : List Step)
    (hmade : choice.explicit.isOk = true) (hsteps : ∀ s ∈ steps, s.remakes id = false) :
    let session := (Session.start settings (.buffer data)).last before
    let made := (session.step (.iterate id choice)).2
    (∀ d, choice.resolve (made.last (beforeUse id steps)).settings = .ok d →
      made.reportsOf id steps =
        ((Reader.ofBytes data).run d).answers.takeD (steps.countP (·.advances id))
          (.silent (.ok .finished))) ∧
    (∀ (whole : Dialect.Choice) (d : Dialect), whole.resolve session.settings = .ok d →
      let alone := (Reader.ofBytes data).decodeAll d
      (session.step (.decodeAll whole)).1 = ⟨alone.result.map .instructions, alone.events⟩) := by
  intro session made
  have hinput : session.input = .buffer data := by
    obtain ⟨r, hr⟩ := (Session.start settings (.buffer data)).input_last before
    exact hr
  refine ⟨?_, ?_⟩
  · intro d hd
    obtain ⟨dialect, hdialect⟩ := Dialect.Choice.exists_explicit hmade
    have hnew : made.cursors.lookup id = some ⟨.waiting dialect, some (.ofBytes data)⟩ := by
      rw [lookup_iterate hdialect, hinput]
      rfl
    have hcount := length_reportsOf id made steps
    obtain ⟨hlookup, ⟨-, hnone⟩ | ⟨later, hlater, -, hmore⟩⟩ := made.first_use hsteps
    · rw [hnone] at hcount ⊢
      rw [← hcount]
      rfl
    · obtain ⟨answers, hanswers, next, hnext, hfaces⟩ :=
        step_resume (hlookup.trans hnew) (Cursor.Stage.advance_waiting hdialect hd)
      replace hanswers : ((Reader.ofBytes data).run d).answers = _ := hanswers
      rw [hmore, List.length_cons, length_reportsOf] at hcount
      rw [hmore, ← hcount, List.takeD_succ, hanswers, reportsOf_faces hnext hfaces hlater]
      rfl
  · intro whole d hd
    rw [step, hd, hinput]
    rfl

/-- A cursor of each shipped dialect and a stream as a whole take turns on bytes that the dialects
read differently: byte 89 is `BUILD_CLASS` in `python27` and `POP_EXCEPT` in `python39`. -/
theorem buffer_cursors_apart_by_turns :
    let steps : List Step :=
      [.iterate "b" (.given .python39), .advance "a", .advance "b", .decodeAll (.named "py39"),
        .advance "b", .advance "a", .configure ⟨some "py39", none, none⟩, .advance "a",
        .advance "a"]
    let made := ((Session.start .unset (.buffer [9, 89, 9])).step (.iterate "a" .default)).2
    (∀ s ∈ steps, s.remakes "a" = false) ∧
      made.reportsOf "a" steps =
        ((Reader.ofBytes [9, 89, 9]).run .python27).answers.takeD 4 (.silent (.ok .finished)) := by
  intro steps made
  have hsteps : ∀ s ∈ steps, s.remakes "a" = false := by decide
  refine ⟨hsteps, ?_⟩
  exact (buffer_cursors_apart .unset [9, 89, 9] [] "a" .default steps rfl hsteps).1 .python27
    (by decide)

end Session

end Bytecode
