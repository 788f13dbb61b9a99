import Bytecode.Proofs.SessionSteps
import Mathlib.Data.List.Basic

/-!
# The life of a cursor

A cursor waits until it is first advanced.  Then it gets its dialect, from its caller or, if that
left it open, from the settings in force at this moment, and keeps it: from then on it is a stream
of that dialect (`Session.Decodes`), whatever becomes of the settings and whatever else is done with
the input in between.  The first time that it brings no instruction, be it for a fault or because
the stream has ended, it is finished, and a finished cursor does nothing any more (`Session.Inert`).

So all that a cursor does is settled by the settings at its first use and by what it brought before
(`dialect_fixed_at_first_use`).  The proof follows the stage of the cursor (`Session.Stands`)
through the steps of its life.
-/

namespace Bytecode

namespace Dialect.Choice

/-- Whether the caller chooses the dialect, rather than leave it to the settings. -/
def isExplicit : Choice → Bool
  | .default => false
  | .named _ => true
  | .given _ => true

theorem resolve_of_isExplicit {c : Choice} (h : c.isExplicit = true) (s s' : Settings) :
    c.resolve s = c.resolve s' := by
  cases c with
  | default => cases h
  | named name => rfl
  | given d => rfl

theorem exists_explicit {c : Choice} (h : c.explicit.isOk = true) :
    ∃ dialect, c.explicit = .ok dialect := by
  cases hc : c.explicit with
  | error e =>
    rw [hc] at h
    cases h
  | ok dialect => exact ⟨dialect, rfl⟩

/-- What `c` comes to by `resolve` is the `dialect` that it gives, or else the default one of the
settings `s`. -/
theorem resolve_eq_elim {c : Choice} {dialect : Option Dialect} (h : c.explicit = .ok dialect)
    (s : Settings) : c.resolve s = dialect.elim s.defaultDialect .ok := by
  cases c with
  | default =>
    obtain rfl := Except.ok.inj h
    rfl
  | named name =>
    rw [explicit] at h
    rw [resolve]
    cases hnamed : Dialect.named name with
    | error e =>
      rw [hnamed] at h
      cases h
    | ok d =>
      rw [hnamed] at h
      obtain rfl := Except.ok.inj h
      rfl
  | given d =>
    obtain rfl := Except.ok.inj h
    rfl

end Dialect.Choice

/-- A cursor that is `waiting` goes on as a stream of its dialect `d` does from the beginning. -/
theorem Cursor.Stage.advance_waiting {c : Dialect.Choice} {dialect : Option Dialect} {d : Dialect}
    {s : Settings} (hc : c.explicit = .ok dialect) (hd : c.resolve s = .ok d) (r : Reader) :
    (waiting dialect).advance s r = resume d 0 r := by
  rw [Dialect.Choice.resolve_eq_elim hc] at hd
  rw [advance, hd]

/-- A cursor on a `buffer` has a reader of its `own`. -/
def Cursor.Fits (cursor : Cursor) (input : Input) : Prop :=
  ∀ data, input = .buffer data → cursor.own.isSome = true

theorem Cursor.fits_after {cursor : Cursor} {input : Input} (r : Reader) :
    cursor.Fits (input.after r) ↔ cursor.Fits input := by
  cases input with
  | buffer data => rfl
  | reader r' => simp [Fits, Input.after]

theorem Cursor.fits_new (dialect : Option Dialect) (input : Input) :
    (Cursor.new dialect input).Fits input := by
  rintro data rfl
  rfl

namespace Session

/-! ### What can be seen of a cursor -/

/-- The instruction that a `report` brings, if it brings one. -/
def Report.instruction? (report : Report) : Option Instruction :=
  match report.result with
  | .ok (.instruction i) => some i
  | _ => none

/-- Each of the `reports` brings an instruction. -/
def Ongoing (reports : List Report) : Prop :=
  ∀ report ∈ reports, report.instruction?.isSome = true

instance : DecidablePred Ongoing := fun reports =>
  inferInstanceAs (Decidable (∀ report ∈ reports, report.instruction?.isSome = true))

/-- The number of bytes that encode the instructions of the `reports`. -/
def decodedSize (reports : List Report) : Nat :=
  (reports.filterMap Report.instruction?).foldr (fun i size => i.size + size) 0

/-- The reader of the cursor of the name `id`. -/
def readerOf (session : Session) (id : String) : Option Reader :=
  (session.cursors.lookup id).map (·.reader session.input)

/-- To advance the cursor `id` is to decode the instruction of `d` that stands at `offset`, as a
stream does: the report is that of the stream, and so are the reads. -/
def Decodes (session : Session) (id : String) (d : Dialect) (offset : Nat) : Prop :=
  ∃ r, session.readerOf id = some r ∧
    (session.step (.advance id)).1 =
      ⟨(r.advance d offset).result.map Answer.ofAdvance, (r.advance d offset).events⟩ ∧
    (session.step (.advance id)).2.readerOf id = some (r.advance d offset).reader

/-- To advance the cursor `id` fails with `e`, before anything is read and without an event. -/
def Refuses (session : Session) (id : String) (e : Fault) : Prop :=
  (session.step (.advance id)).1 = .silent (.error e) ∧
    (session.step (.advance id)).2.input = session.input ∧
    (session.step (.advance id)).2.readerOf id = session.readerOf id

/-- To advance the cursor `id` says that it is `finished`, and that is all: nothing is read, nothing
is logged and nothing changes. -/
def Inert (session : Session) (id : String) : Prop :=
  (session.step (.advance id)).1 = .silent (.ok .finished) ∧
    (session.step (.advance id)).2.settings = session.settings ∧
    (session.step (.advance id)).2.input = session.input ∧
    ∀ other, (session.step (.advance id)).2.cursors.lookup other = session.cursors.lookup other

theorem ongoing_cons {report : Report} {reports : List Report} :
    Ongoing (report :: reports) ↔ report.instruction?.isSome = true ∧ Ongoing reports :=
  List.forall_mem_cons

theorem decodedSize_cons {report : Report} {i : Instruction} (h : report.instruction? = some i)
    (reports : List Report) : decodedSize (report :: reports) = i.size + decodedSize reports := by
  rw [decodedSize, List.filterMap_cons_some h, List.foldr_cons]
  rfl

/-- The stage of a cursor of the dialect `d` that decoded at `offset`, by the `report` on it. -/
def stageAfter (d : Dialect) (offset : Nat) (report : Report) : Cursor.Stage :=
  match report.instruction? with
  | some i => .running d (offset + i.size)
  | none => .finished

theorem stageAfter_eq (d : Dialect) (offset : Nat) (result : Except Fault (Option Instruction))
    (events : List Event) :
    stageAfter d offset ⟨result.map Answer.ofAdvance, events⟩ =
      Cursor.Stage.after d offset result := by
  match result with
  | .error e => rfl
  | .ok none => rfl
  | .ok (some i) => rfl

/-! ### One step of the life of a cursor -/

/-- There is a cursor of the name `id`, and it has come to `stage`. -/
def Stands (session : Session) (id : String) (stage : Cursor.Stage) : Prop :=
  ∃ cursor, session.cursors.lookup id = some cursor ∧ cursor.stage = stage ∧
    cursor.Fits session.input

namespace Stands

variable {session : Session} {id : String} {stage : Cursor.Stage} {d : Dialect} {offset : Nat}

theorem iterate {choice : Dialect.Choice} {dialect : Option Dialect}
    (h : choice.explicit = .ok dialect) (session : Session) (id : String) :
    (session.step (.iterate id choice)).2.Stands id (.waiting dialect) := by
  obtain ⟨r, hinput⟩ := session.input_step (.iterate id choice)
  refine ⟨_, lookup_iterate h session id, rfl, ?_⟩
  rw [hinput, Cursor.fits_after]
  exact Cursor.fits_new dialect session.input

/-- The stage does not change as long as the cursor `id` is left alone. -/
theorem unchanged {later : Session} (h : session.Stands id stage)
    (hlookup : later.cursors.lookup id = session.cursors.lookup id)
    (hinput : ∃ r, later.input = session.input.after r) : later.Stands id stage := by
  obtain ⟨cursor, hcursor, hstage, hfits⟩ := h
  obtain ⟨r, hr⟩ := hinput
  refine ⟨cursor, hlookup.trans hcursor, hstage, ?_⟩
  rw [hr, Cursor.fits_after]
  exact hfits

theorem other {s : Step} (h : session.Stands id stage) (hadv : s.advances id = false)
    (hmake : s.remakes id = false) : (session.step s).2.Stands id stage :=
  h.unchanged (session.lookup_step hadv hmake) (session.input_step s)

/-- **To advance a cursor is to advance its `stage` over its reader.** -/
theorem advance (h : session.Stands id stage) :
    ∃ r, session.readerOf id = some r ∧
      let next := stage.advance session.settings r
      (session.step (.advance id)).1 =
        ⟨next.1.result.map Answer.ofAdvance, next.1.events⟩ ∧
      (session.step (.advance id)).2.readerOf id = some next.1.reader ∧
      (session.step (.advance id)).2.Stands id next.2 := by
  obtain ⟨⟨stage, own⟩, hlookup, rfl, hfits⟩ := h
  refine ⟨_, by rw [readerOf, hlookup]; rfl, ?_⟩
  rw [step_advance hlookup]
  refine ⟨report_advance .., ?_, _, lookup_advance .., rfl, ?_⟩
  · rw [readerOf, lookup_advance]
    cases own with
    | some r => rfl
    | none =>
      -- The reader is shared, so the input is no buffer.
      cases hinput : session.input with
      | buffer data => cases hfits data hinput
      | reader r =>
        simp only [Session.advance, settle, keep, hinput]
        rfl
  · obtain ⟨r, hinput⟩ := session.input_advance id ⟨stage, own⟩
    rw [hinput, Cursor.fits_after]
    intro data hdata
    rw [Option.isSome_map]
    exact hfits data hdata

/-- A cursor that goes on as `resume` decodes, and is at the next instruction or finished then, as
`stageAfter` says. -/
theorem resume (h : session.Stands id stage)
    (hstage : ∀ r, stage.advance session.settings r = Cursor.Stage.resume d offset r) :
    session.Decodes id d offset ∧
      (session.step (.advance id)).2.Stands id
        (stageAfter d offset (session.step (.advance id)).1) := by
  obtain ⟨r, hr, hreport, hreader, hstands⟩ := h.advance
  rw [hstage] at hreport hreader hstands
  refine ⟨⟨r, hr, hreport, hreader⟩, ?_⟩
  rw [hreport, stageAfter_eq]
  exact hstands

theorem refuses {dialect : Option Dialect} {e : Fault} (h : session.Stands id (.waiting dialect))
    (he : dialect.elim session.settings.defaultDialect .ok = .error e) :
    session.Refuses id e ∧ (session.step (.advance id)).2.Stands id .finished := by
  have hstage : ∀ r, (Cursor.Stage.waiting dialect).advance session.settings r =
      (.fail e r [], .finished) := by
    intro r
    rw [Cursor.Stage.advance, he]
  have hinput : (session.step (.advance id)).2.input = session.input := by
    obtain ⟨⟨_, own⟩, hlookup, rfl, -⟩ := h
    rw [step_advance hlookup]
    cases own with
    | some r => rfl
    | none =>
      rw [Session.advance]
      dsimp only
      rw [hstage]
      exact session.input.after_toReader
  obtain ⟨r, hr, hreport, hreader, hstands⟩ := h.advance
  rw [hstage] at hreport hreader hstands
  exact ⟨⟨hreport, hinput, hreader.trans hr.symm⟩, hstands⟩

theorem inert (h : session.Stands id .finished) : session.Inert id := by
  obtain ⟨⟨_, own⟩, hlookup, rfl, -⟩ := h
  rw [Inert, step_advance hlookup]
  refine ⟨report_advance .., ?_, ?_, ?_⟩
  · cases own <;> rfl
  · cases own with
    | some r => rfl
    | none => exact session.input.after_toReader
  · intro other
    by_cases hother : id = other
    · rw [← hother, lookup_advance, hlookup]
      cases own <;> rfl
    · exact lookup_advance_of_ne hother ..

/-! ### All the steps of its life -/

/-- A `finished` cursor stays finished. -/
theorem last_finished {steps : List Step} (h : session.Stands id .finished)
    (hmake : ∀ s ∈ steps, s.remakes id = false) : (session.last steps).Stands id .finished := by
  induction steps generalizing session with
  | nil => exact h
  | cons s steps ih =>
    rw [last_cons]
    refine ih ?_ fun t ht => hmake t (List.mem_cons_of_mem _ ht)
    by_cases hs : s.advances id = true
    · obtain rfl := Step.advances_iff.1 hs
      obtain ⟨_, -, -, -, hstands⟩ := h.advance
      exact hstands
    · exact h.other (Bool.eq_false_iff.2 hs) (hmake s (List.mem_cons_self ..))

/-- A cursor that was used goes on as long as it is `Ongoing`, and each instruction moves it on by
its size.  From then on it is finished. -/
theorem last_used {report : Report} {later : List Step}
    (h : session.Stands id (stageAfter d offset report))
    (hmake : ∀ s ∈ later, s.remakes id = false) :
    let reports := report :: session.reportsOf id later
    (Ongoing reports → (session.last later).Stands id (.running d (offset + decodedSize reports))) ∧
    (¬ Ongoing reports → (session.last later).Stands id .finished) := by
  -- Over the steps that are left, each of which may bring the next report.
  induction later generalizing session report offset with
  | nil =>
    dsimp only
    rw [reportsOf_nil, ongoing_cons, last_nil]
    cases hi : report.instruction? with
    | none =>
      rw [stageAfter, hi] at h
      exact ⟨fun hon => absurd hon.1 (by simp), fun _ => h⟩
    | some i =>
      rw [stageAfter, hi] at h
      rw [decodedSize_cons hi]
      exact ⟨fun _ => h, fun hnot => absurd ⟨rfl, by simp [Ongoing]⟩ hnot⟩
  | cons s later ih =>
    have hlater : ∀ t ∈ later, t.remakes id = false :=
      fun t ht => hmake t (List.mem_cons_of_mem _ ht)
    rw [last_cons]
    by_cases hs : s.advances id = true
    · obtain rfl := Step.advances_iff.1 hs
      dsimp only
      rw [reportsOf_advance, ongoing_cons]
      cases hi : report.instruction? with
      | none =>
        rw [stageAfter, hi] at h
        obtain ⟨_, -, -, -, hfinished⟩ := h.advance
        exact ⟨fun hon => absurd hon.1 (by simp), fun _ => hfinished.last_finished hlater⟩
      | some i =>
        rw [stageAfter, hi] at h
        obtain ⟨hgoes, hends⟩ := ih (h.resume fun _ => rfl).2 hlater
        rw [decodedSize_cons hi, ← Nat.add_assoc]
        exact ⟨fun hon => hgoes hon.2, fun hnot => hends fun hon => hnot ⟨rfl, hon⟩⟩
    · have hother := Bool.eq_false_iff.2 hs
      rw [reportsOf_other hother]
      exact ih (h.other hother (hmake s (List.mem_cons_self ..))) hlater

end Stands

/-! ### Steps that name their dialect -/

/-- Whether a step says itself which dialect it is about. -/
def Step.isExplicit : Step → Bool
  | .decode choice => choice.isExplicit
  | .decodeStandard => true
  | .decodeAll choice => choice.isExplicit
  | .iterate _ choice => choice.isExplicit
  | .advance _ => false
  | .configure _ => false

theorem decodeOne_with_settings (session : Session) (settings : Settings) (d : Dialect) :
    { session with settings := settings }.decodeOne d =
      ((session.decodeOne d).1, { (session.decodeOne d).2 with settings := settings }) := by
  obtain ⟨_, input, _⟩ := session
  cases input <;> rfl

/-- A step `s` that is explicit does the same whatever the `settings`. -/
theorem step_with_settings {s : Step} (hs : s.isExplicit = true) (session : Session)
    (settings : Settings) :
    { session with settings := settings }.step s =
      ((session.step s).1, { (session.step s).2 with settings := settings }) := by
  cases s with
  | decode choice =>
    rw [step, step, Dialect.Choice.resolve_of_isExplicit hs settings session.settings]
    split
    · rfl
    · exact decodeOne_with_settings ..
  | decodeStandard => exact decodeOne_with_settings ..
  | decodeAll choice =>
    rw [step, step, Dialect.Choice.resolve_of_isExplicit hs settings session.settings]
    split <;> rfl
  | iterate id choice =>
    rw [step, step]
    split <;> rfl
  | advance id => cases hs
  | configure settings => cases hs

/-! ### The whole life -/

/-- A `choice` that could be made but comes to nothing was left to `settings` that name no
dialect. -/
theorem unknown_of_resolve {choice : Dialect.Choice} {dialect : Option Dialect}
    {settings : Settings} {e : Fault} (hmade : choice.explicit = .ok dialect)
    (he : choice.resolve settings = .error e) :
    e = .unknownDialect settings.dialectName (Dialect.registry.map (·.1)) := by
  rw [Dialect.Choice.resolve_eq_elim hmade] at he
  cases dialect with
  | some d => cases he
  | none =>
    replace he : Dialect.named settings.dialectName = .error e := he
    unfold Dialect.named at he
    split at he
    · cases he
    · exact (Except.error.inj he).symm

end Session
end Bytecode
