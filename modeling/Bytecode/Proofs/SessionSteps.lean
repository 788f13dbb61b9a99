import Bytecode.Session

/-!
# What the steps of a session leave alone

A session holds an input and a number of cursors.  A step that uses the input leaves a buffer as it
is and a reader a reader (`input_step`).  A cursor is moved on by the steps that advance it and
replaced by those that make another under its name; all other steps leave it alone
(`lookup_step`), and so do any number of them (`lookup_last`).
-/

namespace Bytecode

/-- The `input` after a use that read nothing. -/
theorem Input.after_toReader (input : Input) : input.after input.toReader = input := by
  cases input <;> rfl

theorem Input.after_after (input : Input) (r r' : Reader) :
    (input.after r).after r' = input.after r' := by
  cases input <;> rfl

/-- The reader of a cursor on `input`: its `own`, or the one that is shared. -/
def Cursor.reader (cursor : Cursor) (input : Input) : Reader :=
  cursor.own.getD input.toReader

namespace Session

variable {session : Session} {id : String} {s : Step}

/-! ### One step after the other -/

/-- The session after the last of `steps`. -/
def last (session : Session) (steps : List Step) : Session :=
  ((session.run steps).map (·.2)).getLastD session

theorem last_nil (session : Session) : session.last [] = session := rfl

theorem last_cons (session : Session) (s : Step) (steps : List Step) :
    session.last (s :: steps) = (session.step s).2.last steps := by
  rw [last, run, List.map_cons, List.getLastD_cons]
  rfl

theorem last_append (session : Session) (steps later : List Step) :
    session.last (steps ++ later) = (session.last steps).last later := by
  induction steps generalizing session with
  | nil => rfl
  | cons s steps ih => rw [List.cons_append, last_cons, last_cons, ih]

/-- Whether a step advances the cursor of the name `id`. -/
def Step.advances (id : String) : Step → Bool
  | .advance other => other = id
  | _ => false

/-- Whether a step puts a new cursor in the place of the one of the name `id`. -/
def Step.remakes (id : String) : Step → Bool
  | .iterate other choice => other = id && choice.explicit.isOk
  | _ => false

theorem Step.advances_iff : s.advances id = true ↔ s = .advance id := by
  cases s <;> simp [advances]

/-- The reports of those `steps` that advance the cursor of the name `id`, in order. -/
def reportsOf (id : String) (session : Session) (steps : List Step) : List Report :=
  ((steps.zip (session.run steps)).filter (·.1.advances id)).map (·.2.1)

theorem reportsOf_nil (id : String) (session : Session) : session.reportsOf id [] = [] := rfl

theorem reportsOf_advance (id : String) (session : Session) (steps : List Step) :
    session.reportsOf id (.advance id :: steps) =
      (session.step (.advance id)).1 :: (session.step (.advance id)).2.reportsOf id steps := by
  rw [reportsOf, run, List.zip_cons_cons, List.filter_cons_of_pos (by simp [Step.advances])]
  rfl

theorem reportsOf_other (h : s.advances id = false) (session : Session) (steps : List Step) :
    session.reportsOf id (s :: steps) = (session.step s).2.reportsOf id steps := by
  rw [reportsOf, run, List.zip_cons_cons, List.filter_cons_of_neg (by simp [h])]
  rfl

theorem reportsOf_append (id : String) (session : Session) (steps later : List Step) :
    session.reportsOf id (steps ++ later) =
      session.reportsOf id steps ++ (session.last steps).reportsOf id later := by
  induction steps generalizing session with
  | nil => rfl
  | cons s steps ih =>
    rw [List.cons_append, last_cons]
    by_cases h : s.advances id = true
    · obtain rfl := Step.advances_iff.1 h
      rw [reportsOf_advance, reportsOf_advance, ih]
      rfl
    · have hother := Bool.eq_false_iff.2 h
      rw [reportsOf_other hother, reportsOf_other hother, ih]

/-! ### The input -/

theorem input_refuse (session : Session) (e : Fault) :
    ∃ r, (session.refuse e).2.input = session.input.after r :=
  ⟨_, session.input.after_toReader.symm⟩

theorem input_decodeOne (session : Session) (d : Dialect) :
    ∃ r, (session.decodeOne d).2.input = session.input.after r := by
  unfold decodeOne
  split
  · exact input_refuse ..
  · exact ⟨_, rfl⟩

theorem input_advance (session : Session) (id : String) (cursor : Cursor) :
    ∃ r, (session.advance id cursor).2.input = session.input.after r := by
  unfold advance
  split
  · exact ⟨_, session.input.after_toReader.symm⟩
  · exact ⟨_, rfl⟩

/-- **A step at most uses the input.**  So a `buffer` stays what it is, and a `reader` a reader. -/
theorem input_step (session : Session) (s : Step) :
    ∃ r, (session.step s).2.input = session.input.after r := by
  unfold step
  split
  · split
    · exact input_refuse ..
    · exact input_decodeOne ..
  · exact input_decodeOne ..
  · split
    · exact input_refuse ..
    · exact ⟨_, rfl⟩
  · split
    · exact input_refuse ..
    · exact ⟨_, session.input.after_toReader.symm⟩
  · split
    · exact input_refuse ..
    · exact input_advance ..
  · exact ⟨_, session.input.after_toReader.symm⟩

theorem input_last (session : Session) (steps : List Step) :
    ∃ r, (session.last steps).input = session.input.after r := by
  induction steps generalizing session with
  | nil => exact ⟨_, session.input.after_toReader.symm⟩
  | cons s steps ih =>
    obtain ⟨r, hstep⟩ := session.input_step s
    obtain ⟨r', hlast⟩ := ih (session.step s).2
    refine ⟨r', ?_⟩
    rw [last_cons, hlast, hstep, Input.after_after]

/-! ### The cursors -/

theorem lookup_keep (session : Session) (id : String) (cursor : Cursor) :
    (session.keep id cursor).cursors.lookup id = some cursor :=
  List.lookup_cons_self

theorem lookup_keep_of_ne {other : String} (h : other ≠ id) (session : Session) (cursor : Cursor) :
    (session.keep other cursor).cursors.lookup id = session.cursors.lookup id := by
  have hne : (id == other) = false := by simpa using Ne.symm h
  have hfilter : ∀ cursors : List (String × Cursor),
      (cursors.filter (·.1 ≠ other)).lookup id = cursors.lookup id := by
    intro cursors
    induction cursors with
    | nil => rfl
    | cons c cursors ih =>
      obtain ⟨name, c⟩ := c
      by_cases hc : name = other
      · rw [List.filter_cons_of_neg (by simp [hc]), ih, List.lookup_cons, hc, hne]
      · rw [List.filter_cons_of_pos (by simp [hc]), List.lookup_cons, List.lookup_cons, ih]
  unfold keep
  rw [List.lookup_cons, hne]
  exact hfilter session.cursors

/-- A cursor whose `choice` is `explicit` without a fault is made and kept. -/
theorem lookup_iterate {choice : Dialect.Choice} {dialect : Option Dialect}
    (h : choice.explicit = .ok dialect) (session : Session) (id : String) :
    (session.step (.iterate id choice)).2.cursors.lookup id =
      some (.new dialect session.input) := by
  rw [step, h]
  exact lookup_keep ..

theorem cursors_decodeOne (session : Session) (d : Dialect) :
    (session.decodeOne d).2.cursors = session.cursors := by
  unfold decodeOne
  split <;> rfl

/-- Advancing a `cursor` does what its `stage` does over its `reader`, and keeps what came of it. -/
theorem report_advance (session : Session) (id : String) (cursor : Cursor) :
    let next := cursor.stage.advance session.settings (cursor.reader session.input)
    (session.advance id cursor).1 = ⟨next.1.result.map Answer.ofAdvance, next.1.events⟩ := by
  obtain ⟨stage, own⟩ := cursor
  cases own <;> rfl

theorem lookup_advance (session : Session) (id : String) (cursor : Cursor) :
    let next := cursor.stage.advance session.settings (cursor.reader session.input)
    (session.advance id cursor).2.cursors.lookup id =
      some ⟨next.2, cursor.own.map fun _ => next.1.reader⟩ := by
  obtain ⟨stage, own⟩ := cursor
  cases own <;> exact lookup_keep ..

theorem lookup_advance_of_ne {other : String} (h : other ≠ id) (session : Session)
    (cursor : Cursor) :
    (session.advance other cursor).2.cursors.lookup id = session.cursors.lookup id := by
  obtain ⟨stage, own⟩ := cursor
  cases own <;> exact lookup_keep_of_ne h ..

theorem step_advance {cursor : Cursor} (h : session.cursors.lookup id = some cursor) :
    session.step (.advance id) = session.advance id cursor := by
  rw [step, h]

/-- **A cursor is left alone** by every step that neither advances nor `remakes` it. -/
theorem lookup_step (session : Session) (hadv : s.advances id = false)
    (hmake : s.remakes id = false) :
    (session.step s).2.cursors.lookup id = session.cursors.lookup id := by
  cases s with
  | decode choice =>
    rw [step]
    split
    · rfl
    · rw [cursors_decodeOne]
  | decodeStandard =>
    rw [step, cursors_decodeOne]
  | decodeAll choice =>
    rw [step]
    split <;> rfl
  | iterate other choice =>
    rw [step]
    split
    · rfl
    · rename_i dialect hexplicit
      have hne : other ≠ id := by
        rintro rfl
        simp [Step.remakes, hexplicit, Except.isOk, Except.toBool] at hmake
      exact lookup_keep_of_ne hne ..
  | advance other =>
    have hne : other ≠ id := by
      rintro rfl
      simp [Step.advances] at hadv
    rw [step]
    split
    · rfl
    · exact lookup_advance_of_ne hne ..
  | configure settings => rfl

/-- The same of any `steps`, which report nothing of the cursor. -/
theorem lookup_last (session : Session) {steps : List Step}
    (hadv : ∀ s ∈ steps, s.advances id = false) (hmake : ∀ s ∈ steps, s.remakes id = false) :
    (session.last steps).cursors.lookup id = session.cursors.lookup id ∧
      session.reportsOf id steps = [] := by
  induction steps generalizing session with
  | nil => exact ⟨rfl, rfl⟩
  | cons s steps ih =>
    have hs := hadv s (List.mem_cons_self ..)
    obtain ⟨hlookup, hreports⟩ := ih (session.step s).2
      (fun t ht => hadv t (List.mem_cons_of_mem _ ht))
      (fun t ht => hmake t (List.mem_cons_of_mem _ ht))
    rw [last_cons, hlookup, reportsOf_other hs, hreports]
    exact ⟨session.lookup_step hs (hmake s (List.mem_cons_self ..)), rfl⟩

/-! ### The first use of a cursor -/

/-- The steps before the first that `advances` the cursor of the name `id`. -/
def beforeUse (id : String) (steps : List Step) : List Step :=
  steps.takeWhile fun s => !s.advances id

theorem beforeUse_cases (id : String) (steps : List Step) :
    (∀ s ∈ beforeUse id steps, s.advances id = false) ∧
      (steps = beforeUse id steps ∨
        ∃ later, steps = beforeUse id steps ++ .advance id :: later) := by
  induction steps with
  | nil => exact ⟨by simp [beforeUse], .inl rfl⟩
  | cons s steps ih =>
    by_cases hs : s.advances id = true
    · obtain rfl := Step.advances_iff.1 hs
      exact ⟨by simp [beforeUse, hs], .inr ⟨steps, by simp [beforeUse, hs]⟩⟩
    · have hother := Bool.eq_false_iff.2 hs
      have hcons : beforeUse id (s :: steps) = s :: beforeUse id steps :=
        List.takeWhile_cons_of_pos (by simp [hother])
      obtain ⟨hquiet, hsplit⟩ := ih
      rw [hcons]
      refine ⟨List.forall_mem_cons.2 ⟨hother, hquiet⟩, ?_⟩
      rcases hsplit with hall | ⟨later, hlater⟩
      · exact .inl (by rw [← hall])
      · exact .inr ⟨later, by rw [List.cons_append, ← hlater]⟩

/-- **A cursor is as it was made until its first use**, which the `steps` may or may not come to. -/
theorem first_use (session : Session) {steps : List Step}
    (hmake : ∀ s ∈ steps, s.remakes id = false) :
    let first := session.last (beforeUse id steps)
    first.cursors.lookup id = session.cursors.lookup id ∧
      ((session.last steps = first ∧ session.reportsOf id steps = []) ∨
        ∃ later, (∀ s ∈ later, s.remakes id = false) ∧
          session.last steps = (first.step (.advance id)).2.last later ∧
          session.reportsOf id steps =
            (first.step (.advance id)).1 :: (first.step (.advance id)).2.reportsOf id later) := by
  intro first
  obtain ⟨hquiet, hsplit⟩ := beforeUse_cases id steps
  have hkeeps : ∀ s ∈ beforeUse id steps, s.remakes id = false :=
    fun s hs => hmake s (List.takeWhile_subset _ hs)
  obtain ⟨hlookup, hreports⟩ := session.lookup_last hquiet hkeeps
  refine ⟨hlookup, ?_⟩
  rcases hsplit with hall | ⟨later, hlater⟩
  · refine .inl ⟨by rw [hall], ?_⟩
    rw [hall]
    exact hreports
  · refine .inr ⟨later, fun s hs => hmake s ?_, ?_, ?_⟩
    · rw [hlater]
      exact List.mem_append_right _ (List.mem_cons_of_mem _ hs)
    · rw [hlater, last_append, last_cons]
    · rw [hlater, reportsOf_append, reportsOf_advance, hreports, List.nil_append]

end Session
end Bytecode
