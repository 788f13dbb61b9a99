import Bytecode.Proofs.SessionDialect
import Bytecode.Proofs.SessionSteps

/-!
# Sharing a reader

A session hands one reader over plain bytes to single instructions, whole streams and cursors, in
any order and with any dialects.  Each step takes the bytes that come next, and what it takes is
settled by its result (`Session.Takes`): an instruction takes its encoding, a byte that is not
assigned takes itself, an instruction that is cut short takes all that is left.  So the steps of a
session cut the bytes into spans that follow each other without a gap (`Session.Tiled`), whatever
failed on the way.

A step keeps what makes this so (`Session.Shares`): the reader has exactly the bytes left that were
not handed out, and no cursor has a reader of its own.
-/

namespace Bytecode

namespace Session

/-- The number of bytes that the shared reader of `session` has handed out. -/
def consumed (session : Session) : Nat :=
  session.input.toReader.consumed

/-! ### What a step takes -/

/-- The results of a step that decodes nothing. -/
def Idle : Except Fault Answer → Prop
  | .ok .done => True
  | .ok .finished => True
  | .error (.unknownDialect _ _) => True
  | .error (.unknownName _) => True
  | _ => False

/-- What a step that decodes at most one instruction of `d` takes off the bytes, by its result: it
takes `span` and leaves `left`. -/
def TakesOne (d : Dialect) (span left : List UInt8) : Except Fault Answer → Prop
  -- An instruction takes its encoding.
  | .ok (.instruction i) => i.dialect = d ∧ span.length = i.size ∧ i.encode = .ok span
  -- A clean end takes nothing.
  | .ok .finished => span = []
  -- A byte that is not assigned takes itself.
  | .error (.decode (.unknownOpcode byte name)) =>
    name = some d.name ∧ ∃ b : UInt8, byte = b.toNat ∧ span = [b] ∧
      ∀ op ∈ d.members, op.value ≠ b.toNat
  -- A missing opcode takes nothing.  An operand that is cut short takes all the bytes that are
  -- left, the first of which is an opcode that takes an argument.
  | .error (.decode (.truncated expected received)) =>
    (expected = 1 ∧ received = 0 ∧ span = []) ∨
    (expected = 2 ∧ left = [] ∧ ∃ byte tail, span = byte :: tail ∧ received = tail.length ∧
      ∃ op ∈ d.members, op.value = byte.toNat ∧ d.hasArg? op = some true)
  | _ => False

/-- What a step that decodes a whole stream of `d` takes off the bytes: the encoding of the
instructions `is`, which is all of them, or the encoding of some and then what the fault `e`
takes. -/
def TakesAll (d : Dialect) (span left : List UInt8) : Except Fault Answer → Prop
  | .ok (.instructions is) => Instruction.encodeAll is = .ok span ∧ left = []
  | .error e => ∃ is head tail, span = head ++ tail ∧ Instruction.encodeAll is = .ok head ∧
      TakesOne d tail left (.error e)
  | _ => False

/-- What the step `s` takes off the bytes of the shared reader, by its `result`.  Where `dialect?`
gives none to decode with, that is nothing. -/
def Takes (session : Session) (s : Step) (span left : List UInt8)
    (result : Except Fault Answer) : Prop :=
  match session.dialect? s with
  | none => span = [] ∧ Idle result
  | some d =>
    match s with
    | .decodeAll _ => TakesAll d span left result
    | _ => TakesOne d span left result

/-- The steps of a session cut `data` into spans: each step takes the span that begins where the
bytes handed out so far end, and has handed out the bytes of its span when it is done. -/
inductive Tiled (data : List UInt8) :
    Session → List Step → List (Report × Session) → List (List UInt8) → Prop where
  | nil {session : Session} : Tiled data session [] [] []
  | cons {session : Session} {s : Step} {taken : Report × Session} {span : List UInt8}
      {steps : List Step} {run : List (Report × Session)} {spans : List (List UInt8)}
      (hbytes : data.drop session.consumed = span ++ data.drop taken.2.consumed)
      (hcount : taken.2.consumed = session.consumed + span.length)
      (htakes : session.Takes s span (data.drop taken.2.consumed) taken.1.result)
      (rest : Tiled data taken.2 steps run spans) :
      Tiled data session (s :: steps) (taken :: run) (span :: spans)

/-! ### From what stands at the beginning to what is taken -/

variable {d : Dialect} {span left : List UInt8}

theorem takesOne_of_error {e : Fault} (hd : d.DefinesArg) (h : d.Head span left (.error e)) :
    TakesOne d span left (.error e) := by
  cases h with
  | unknown h => exact ⟨rfl, _, rfl, rfl, h⟩
  | cut mem hv harg _ => exact .inr ⟨rfl, rfl, _, _, rfl, rfl, _, mem, hv, harg⟩
  | unclassified mem _ harg =>
    have hsome := hd _ mem
    rw [harg] at hsome
    cases hsome

theorem takesOne_of_instruction {i : Instruction} (h : d.Head span left (.ok (some i))) :
    TakesOne d span left (.ok (.instruction i)) := by
  obtain ⟨hi, he⟩ := h.encode
  exact ⟨hi, Instruction.length_of_encode he, he⟩

/-- What stands at the `Head` of the bytes is what the step of a stream takes. -/
theorem takesOne_of_head {result : Except Fault (Option Instruction)} (hd : d.DefinesArg)
    (h : d.Head span left result) : TakesOne d span left (result.map Answer.ofAdvance) := by
  match result with
  | .error e => exact takesOne_of_error hd h
  | .ok none =>
    cases h
    rfl
  | .ok (some i) => exact takesOne_of_instruction h

/-- A single instruction takes what a stream would take in its place. -/
theorem takesOne_of_decode {r : Reader} (hd : d.DefinesArg)
    (h : d.Head span left (streamed (r.decode d).result)) :
    TakesOne d span left ((r.decode d).result.map Answer.instruction) := by
  cases hres : (r.decode d).result with
  | ok i =>
    rw [hres] at h
    exact takesOne_of_instruction h
  | error e =>
    rw [hres] at h
    by_cases he : e.isMissingOpcode = true
    · rw [streamed, if_pos he] at h
      cases h
      obtain ⟨k, rfl⟩ := Fault.isMissingOpcode_eq_true_iff.1 he
      rcases Reader.decode_truncated_iff.1 hres with ⟨-, hk, -⟩ | ⟨hn, -⟩
      · exact .inl ⟨rfl, hk, rfl⟩
      · omega
    · rw [streamed_error (Bool.eq_false_iff.2 he)] at h
      exact takesOne_of_error hd h

/-- A stream takes the encoding `head` of its instructions, and then what its `ending` takes. -/
theorem takesAll_of_resume {offset : Nat} {r : Reader} {head : List UInt8} (hd : d.DefinesArg)
    (henc : Instruction.encodeAll (Run.resume d offset r).instructions = .ok head)
    (h : d.Head span left (Run.resume d offset r).ending) :
    TakesAll d (head ++ span) left ((Run.resume d offset r).result.map Answer.instructions) := by
  unfold Run.ending at h
  unfold Run.result
  cases hfault : (Run.resume d offset r).fault with
  | none =>
    rw [hfault] at h
    cases h
    rw [List.append_nil]
    exact ⟨henc, rfl⟩
  | some e =>
    rw [hfault] at h
    exact ⟨_, head, span, rfl, henc, takesOne_of_error hd h⟩

section

variable {session : Session} {s : Step} {result : Except Fault Answer}

theorem takes_of_idle (hs : session.dialect? s = none) (h : Idle result) :
    session.Takes s [] left result := by
  rw [Takes, hs]
  exact ⟨rfl, h⟩

theorem takes_of_one (hs : session.dialect? s = some d) (hone : ∀ choice, s ≠ .decodeAll choice)
    (h : TakesOne d span left result) : session.Takes s span left result := by
  rw [Takes, hs]
  cases s with
  | decodeAll choice => exact absurd rfl (hone choice)
  | _ => exact h

theorem takes_of_all {choice : Dialect.Choice} (hs : session.dialect? (.decodeAll choice) = some d)
    (h : TakesAll d span left result) : session.Takes (.decodeAll choice) span left result := by
  rw [Takes, hs]
  exact h

end

/-! ### What a step keeps -/

/-- The input of a session is one reader, which has handed out `n` bytes and has `left` left.  All
the cursors use it, and their dialects say which opcodes take an argument. -/
structure Shares (session : Session) (left : List UInt8) (n : Nat) : Prop where
  input : ∃ reads, session.input = .reader ⟨.reader left, n, reads⟩
  cursors : ∀ c ∈ session.cursors, c.2.own = none ∧ c.2.stage.DefinesArg

/-- A step that was taken when `n` bytes were handed out and `rest` was left has used up the bytes
that come next, as `P` says of its result, and the reader is shared still. -/
def Advances (P : (span left : List UInt8) → Except Fault Answer → Prop) (rest : List UInt8)
    (n : Nat) (taken : Report × Session) : Prop :=
  ∃ span left, rest = span ++ left ∧ P span left taken.1.result ∧
    taken.2.Shares left (n + span.length)

theorem Advances.mono {P Q : List UInt8 → List UInt8 → Except Fault Answer → Prop}
    {rest : List UInt8} {n : Nat} {taken : Report × Session}
    (hPQ : ∀ {span left result}, P span left result → Q span left result)
    (h : Advances P rest n taken) : Advances Q rest n taken := by
  obtain ⟨span, left, hrest, hP, hshares⟩ := h
  exact ⟨span, left, hrest, hPQ hP, hshares⟩

namespace Shares

variable {session : Session} {rest : List UInt8} {n : Nat}

theorem start (settings : Settings) (data : List UInt8) :
    (Session.start settings (.reader (.ofBytes data))).Shares data 0 :=
  ⟨⟨[], rfl⟩, by simp [Session.start]⟩

theorem toReader (h : session.Shares rest n) :
    ∃ reads, session.input.toReader = ⟨.reader rest, n, reads⟩ := by
  obtain ⟨reads, hinput⟩ := h.input
  refine ⟨reads, ?_⟩
  rw [hinput]
  rfl

theorem consumed_eq (h : session.Shares rest n) : session.consumed = n := by
  obtain ⟨reads, hreader⟩ := h.toReader
  rw [consumed, hreader]

/-- A step that used the shared reader leaves it as it came out of `o`. -/
theorem settle (h : session.Shares rest n) {o : Outcome Answer} {m : Nat} {reads : List Nat}
    (ho : o.reader = ⟨.reader left, m, reads⟩) : (session.settle o).2.Shares left m := by
  obtain ⟨_, hinput⟩ := h.input
  refine ⟨⟨reads, ?_⟩, h.cursors⟩
  show session.input.after o.reader = _
  rw [hinput, ho]
  rfl

theorem keep (h : session.Shares rest n) (id : String) {cursor : Cursor}
    (hown : cursor.own = none) (hstage : cursor.stage.DefinesArg) :
    (session.keep id cursor).Shares rest n := by
  refine ⟨h.input, ?_⟩
  intro c hc
  rcases List.mem_cons.1 hc with rfl | hc
  · exact ⟨hown, hstage⟩
  · exact h.cursors c (List.mem_filter.1 hc).1

/-- A `cursor` that is found is one of those that share the reader. -/
theorem of_lookup (h : session.Shares rest n) {id : String} {cursor : Cursor}
    (hc : session.cursors.lookup id = some cursor) :
    cursor.own = none ∧ cursor.stage.DefinesArg := by
  obtain ⟨before, after, hmem, -⟩ := List.lookup_eq_some_iff.1 hc
  refine h.cursors (id, cursor) ?_
  rw [hmem]
  exact List.mem_append_right _ (List.mem_cons_self ..)

/-- A step that decodes nothing, `Idle` by its result, takes nothing. -/
theorem idle {s : Step} {taken : Report × Session} (hs : session.dialect? s = none)
    (hresult : Idle taken.1.result) (h : taken.2.Shares rest n) :
    Advances (session.Takes s) rest n taken :=
  ⟨[], rest, rfl, takes_of_idle hs hresult, h⟩

theorem decodeOne (h : session.Shares rest n) (hd : d.DefinesArg) :
    Advances (TakesOne d) rest n (session.decodeOne d) := by
  obtain ⟨reads, hinput⟩ := h.input
  obtain ⟨span, left, reads', hrest, hhead, hreader⟩ := Reader.decode_plain d rest n reads
  refine ⟨span, left, hrest, ?_⟩
  rw [Session.decodeOne, hinput]
  exact ⟨takesOne_of_decode hd hhead, h.settle hreader⟩

theorem decodeAll (h : session.Shares rest n) (hd : d.DefinesArg) :
    Advances (TakesAll d) rest n
      (session.settle ((session.input.toReader.decodeAll d).map .instructions)) := by
  obtain ⟨reads, htoReader⟩ := h.toReader
  rw [htoReader]
  obtain ⟨head, span, left, reads', hrest, henc, -, hhead, hreader⟩ :=
    Run.resume_plain d 0 rest n reads
  refine ⟨head ++ span, left, by rw [hrest, List.append_assoc], ?_, ?_⟩
  · exact takesAll_of_resume hd henc hhead
  · rw [List.length_append]
    exact h.settle hreader

/-- A cursor that has a dialect `d` to decode with advances as `resume` does. -/
theorem resume (h : session.Shares rest n) (hd : d.DefinesArg) (id : String) (offset : Nat) :
    let next := Cursor.Stage.resume d offset session.input.toReader
    Advances (TakesOne d) rest n
      ((session.keep id ⟨next.2, none⟩).settle (next.1.map Answer.ofAdvance)) := by
  obtain ⟨reads, htoReader⟩ := h.toReader
  rw [htoReader]
  obtain ⟨span, left, reads', hrest, hhead, hreader⟩ :=
    Reader.advance_plain d offset rest n reads
  refine ⟨span, left, hrest, takesOne_of_head hd hhead, ?_⟩
  refine (h.keep id rfl ?_).settle hreader
  show (Cursor.Stage.after d offset _).DefinesArg
  unfold Cursor.Stage.after
  split
  · exact hd
  · trivial
  · trivial

theorem advance (h : session.Shares rest n) {id : String} {cursor : Cursor}
    (hc : session.cursors.lookup id = some cursor) :
    Advances (session.Takes (.advance id)) rest n (session.advance id cursor) := by
  obtain ⟨hown, hstage⟩ := h.of_lookup hc
  have hdialect : session.dialect? (.advance id) = cursor.stage.dialect? session.settings := by
    rw [dialect?, hc]
    rfl
  rw [Session.advance, hown]
  dsimp only
  rcases Cursor.Stage.advance_cases hstage session.settings with
    ⟨d, offset, hdef, hd, hadv⟩ | ⟨result, hresult, hd, hadv⟩
  · rw [hadv]
    exact (h.resume hdef id offset).mono (takes_of_one (hdialect.trans hd) (by simp))
  · -- The cursor leaves the reader alone and is finished.
    obtain ⟨reads, htoReader⟩ := h.toReader
    have hkeep : (session.keep id ⟨.finished, none⟩).Shares rest n := h.keep id rfl trivial
    rw [hadv]
    refine idle (hdialect.trans hd) ?_ (hkeep.settle htoReader)
    rcases hresult with rfl | ⟨name, known, rfl⟩
    · trivial
    · trivial

/-- **What one step `s` takes and keeps.** -/
theorem step (h : session.Shares rest n) {s : Step} (hs : s.DefinesArg) :
    Advances (session.Takes s) rest n (session.step s) := by
  cases s with
  | decode choice =>
    rcases Dialect.Choice.resolve_cases hs session.settings with ⟨d, hd, hdef⟩ | ⟨name, known, hd⟩
    · rw [Session.step, hd]
      refine (h.decodeOne hdef).mono (takes_of_one ?_ (by simp))
      rw [dialect?, hd]
      rfl
    · rw [Session.step, hd]
      refine idle ?_ trivial h
      rw [dialect?, hd]
      rfl
  | decodeStandard => exact h.decodeOne (Dialect.definesArg_of_classifiesArg rfl)
  | decodeAll choice =>
    rcases Dialect.Choice.resolve_cases hs session.settings with ⟨d, hd, hdef⟩ | ⟨name, known, hd⟩
    · rw [Session.step, hd]
      refine (h.decodeAll hdef).mono (takes_of_all ?_)
      rw [dialect?, hd]
      rfl
    · rw [Session.step, hd]
      refine idle ?_ trivial h
      rw [dialect?, hd]
      rfl
  | iterate id choice =>
    rcases Dialect.Choice.explicit_cases hs with ⟨dialect, hd, hdef⟩ | ⟨name, known, hd⟩
    · rw [Session.step, hd]
      obtain ⟨reads, hinput⟩ := h.input
      refine idle rfl trivial (h.keep id ?_ hdef)
      unfold Cursor.new
      rw [hinput]
    · rw [Session.step, hd]
      exact idle rfl trivial h
  | advance id =>
    cases hc : session.cursors.lookup id with
    | none =>
      rw [Session.step, hc]
      refine idle ?_ trivial h
      rw [dialect?, hc]
      rfl
    | some cursor =>
      rw [Session.step, hc]
      exact h.advance hc
  | configure settings => exact idle rfl trivial ⟨h.input, h.cursors⟩

/-- What `steps` take, one after the other. -/
theorem run {data : List UInt8} (h : session.Shares rest n) (hrest : data.drop n = rest)
    {steps : List Step} (hsteps : ∀ s ∈ steps, s.DefinesArg) :
    ∃ spans, Tiled data session steps (session.run steps) spans := by
  induction steps generalizing session rest n with
  | nil => exact ⟨[], .nil⟩
  | cons s steps ih =>
    obtain ⟨span, left, hspan, htakes, hshares⟩ := h.step (hsteps s (List.mem_cons_self ..))
    have hleft : data.drop (n + span.length) = left := by
      rw [← List.drop_drop, hrest, hspan, List.drop_left]
    obtain ⟨spans, hspans⟩ := ih hshares hleft fun t ht => hsteps t (List.mem_cons_of_mem _ ht)
    refine ⟨span :: spans, .cons ?_ ?_ ?_ hspans⟩
    · rw [h.consumed_eq, hshares.consumed_eq, hrest, hleft, hspan]
    · rw [h.consumed_eq, hshares.consumed_eq]
    · rw [hshares.consumed_eq, hleft]
      exact htakes

end Shares

/-! ### Whole sessions -/

/-- Spans that are `Tiled` follow each other without a gap, and make up the bytes that were handed
out. -/
theorem Tiled.flatten {data : List UInt8} {session : Session} {steps : List Step}
    {run : List (Report × Session)} {spans : List (List UInt8)}
    (h : Tiled data session steps run spans) :
    let after := ((run.map (·.2)).getLastD session).consumed
    data.drop session.consumed = spans.flatten ++ data.drop after ∧
      after = session.consumed + spans.flatten.length := by
  induction h with
  | nil => exact ⟨rfl, rfl⟩
  | cons hbytes hcount _ _ ih =>
    rw [List.map_cons, List.getLastD_cons, List.flatten_cons, List.length_append]
    refine ⟨?_, ?_⟩
    · rw [hbytes, ih.1, List.append_assoc]
    · rw [ih.2, hcount, Nat.add_assoc]

/-- **No byte is lost, duplicated or reordered on a shared reader.**  Whatever the `steps` are, and
whichever of them fail, they cut the `data` into `spans`: each begins where the one before it ends,
belongs to its step by the result of that step, and together they are the bytes that were handed
out. -/
theorem run_cuts_shared_bytes (settings : Settings) (data : List UInt8) (steps : List Step)
    (hsteps : ∀ s ∈ steps, s.DefinesArg) :
    let session := Session.start settings (.reader (.ofBytes data))
    ∃ spans, Tiled data session steps (session.run steps) spans ∧
      spans.flatten = data.take (session.last steps).consumed := by
  intro session
  obtain ⟨spans, hspans⟩ := (Shares.start settings data).run List.drop_zero hsteps
  obtain ⟨hbytes, hcount⟩ := hspans.flatten
  refine ⟨spans, hspans, ?_⟩
  replace hbytes : data = spans.flatten ++ data.drop (session.last steps).consumed := hbytes
  replace hcount : (session.last steps).consumed = 0 + spans.flatten.length := hcount
  rw [Nat.zero_add] at hcount
  calc spans.flatten
      = (spans.flatten ++ data.drop (session.last steps).consumed).take spans.flatten.length :=
        List.take_left.symm
    _ = data.take (session.last steps).consumed := by rw [← hbytes, hcount]

/-- The cursors `"a"` and `"b"` and other uses take turns on one reader, over bytes among which 200
is assigned by no dialect and the last instruction is cut short. -/
theorem run_cuts_shared_bytes_by_turns :
    let steps : List Step :=
      [.iterate "a" (.given .python39), .iterate "b" .default, .advance "a",
        .decode (.given .python27), .advance "b", .decodeStandard, .advance "b", .advance "a",
        .decodeAll (.named "py39")]
    let session := Session.start .unset (.reader (.ofBytes [9, 100, 1, 0, 5, 200, 9, 100, 7]))
    (∀ s ∈ steps, s.DefinesArg) ∧
    ∃ spans, Tiled [9, 100, 1, 0, 5, 200, 9, 100, 7] session steps (session.run steps) spans ∧
      spans.flatten = [9, 100, 1, 0, 5, 200, 9, 100, 7].take (session.last steps).consumed := by
  intro steps session
  have hsteps : ∀ s ∈ steps, s.DefinesArg := by
    intro s hs
    simp only [steps, List.mem_cons, List.not_mem_nil, or_false] at hs
    rcases hs with rfl | rfl | rfl | rfl | rfl | rfl | rfl | rfl | rfl
    · exact Dialect.definesArg_of_classifiesArg rfl
    · trivial
    · trivial
    · exact Dialect.definesArg_of_classifiesArg rfl
    all_goals trivial
  exact ⟨hsteps, run_cuts_shared_bytes .unset _ steps hsteps⟩

end Session
end Bytecode
