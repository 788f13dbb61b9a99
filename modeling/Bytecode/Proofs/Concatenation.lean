import Bytecode.Proofs.PlainBytes

/-!
# Streams over concatenated bytes

Decoding composes: a stream over `a ++ b` whose first part ends cleanly goes on as a stream over `b`
does on its own (`Reader.run_ofBytes_append`).

What a stream does depends on its source and on the offset at which it stands, and on nothing else
that a reader keeps account of.  The offset in turn only shows in what is reported about an
instruction that is cut short, so a stream that starts further on reports the same things, shifted
(`Run.resume_shift`).
-/

namespace Bytecode

/-- The event with all offsets moved on by `n`. -/
def Event.shift (n : Nat) : Event → Event
  | .truncated offset opcode => .truncated (offset + n) opcode
  | event => event

/-! ### What a single instruction makes of a source -/

/-- The outcomes `o` and `o'` differ at most in the account of the reads made. -/
structure Outcome.Alike {α : Type} (o o' : Outcome α) : Prop where
  result : o.result = o'.result
  source : o.reader.source = o'.reader.source
  events : o.events = o'.events

namespace Reader

variable {d : Dialect} {r r' : Reader}

theorem fetch_alike (h : r.source = r'.source) (n : Nat) : (r.fetch n).Alike (r'.fetch n) := by
  obtain ⟨source, consumed, reads⟩ := r
  obtain ⟨source', consumed', reads'⟩ := r'
  obtain rfl : source = source' := h
  unfold fetch read
  dsimp only
  cases (source.read n).1 with
  | nothing => exact ⟨rfl, rfl, rfl⟩
  | bytes data =>
    dsimp only
    split <;> exact ⟨rfl, rfl, rfl⟩
  | failure f =>
    dsimp only
    split <;> exact ⟨rfl, rfl, rfl⟩

theorem fetchOperand_alike (h : r.source = r'.source) : r.fetchOperand.Alike r'.fetchOperand := by
  obtain ⟨hresult, hsource, hevents⟩ := fetch_alike h 2
  unfold fetchOperand
  cases hf : (r'.fetch 2).result with
  | error e =>
    rw [Outcome.andThen_of_error hf, Outcome.andThen_of_error (hresult.trans hf)]
    exact ⟨rfl, hsource, hevents⟩
  | ok data =>
    rw [Outcome.andThen_of_ok hf, Outcome.andThen_of_ok (hresult.trans hf), hevents]
    split <;> exact ⟨rfl, hsource, rfl⟩

theorem finish_alike (h : r.source = r'.source) (byte : UInt8) :
    (finish d byte r).Alike (finish d byte r') := by
  rcases finish_cases d byte with ⟨-, hf⟩ | ⟨_, -, -, hf⟩ | ⟨_, _, _, hf⟩ | ⟨_, _, _, hf⟩
  · rw [hf, hf]
    exact ⟨rfl, h, rfl⟩
  · rw [hf, hf]
    exact ⟨rfl, h, rfl⟩
  · rw [hf, hf]
    exact ⟨rfl, h, rfl⟩
  · obtain ⟨hresult, hsource, hevents⟩ := fetchOperand_alike h
    rw [hf, hf]
    refine ⟨?_, hsource, hevents⟩
    show Except.map _ _ = Except.map _ _
    rw [hresult]

/-! Only a stream reports offsets. -/

theorem map_shift_fetch (r : Reader) (n k : Nat) :
    (r.fetch n).events.map (Event.shift k) = (r.fetch n).events := by
  rcases fetch_cases r n with ⟨_, -, -, h⟩ | ⟨_, -, -, h⟩ | ⟨_, -, -, h⟩ | ⟨_, -, -, h⟩
  all_goals
    rw [h]
    rfl

theorem map_shift_finish (d : Dialect) (byte : UInt8) (r : Reader) (k : Nat) :
    (finish d byte r).events.map (Event.shift k) = (finish d byte r).events := by
  rcases finish_cases d byte with ⟨-, hf⟩ | ⟨_, -, -, hf⟩ | ⟨_, _, _, hf⟩ | ⟨_, _, _, hf⟩
  · rw [hf]
    rfl
  · rw [hf]
    rfl
  · rw [hf]
    rfl
  · rw [hf]
    show r.fetchOperand.events.map _ = r.fetchOperand.events
    rw [fetchOperand_events, map_shift_fetch]

theorem map_shift_truncationEvents (offset k : Nat) (byte : UInt8)
    (result : Except Fault Instruction) :
    (truncationEvents offset byte result).map (Event.shift k) =
      truncationEvents (offset + k) byte result := by
  cases result with
  | ok i => rfl
  | error e =>
    unfold truncationEvents
    dsimp only
    split <;> rfl

/-- **`advance` from `k` further on** differs by the offsets that it reports (`Event.shift`). -/
theorem advance_shift (h : r.source = r'.source) (offset k : Nat) :
    (r.advance d (offset + k)).result = (r'.advance d offset).result ∧
    (r.advance d (offset + k)).reader.source = (r'.advance d offset).reader.source ∧
    (r.advance d (offset + k)).events = (r'.advance d offset).events.map (Event.shift k) := by
  obtain ⟨hresult, hsource, hevents⟩ := fetch_alike h 1
  have hshift := map_shift_fetch r' 1 k
  unfold advance
  rcases fetch_one_cases r' with ⟨e, hf⟩ | hf | ⟨byte, hf⟩
  · rw [Outcome.andThen_of_error hf, Outcome.andThen_of_error (hresult.trans hf)]
    exact ⟨rfl, hsource, by rw [hshift, hevents]⟩
  · rw [Outcome.andThen_of_ok hf, Outcome.andThen_of_ok (hresult.trans hf)]
    dsimp only [Outcome.pure]
    exact ⟨rfl, hsource, by rw [List.append_nil, List.append_nil, hshift, hevents]⟩
  · rw [Outcome.andThen_of_ok hf, Outcome.andThen_of_ok (hresult.trans hf)]
    obtain ⟨hresult', hsource', hevents'⟩ := finish_alike (d := d) hsource byte
    dsimp only
    refine ⟨by rw [hresult'], hsource', ?_⟩
    rw [List.map_append, List.map_append, hshift, map_shift_finish, map_shift_truncationEvents,
      hevents, hevents', hresult']

end Reader

/-! ### What a stream makes of a source -/

namespace Run

variable {d : Dialect} {r r' : Reader}

/-- What can be seen of `run` but for its reads: the instructions, the end and the events. -/
def report (run : Run) : List Instruction × Option Fault × List Event :=
  (run.instructions, run.fault, run.events)

/-- **`resume` from `k` further on** differs by the offsets that it reports (`Event.shift`). -/
theorem resume_shift (h : r.source = r'.source) (offset k : Nat) :
    (resume d (offset + k) r).instructions = (resume d offset r').instructions ∧
    (resume d (offset + k) r).fault = (resume d offset r').fault ∧
    (resume d (offset + k) r).events = (resume d offset r').events.map (Event.shift k) := by
  -- Strong induction on what the source has left, which a stream that goes on makes less.
  induction hn : r'.source.supply using Nat.strongRecOn generalizing offset r r' with
  | _ n ih =>
    obtain ⟨hresult, hsource, hevents⟩ := Reader.advance_shift (d := d) h offset k
    rw [resume, resume]
    dsimp only
    rw [hresult, hsource, h]
    cases hadv : (r'.advance d offset).result with
    | error e => exact ⟨rfl, rfl, hevents⟩
    | ok found =>
      cases found with
      | none => exact ⟨rfl, rfl, hevents⟩
      | some i =>
        dsimp only
        by_cases hlt : (r'.advance d offset).reader.source.supply < r'.source.supply
        · rw [if_pos hlt, if_pos hlt, Nat.add_right_comm]
          obtain ⟨hinstructions, hfault, hlater⟩ := ih _ (hn ▸ hlt) hsource (offset + i.size) rfl
          refine ⟨by rw [hinstructions], hfault, ?_⟩
          rw [List.map_append, hevents, hlater]
        · rw [if_neg hlt, if_neg hlt]
          exact ⟨rfl, rfl, hevents⟩

/-- The encoding `head` of instructions `is` is read as `is`, and the `tail` is read as if it stood
alone, but for the offsets. -/
theorem run_encoded_append {is : List Instruction} {head : List UInt8}
    (hd : ∀ i ∈ is, i.dialect = d) (he : Instruction.encodeAll is = .ok head)
    (tail : List UInt8) :
    let whole := (Reader.ofBytes (head ++ tail)).run d
    let rest := (Reader.ofBytes tail).run d
    whole.instructions = is ++ rest.instructions ∧ whole.fault = rest.fault ∧
      whole.events = rest.events.map (Event.shift head.length) := by
  intro whole rest
  obtain ⟨reads, hwhole⟩ := resume_encoded hd he 0 tail 0 []
  have hsource : (⟨.reader tail, 0 + head.length, reads⟩ : Reader).source =
      (Reader.ofBytes tail).source := rfl
  obtain ⟨hinstructions, hfault, hevents⟩ := resume_shift (d := d) hsource 0 head.length
  replace hwhole : whole = _ := hwhole
  rw [hwhole]
  dsimp only
  rw [hinstructions]
  exact ⟨rfl, hfault, hevents⟩

/-- A `byte` that `d` does not assign ends the stream, whatever the `tail`. -/
theorem report_unknown {byte : UInt8} (h : ∀ op ∈ d.members, op.value ≠ byte.toNat)
    (tail : List UInt8) :
    ((Reader.ofBytes (byte :: tail)).run d).report =
      ([], some (.decode (.unknownOpcode byte.toNat (some d.name))),
        [.unknownOpcode byte d.name]) := by
  have hadv : (Reader.ofBytes (byte :: tail)).advance d 0 = _ := Reader.advance_byte ..
  rw [Reader.finish_unknown (Dialect.ofValue?_eq_none_iff.2 h)] at hadv
  have hrun : (Reader.ofBytes (byte :: tail)).run d = _ := resume_of_error (by rw [hadv]; rfl)
  rw [hrun, hadv]
  rfl

end Run

/-- **Decoding composes over concatenation.**  If `a` ends cleanly, `b` is decoded as if it stood
alone, with its offsets moved on (`Event.shift`).  If `a` holds a byte that is not assigned, nothing
after it matters.  If `a` ends within an instruction, what it gave stays given.  This asks nothing
of the dialect `d`. -/
theorem Reader.run_ofBytes_append (d : Dialect) (a b : List UInt8) :
    let first := (ofBytes a).run d
    let second := (ofBytes b).run d
    let whole := (ofBytes (a ++ b)).run d
    (first.fault = none →
      whole.instructions = first.instructions ++ second.instructions ∧
        whole.fault = second.fault ∧
        whole.events = second.events.map (Event.shift a.length)) ∧
    (∀ byte dialect, first.fault = some (.decode (.unknownOpcode byte dialect)) →
      whole.report = first.report) ∧
    (∀ expected received, first.fault = some (.decode (.truncated expected received)) →
      first.instructions <+: whole.instructions) := by
  intro first second whole
  obtain ⟨head, span, left, reads, hdata, henc, hd, hhead, -⟩ := Run.resume_plain d 0 a 0 []
  replace henc : Instruction.encodeAll first.instructions = .ok head := henc
  replace hd : ∀ i ∈ first.instructions, i.dialect = d := hd
  replace hhead : d.Head span left first.ending := hhead
  unfold Run.ending at hhead
  -- In each case the instructions of `first` are read again, and then what is left of `a`.
  have hwhole := Run.run_encoded_append hd henc (span ++ left ++ b)
  rw [← List.append_assoc, ← hdata] at hwhole
  obtain ⟨hinstructions, hfault, hevents⟩ := hwhole
  refine ⟨?_, ?_, ?_⟩
  · intro hclean
    rw [hclean] at hhead
    cases hhead
    rw [List.append_nil, List.append_nil] at hdata
    rw [hdata]
    exact ⟨hinstructions, hfault, hevents⟩
  · intro byte dialect hunknown
    have hfirst := Run.run_encoded_append hd henc (span ++ left)
    rw [← hdata] at hfirst
    obtain ⟨hinstructions', hfault', hevents'⟩ := hfirst
    have hsame : ((ofBytes (span ++ left ++ b)).run d).report =
        ((ofBytes (span ++ left)).run d).report := by
      rw [hunknown] at hhead
      cases hhead with
      | unknown h => exact (Run.report_unknown h (left ++ b)).trans (Run.report_unknown h left).symm
    simp only [Run.report, Prod.mk.injEq] at hsame ⊢
    obtain ⟨hi, hf, he⟩ := hsame
    rw [hi] at hinstructions
    rw [hf] at hfault
    rw [he] at hevents
    exact ⟨hinstructions.trans hinstructions'.symm, hfault.trans hfault'.symm,
      hevents.trans hevents'.symm⟩
  · intro expected received _
    exact ⟨_, hinstructions.symm⟩

/-- The instruction that the second part cuts short begins at its offset 1, which is offset 5 of the
whole: `truncated` says 1 and 5. -/
theorem Reader.run_ofBytes_append_shifts_offset :
    ((ofBytes [9, 100, 1, 0]).run .standard).fault = none ∧
      ((ofBytes [9, 100, 7]).run .standard).events = [.truncated 1 100] ∧
      ((ofBytes ([9, 100, 1, 0] ++ [9, 100, 7])).run .standard).events = [.truncated 5 100] := by
  have hclean : ((ofBytes [9, 100, 1, 0]).run .standard).fault = none := by decide +kernel
  have hevents : ((ofBytes [9, 100, 7]).run .standard).events = [.truncated 1 100] := by
    decide +kernel
  refine ⟨hclean, hevents, ?_⟩
  rw [((run_ofBytes_append .standard [9, 100, 1, 0] [9, 100, 7]).1 hclean).2.2, hevents]
  rfl

end Bytecode
