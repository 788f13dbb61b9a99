import Bytecode.Proofs.Stream

/-!
# Streams as repeated single instructions

A stream over a source that reads use up is single instructions decoded one after the other until
that fails (`resume_repeats`).  Each instruction takes a reply that is not empty off the source, so
the source runs dry and the repetition ends.
-/

namespace Bytecode

/-! ### Sources that reads use up -/

namespace Source

/-- Whether reads use the source up, as they do for all but a `greedy` one. -/
def depletes : Source → Bool
  | .greedy _ => false
  | _ => true

theorem depletes_read (n : Nat) (s : Source) : (s.read n).2.depletes = s.depletes := by
  match s with
  | .reader _ => rfl
  | .short _ => rfl
  | .nonblocking _ => rfl
  | .greedy _ => rfl
  | .script [] => rfl
  | .script (_ :: _) => rfl

/-- `read` adds nothing to the `supply` of a source `s`, whatever the number `n` of bytes asked
for. -/
theorem supply_read_le (n : Nat) (s : Source) : (s.read n).2.supply ≤ s.supply := by
  match s with
  | .reader rest => simp [read, supply]
  | .short rest => simp [read, supply]
  | .nonblocking rest => simp [read, supply]
  | .greedy _ => exact Nat.le_refl _
  | .script [] => exact Nat.le_refl _
  | .script (_ :: _) => simp [read, supply]

/-- Bytes that a source which `depletes` hands out are taken off its `supply`. -/
theorem supply_read_lt {n : Nat} {s : Source} {byte : UInt8} {data : List UInt8}
    (hs : s.depletes = true) (h : (s.read n).1 = .bytes (byte :: data)) :
    (s.read n).2.supply < s.supply := by
  -- A prefix that is not empty was dropped.
  have hdrop : ∀ (m : Nat) (rest : List UInt8), rest.take m = byte :: data →
      (rest.drop m).length < rest.length := by
    intro m rest ht
    have hlen := congrArg List.length ht
    rw [List.length_take, List.length_cons] at hlen
    rw [List.length_drop]
    omega
  match s with
  | .reader rest => exact hdrop n rest (Reply.bytes.inj h)
  | .short rest => exact hdrop (min n 1) rest (Reply.bytes.inj h)
  | .nonblocking rest =>
    simp only [read] at h
    split at h
    · cases h
    · exact hdrop n rest (Reply.bytes.inj h)
  | .greedy _ => cases hs
  | .script [] => cases h
  | .script (_ :: _) => exact Nat.lt_succ_self _

end Source

namespace Reader

variable {d : Dialect} {r : Reader}

/-- After an opcode `byte`, `finish` makes at most one more read. -/
theorem finish_after (d : Dialect) (byte : UInt8) (r : Reader) :
    (finish d byte r).reader = r ∨ (finish d byte r).reader = (r.read 2).2 := by
  rcases finish_cases d byte with ⟨-, h⟩ | ⟨_, -, -, h⟩ | ⟨_, _, _, h⟩ | ⟨_, _, _, h⟩
  · rw [h]
    exact .inl rfl
  · rw [h]
    exact .inl rfl
  · rw [h]
    exact .inl rfl
  · rw [h]
    exact .inr r.fetchOperand_after

/-- `decode` makes a read for its opcode, and then at most one for its operand. -/
theorem decode_after (d : Dialect) (r : Reader) :
    (r.decode d).reader = (r.read 1).2 ∨ (r.decode d).reader = ((r.read 1).2.read 2).2 := by
  unfold decode
  rw [← fetch_after]
  rcases fetch_one_cases r with ⟨e, h⟩ | h | ⟨byte, h⟩
  · rw [Outcome.andThen_of_error h]
    exact .inl rfl
  · rw [Outcome.andThen_of_ok h]
    exact .inl rfl
  · rw [Outcome.andThen_of_ok h]
    exact finish_after d byte (r.fetch 1).reader

theorem depletes_decode (d : Dialect) (r : Reader) :
    (r.decode d).reader.source.depletes = r.source.depletes := by
  rcases decode_after d r with h | h
  · rw [h]
    exact Source.depletes_read 1 r.source
  · rw [h]
    exact (Source.depletes_read 2 _).trans (Source.depletes_read 1 r.source)

/-- **Each instruction that `decode` gives uses up some of the `supply`.** -/
theorem supply_decode_lt (hr : r.source.depletes = true) {i : Instruction}
    (h : (r.decode d).result = .ok i) :
    (r.decode d).reader.source.supply < r.source.supply := by
  have hopcode : (r.read 1).2.source.supply < r.source.supply := by
    rcases fetch_one_cases r with ⟨e, hf⟩ | hf | ⟨byte, hf⟩
    · rw [decode, Outcome.andThen_of_error hf] at h
      cases h
    · rw [decode, Outcome.andThen_of_ok hf] at h
      cases h
    · exact Source.supply_read_lt hr (Reply.eq_bytes_of_data? (reply_of_fetch hf).1)
  rcases decode_after d r with hd | hd
  · rw [hd]
    exact hopcode
  · rw [hd]
    exact Nat.lt_of_le_of_lt (Source.supply_read_le 2 _) hopcode

/-! ### Repetition -/

/-- Single instructions are decoded from a reader, one after the other, until that fails: `decode`
gives `is`, and then the reader is `last`, from which it fails with `e`. -/
inductive Repeats (d : Dialect) : Reader → List Instruction → Reader → Fault → Prop where
  | stop {r : Reader} {e : Fault} (h : (r.decode d).result = .error e) : Repeats d r [] r e
  | next {r last : Reader} {i : Instruction} {is : List Instruction} {e : Fault}
      (h : (r.decode d).result = .ok i) (rest : Repeats d (r.decode d).reader is last e) :
      Repeats d r (i :: is) last e

theorem Repeats.fails {is : List Instruction} {last : Reader} {e : Fault}
    (h : Repeats d r is last e) : (last.decode d).result = .error e := by
  induction h with
  | stop h => exact h
  | next _ _ ih => exact ih

/-- `Repeats` leaves one way to repeat `decode` from `r`. -/
theorem Repeats.unique {is is' : List Instruction} {last last' : Reader} {e e' : Fault}
    (h : Repeats d r is last e) (h' : Repeats d r is' last' e') :
    is = is' ∧ last = last' ∧ e = e' := by
  induction h generalizing is' with
  | stop h =>
    cases h' with
    | stop h' =>
      rw [h] at h'
      exact ⟨rfl, rfl, Except.error.inj h'⟩
    | next h' _ =>
      rw [h] at h'
      cases h'
  | next h _ ih =>
    cases h' with
    | stop h' =>
      rw [h] at h'
      cases h'
    | next h' rest' =>
      rw [h] at h'
      obtain rfl := Except.ok.inj h'
      obtain ⟨rfl, rfl, rfl⟩ := ih rest'
      exact ⟨rfl, rfl, rfl⟩

end Reader

/-- **A stream is repeated single instructions**: `resume` has the same instructions, the same
reads, and the fault `e` that ends the repetition, unless that `isMissingOpcode`. -/
theorem Run.resume_repeats (d : Dialect) (offset : Nat) (r : Reader)
    (hr : r.source.depletes = true) :
    ∃ last e, r.Repeats d (resume d offset r).instructions last e ∧
      (resume d offset r).reader = (last.decode d).reader ∧
      (resume d offset r).fault = if e.isMissingOpcode then none else some e := by
  -- Strong induction on what the source has left, which each instruction makes less.
  induction hn : r.source.supply using Nat.strongRecOn generalizing offset r with
  | _ n ih =>
    cases hdec : (r.decode d).result with
    | error e =>
      rw [resume_of_decode_error hdec]
      exact ⟨r, e, .stop hdec, rfl, rfl⟩
    | ok i =>
      have hres := r.advance_result d offset
      have hreader := r.advance_reader d offset
      rw [hdec, streamed] at hres
      have hlt := r.supply_decode_lt hr hdec
      rw [resume_of_instruction hres (by rw [hreader]; exact hlt), hreader]
      obtain ⟨last, e, hrep, hafter, hfault⟩ := ih _ (hn ▸ hlt) (offset + i.size)
        (r.decode d).reader ((r.depletes_decode d).trans hr) rfl
      exact ⟨last, e, .next hdec hrep, hafter, hfault⟩

end Bytecode
