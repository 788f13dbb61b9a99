import Bytecode.Proofs.Attempt
import Mathlib.Data.List.Forall2

/-!
# Short reads

A source that gives one byte at a time gives no operand whole, and no read is made again for what is
missing.  So a stream over such a source decodes the bytes that are instructions by themselves, and
the first other byte stops it (`Reader.run_short_yields_bare_bytes`).

As long as each byte is an instruction by itself, one byte at a time is all that is asked for.  That
part of a stream is the same over every source that answers a read of one byte with the next one
(`Source.Bytewise`, `Run.resume_bare`), and only after it a short source and a full one may part.
-/

namespace Bytecode

/-! ### Bytes that are instructions by themselves -/

namespace Dialect

variable {d : Dialect} {byte : UInt8}

/-- The `byte` is an opcode of `d`, and `hasArg` says whether that takes an argument. -/
def Assigns (d : Dialect) (byte : UInt8) (hasArg : Bool) : Prop :=
  ∃ op ∈ d.members, op.value = byte.toNat ∧ d.hasArg? op = some hasArg

instance (d : Dialect) (byte : UInt8) (hasArg : Bool) : Decidable (d.Assigns byte hasArg) :=
  inferInstanceAs (Decidable (∃ op ∈ d.members, op.value = byte.toNat ∧ d.hasArg? op = some hasArg))

theorem assigns_iff {hasArg : Bool} :
    d.Assigns byte hasArg ↔
      ∃ op, d.ofValue? byte.toNat = some op ∧ d.hasArg? op = some hasArg := by
  constructor
  · rintro ⟨op, mem, hv, harg⟩
    exact ⟨op, ofValue?_eq_some_of_mem mem hv, harg⟩
  · rintro ⟨op, hop, harg⟩
    exact ⟨op, mem_members_of_ofValue? hop, value_of_ofValue? hop, harg⟩

/-- A `byte` is not assigned, or an opcode without or with an argument. -/
theorem assigns_cases (hd : d.DefinesArg) (byte : UInt8) :
    (∀ op ∈ d.members, op.value ≠ byte.toNat) ∨ d.Assigns byte false ∨ d.Assigns byte true := by
  obtain hop | ⟨op, hop⟩ := Option.eq_none_or_eq_some (d.ofValue? byte.toNat)
  · exact .inl (ofValue?_eq_none_iff.1 hop)
  · obtain ⟨hasArg, harg⟩ := Option.isSome_iff_exists.1 (hd op (mem_members_of_ofValue? hop))
    have h : d.Assigns byte hasArg := assigns_iff.2 ⟨op, hop, harg⟩
    cases hasArg with
    | false => exact .inr (.inl h)
    | true => exact .inr (.inr h)

/-- The longest run `bare` of first bytes of `data` that are opcodes without an argument, and what
follows it. -/
theorem exists_bare_append (d : Dialect) (data : List UInt8) :
    let bare := data.takeWhile (d.Assigns · false)
    ∃ rest, bare ++ rest = data ∧ (∀ byte ∈ bare, d.Assigns byte false) ∧
      ∀ byte tail, rest = byte :: tail → ¬d.Assigns byte false := by
  refine ⟨data.dropWhile (d.Assigns · false), List.takeWhile_append_dropWhile, ?_, ?_⟩
  · intro byte hbyte
    exact of_decide_eq_true (List.all_eq_true.1 List.all_takeWhile byte hbyte)
  · intro byte tail hrest
    have hhead := List.head?_dropWhile_not (d.Assigns · false) data
    rw [hrest] at hhead
    exact of_decide_eq_false hhead

end Dialect

/-- The instruction `i` is the one that `byte` is by itself in `d`. -/
def Instruction.IsByte (d : Dialect) (byte : UInt8) (i : Instruction) : Prop :=
  i.dialect = d ∧ i.opcode.value = byte.toNat ∧ i.arg = none

theorem Dialect.Assigns.exists_isByte {d : Dialect} {byte : UInt8} (h : d.Assigns byte false) :
    ∃ i, Instruction.IsByte d byte i := by
  obtain ⟨op, mem, hv, harg⟩ := h
  exact ⟨⟨d, op, none, mem, harg⟩, rfl, hv, rfl⟩

/-! ### Sources that give the next byte -/

/-- A `kind` of source that answers a read of one byte with the next byte, if there is one. -/
structure Source.Bytewise (kind : List UInt8 → Source) : Prop where
  depletes (rest : List UInt8) : (kind rest).depletes = true
  read_nil : (kind []).read 1 = (.bytes [], kind [])
  read_cons (byte : UInt8) (rest : List UInt8) :
    (kind (byte :: rest)).read 1 = (.bytes [byte], kind rest)

namespace Source

theorem bytewise_reader : Bytewise .reader :=
  ⟨fun _ => rfl, rfl, fun _ _ => rfl⟩

theorem bytewise_short : Bytewise .short :=
  ⟨fun _ => rfl, rfl, fun _ _ => rfl⟩

end Source

namespace Reader

variable {d : Dialect} {r : Reader} {byte : UInt8}

theorem read_of_bytewise {kind : List UInt8 → Source} (hkind : Source.Bytewise kind)
    {rest : List UInt8} (hr : r.source = kind (byte :: rest)) :
    (r.read 1).1 = .bytes [byte] ∧ (r.read 1).2.source = kind rest := by
  have hread := hkind.read_cons byte rest
  rw [← hr] at hread
  exact ⟨congrArg Prod.fst hread, congrArg Prod.snd hread⟩

theorem fetch_of_bytes {n : Nat} {data : List UInt8} (hdata : (r.read n).1 = .bytes data)
    (hlen : data.length ≤ n) : (r.fetch n).result = .ok data := by
  rw [fetch_eq_ok_iff, hdata]
  exact ⟨rfl, hlen⟩

theorem decode_of_unassigned (hbyte : (r.read 1).1 = .bytes [byte])
    (hop : ∀ op ∈ d.members, op.value ≠ byte.toNat) :
    (r.decode d).result = .error (.decode (.unknownOpcode byte.toNat (some d.name))) := by
  have hf : (r.fetch 1).result = .ok [byte] := fetch_of_bytes hbyte (Nat.le_refl 1)
  rw [decode, Outcome.andThen_of_ok hf]
  dsimp only
  rw [finish_unknown (Dialect.ofValue?_eq_none_iff.2 hop)]
  rfl

theorem decode_of_short_operand {data : List UInt8} (hbyte : (r.read 1).1 = .bytes [byte])
    (hassigns : d.Assigns byte true) (hoperand : ((r.read 1).2.read 2).1 = .bytes data)
    (hlen : data.length < 2) :
    (r.decode d).result = .error (.decode (.truncated 2 data.length)) := by
  obtain ⟨op, hop, harg⟩ := Dialect.assigns_iff.1 hassigns
  have hf : (r.fetch 1).result = .ok [byte] := fetch_of_bytes hbyte (Nat.le_refl 1)
  have hf₂ : ((r.fetch 1).reader.fetch 2).result = .ok data := by
    rw [fetch_after]
    exact fetch_of_bytes hoperand (Nat.le_of_lt hlen)
  exact decode_truncated_iff.2
    (.inr ⟨rfl, data.length, rfl, byte, op, data, hf, hop, harg, hf₂, hlen, rfl⟩)

end Reader

namespace Run

variable {d : Dialect} {r : Reader}

/-- **Bytes that are instructions by themselves** (`bare`) are decoded one by one, to the same
instructions `is` whatever the `kind` of the source, and then the stream goes on with the `rest`. -/
theorem resume_bare {bare : List UInt8} (hbare : ∀ byte ∈ bare, d.Assigns byte false) :
    ∃ is, List.Forall₂ (Instruction.IsByte d) bare is ∧
      ∀ {kind : List UInt8 → Source}, Source.Bytewise kind →
        ∀ (rest : List UInt8) (offset : Nat) (r : Reader), r.source = kind (bare ++ rest) →
          ∃ offset' r', r'.source = kind rest ∧
            (resume d offset r).instructions = is ++ (resume d offset' r').instructions ∧
            (resume d offset r).fault = (resume d offset' r').fault := by
  induction bare with
  | nil => exact ⟨[], .nil, fun _ _ offset r hr => ⟨offset, r, hr, rfl, rfl⟩⟩
  | cons byte bare ih =>
    obtain ⟨i, hi⟩ := (hbare byte List.mem_cons_self).exists_isByte
    obtain ⟨is, his, hrun⟩ := ih fun b hb => hbare b (List.mem_cons_of_mem byte hb)
    refine ⟨i :: is, .cons hi his, ?_⟩
    intro kind hkind rest offset r hr
    obtain ⟨hd, hv, harg⟩ := hi
    obtain ⟨hbyte, hsource⟩ := Reader.read_of_bytewise hkind hr
    have hdepletes : r.source.depletes = true := by
      rw [hr]
      exact hkind.depletes _
    have hadv : (r.advance d offset).result = .ok (some i) := by
      refine Reader.advance_eq_instruction_iff.2 ⟨hd, byte, hv, ?_, ?_⟩
      · rw [hbyte]
        rfl
      · intro arg hsome
        rw [harg] at hsome
        cases hsome
    have hnext : (r.advance d offset).reader.source = kind (bare ++ rest) := by
      rw [Reader.advance_reader_of_instruction hadv, harg]
      exact hsource
    obtain ⟨offset', r', hr', hinstructions, hfault⟩ := hrun hkind rest (offset + i.size) _ hnext
    rw [resume_of_instruction hadv (supply_advance_lt hdepletes hadv)]
    exact ⟨offset', r', hr', congrArg (i :: ·) hinstructions, hfault⟩

/-! ### The first byte that is none -/

theorem resume_of_nothing {kind : List UInt8 → Source} (hkind : Source.Bytewise kind)
    (hr : r.source = kind []) (offset : Nat) :
    (resume d offset r).instructions = [] ∧ (resume d offset r).fault = none := by
  have hread := hkind.read_nil
  rw [← hr] at hread
  have hend : (r.advance d offset).result = .ok none := by
    refine Reader.advance_eq_end_iff.2 ?_
    show (r.source.read 1).1.data? = some []
    rw [hread]
    rfl
  rw [resume_of_end hend]
  exact ⟨rfl, rfl⟩

theorem resume_of_unassigned {kind : List UInt8 → Source} (hkind : Source.Bytewise kind)
    {byte : UInt8} {tail : List UInt8} (hr : r.source = kind (byte :: tail))
    (hop : ∀ op ∈ d.members, op.value ≠ byte.toNat) (offset : Nat) :
    (resume d offset r).instructions = [] ∧
      (resume d offset r).fault =
        some (.decode (.unknownOpcode byte.toNat (some d.name))) := by
  have hdec := Reader.decode_of_unassigned (Reader.read_of_bytewise hkind hr).1 hop
  rw [resume_of_decode_error hdec]
  exact ⟨rfl, rfl⟩

/-- An operand is cut short if the source gives fewer than two bytes `data` for it. -/
theorem resume_of_short_operand {kind : List UInt8 → Source} (hkind : Source.Bytewise kind)
    {byte : UInt8} {tail data : List UInt8} (hr : r.source = kind (byte :: tail))
    (hassigns : d.Assigns byte true) (hoperand : ((kind tail).read 2).1 = .bytes data)
    (hlen : data.length < 2) (offset : Nat) :
    (resume d offset r).instructions = [] ∧
      (resume d offset r).fault = some (.decode (.truncated 2 data.length)) := by
  obtain ⟨hbyte, hsource⟩ := Reader.read_of_bytewise hkind hr
  rw [← hsource] at hoperand
  have hdec := Reader.decode_of_short_operand hbyte hassigns hoperand hlen
  rw [resume_of_decode_error hdec]
  exact ⟨rfl, rfl⟩

/-- A source `reader` gives an operand whole if it has two more bytes. -/
theorem resume_of_whole_operand {byte low high : UInt8} {tail : List UInt8}
    (hr : r.source = .reader (byte :: low :: high :: tail)) (hassigns : d.Assigns byte true)
    (offset : Nat) : (resume d offset r).instructions ≠ [] := by
  obtain ⟨op, mem, hv, harg⟩ := hassigns
  obtain ⟨hbyte, hsource⟩ := Reader.read_of_bytewise Source.bytewise_reader hr
  let i : Instruction := ⟨d, op, some (Operand.ofBytes low high), mem, harg⟩
  have hdepletes : r.source.depletes = true := by
    rw [hr]
    rfl
  have hadv : (r.advance d offset).result = .ok (some i) := by
    refine Reader.advance_eq_instruction_iff.2 ⟨rfl, byte, hv, ?_, ?_⟩
    · rw [hbyte]
      rfl
    · rintro _ ⟨⟩
      show ((r.read 1).2.source.read 2).1.data? = _
      rw [hsource, Operand.toBytes_ofBytes]
      rfl
  rw [resume_of_instruction hadv (supply_advance_lt hdepletes hadv)]
  exact List.cons_ne_nil _ _

/-- How a stream over a source `short` ends, at bytes `rest` of which the first is no instruction by
itself. -/
theorem resume_short (hd : d.DefinesArg) {rest : List UInt8} (hr : r.source = .short rest)
    (hrest : ∀ byte tail, rest = byte :: tail → ¬d.Assigns byte false) (offset : Nat) :
    (resume d offset r).instructions = [] ∧
    ((resume d offset r).fault = none ↔ rest = []) ∧
    ∀ byte tail, rest = byte :: tail →
      ((∀ op ∈ d.members, op.value ≠ byte.toNat) →
        (resume d offset r).fault =
          some (.decode (.unknownOpcode byte.toNat (some d.name)))) ∧
      (d.Assigns byte true →
        (resume d offset r).fault =
          some (.decode (.truncated 2 (min 1 tail.length : Nat)))) := by
  have hunknown : ∀ byte tail, rest = byte :: tail →
      (∀ op ∈ d.members, op.value ≠ byte.toNat) →
      (resume d offset r).instructions = [] ∧
        (resume d offset r).fault =
          some (.decode (.unknownOpcode byte.toNat (some d.name))) := by
    rintro byte tail rfl hop
    exact resume_of_unassigned Source.bytewise_short hr hop offset
  have hcut : ∀ byte tail, rest = byte :: tail → d.Assigns byte true →
      (resume d offset r).instructions = [] ∧
        (resume d offset r).fault =
          some (.decode (.truncated 2 (min 1 tail.length : Nat))) := by
    rintro byte tail rfl hassigns
    have hoperand : ((Source.short tail).read 2).1 = .bytes (tail.take 1) := rfl
    have hlen : (tail.take 1).length < 2 := Nat.lt_succ_of_le (List.length_take_le 1 tail)
    rw [← List.length_take]
    exact resume_of_short_operand Source.bytewise_short hr hassigns hoperand hlen offset
  have hstop : (resume d offset r).instructions = [] ∧
      ((resume d offset r).fault = none ↔ rest = []) := by
    cases rest with
    | nil =>
      obtain ⟨hinstructions, hfault⟩ := resume_of_nothing Source.bytewise_short hr offset
      exact ⟨hinstructions, iff_of_true hfault rfl⟩
    | cons byte tail =>
      rcases d.assigns_cases hd byte with hop | hassigns | hassigns
      · obtain ⟨hinstructions, hfault⟩ := hunknown byte tail rfl hop
        exact ⟨hinstructions, by simp [hfault]⟩
      · exact absurd hassigns (hrest byte tail rfl)
      · obtain ⟨hinstructions, hfault⟩ := hcut byte tail rfl hassigns
        exact ⟨hinstructions, by simp [hfault]⟩
  refine ⟨hstop.1, hstop.2, ?_⟩
  intro byte tail hbyte
  exact ⟨fun hop => (hunknown byte tail hbyte hop).2,
    fun hassigns => (hcut byte tail hbyte hassigns).2⟩

/-- At such bytes `rest`, a stream over a source `reader` ends in the same way, unless these bytes
hold a whole operand. -/
theorem resume_short_eq_reader_iff {r' : Reader} (hd : d.DefinesArg) {rest : List UInt8}
    (hr : r.source = .short rest) (hr' : r'.source = .reader rest)
    (hrest : ∀ byte tail, rest = byte :: tail → ¬d.Assigns byte false) (offset offset' : Nat) :
    ((resume d offset r).instructions = (resume d offset' r').instructions ∧
      (resume d offset r).fault = (resume d offset' r').fault) ↔
    ¬∃ byte tail, rest = byte :: tail ∧ d.Assigns byte true ∧ 2 ≤ tail.length := by
  obtain ⟨hnone, hclean, hstop⟩ := resume_short hd hr hrest offset
  rw [hnone]
  constructor
  · rintro ⟨hinstructions, -⟩ ⟨byte, tail, rfl, hassigns, hlen⟩
    match tail, hlen with
    | low :: high :: tail, _ =>
      exact resume_of_whole_operand hr' hassigns offset' hinstructions.symm
  · intro hcut
    cases rest with
    | nil =>
      obtain ⟨hinstructions, hfault⟩ := resume_of_nothing Source.bytewise_reader hr' offset'
      rw [hinstructions, hfault]
      exact ⟨rfl, hclean.2 rfl⟩
    | cons byte tail =>
      obtain ⟨hunknown, htruncated⟩ := hstop byte tail rfl
      rcases d.assigns_cases hd byte with hop | hassigns | hassigns
      · obtain ⟨hinstructions, hfault⟩ :=
          resume_of_unassigned Source.bytewise_reader hr' hop offset'
        rw [hinstructions, hfault]
        exact ⟨rfl, hunknown hop⟩
      · exact absurd hassigns (hrest byte tail rfl)
      · have hlen : tail.length < 2 := by
          by_contra hlen
          exact hcut ⟨byte, tail, rfl, hassigns, Nat.le_of_not_lt hlen⟩
        have hoperand : ((Source.reader tail).read 2).1 = .bytes tail :=
          congrArg Reply.bytes (List.take_of_length_le (Nat.le_of_lt hlen))
        obtain ⟨hinstructions, hfault⟩ :=
          resume_of_short_operand Source.bytewise_reader hr' hassigns hoperand hlen offset'
        rw [hinstructions, hfault, htruncated hassigns, Nat.min_eq_right (Nat.le_of_lt_succ hlen)]
        exact ⟨rfl, rfl⟩

end Run

/-- **Short reads are taken at face value.**  Over a source `short`, which gives one byte at a time,
a stream yields the longest run `bare` of bytes that are instructions by themselves, one instruction
for each.  It ends cleanly if these are all of `data`.  Otherwise the next byte ends it: it is not
assigned, or its operand is cut short, be there one byte left or more.  So a source `reader` leads
elsewhere exactly if that byte takes an argument and two bytes follow. -/
theorem Reader.run_short_yields_bare_bytes (d : Dialect) (hd : d.DefinesArg) (data : List UInt8) :
    let bare := data.takeWhile (d.Assigns · false)
    let short := (ofSource (.short data)).run d
    let full := (ofBytes data).run d
    List.Forall₂ (Instruction.IsByte d) bare short.instructions ∧
    (short.fault = none ↔ bare = data) ∧
    (∀ byte tail, data = bare ++ byte :: tail →
      ((∀ op ∈ d.members, op.value ≠ byte.toNat) →
        short.fault = some (.decode (.unknownOpcode byte.toNat (some d.name)))) ∧
      (d.Assigns byte true →
        short.fault =
          some (.decode (.truncated 2 (min 1 (data.length - bare.length - 1) : Nat))))) ∧
    ((short.instructions = full.instructions ∧ short.fault = full.fault) ↔
      ¬∃ byte tail, data = bare ++ byte :: tail ∧ d.Assigns byte true ∧ 2 ≤ tail.length) := by
  intro bare short full
  obtain ⟨rest, hdata, hbare, hrest⟩ := d.exists_bare_append data
  replace hdata : bare ++ rest = data := hdata
  have hafter : ∀ byte tail, data = bare ++ byte :: tail ↔ rest = byte :: tail := by
    intro byte tail
    rw [← hdata, List.append_cancel_left_eq]
  -- Both streams go through the first bytes alike.  What is left is how they end at the rest.
  obtain ⟨is, hbytes, hrun⟩ := Run.resume_bare hbare
  obtain ⟨offset, r, hr, hinstructions, hfault⟩ :=
    hrun Source.bytewise_short rest 0 (ofSource (.short data)) (congrArg Source.short hdata.symm)
  obtain ⟨offset', r', hr', hinstructions', hfault'⟩ :=
    hrun Source.bytewise_reader rest 0 (ofBytes data) (congrArg Source.reader hdata.symm)
  obtain ⟨hnone, hclean, hstop⟩ := Run.resume_short hd hr hrest offset
  have hsame := Run.resume_short_eq_reader_iff hd hr hr' hrest offset offset'
  replace hinstructions : short.instructions = is ++ _ := hinstructions
  replace hinstructions' : full.instructions = is ++ _ := hinstructions'
  replace hfault : short.fault = _ := hfault
  replace hfault' : full.fault = _ := hfault'
  rw [hinstructions, hinstructions', hfault, hfault', List.append_cancel_left_eq]
  simp only [hafter]
  refine ⟨?_, ?_, ?_, hsame⟩
  · rw [hnone, List.append_nil]
    exact hbytes
  · rw [hclean, ← hdata]
    exact List.self_eq_append_right.symm
  · intro byte tail hbyte
    have hlength : data.length - bare.length - 1 = tail.length := by
      rw [← hdata, hbyte, List.length_append, List.length_cons]
      omega
    rw [hlength]
    exact hstop byte tail hbyte

/-- The operand of byte 100 is there as a whole and is cut short all the same; over a source
`reader` the stream goes on. -/
theorem Reader.run_short_yields_bare_bytes_whole_operand :
    let data : List UInt8 := [9, 9, 100, 1, 0, 9]
    let short := (ofSource (.short data)).run .standard
    let full := (ofBytes data).run .standard
    Dialect.standard.DefinesArg ∧
    List.Forall₂ (Instruction.IsByte .standard) [9, 9] short.instructions ∧
    short.fault = some (.decode (.truncated 2 1)) ∧
    ¬(short.instructions = full.instructions ∧ short.fault = full.fault) := by
  intro data short full
  have hd : Dialect.standard.DefinesArg := Dialect.definesArg_of_classifiesArg rfl
  have hbare : data.takeWhile (Dialect.standard.Assigns · false) = [9, 9] := by decide +kernel
  have hassigns : Dialect.standard.Assigns 100 true := by decide +kernel
  have hdata : data = [9, 9] ++ 100 :: [1, 0, 9] := rfl
  obtain ⟨hbytes, -, hstop, hsame⟩ := run_short_yields_bare_bytes .standard hd data
  rw [hbare] at hbytes hstop hsame
  refine ⟨hd, hbytes, (hstop 100 [1, 0, 9] hdata).2 hassigns, ?_⟩
  intro heq
  exact hsame.1 heq ⟨100, [1, 0, 9], hdata, hassigns, by decide⟩

end Bytecode
