import Bytecode.Proofs.PlainBytes
import Bytecode.Session

/-!
# The dialects of a session

A session decodes with dialects that its caller gives and with shipped ones, which the caller or the
settings name.  A name is that of a shipped dialect or it is not known (`Dialect.named_cases`), and
a cursor goes on as a stream of its dialect or decodes nothing any more
(`Cursor.Stage.advance_cases`).
-/

namespace Bytecode

/-! ### Choices -/

namespace Dialect

/-- The dialect of a choice, if it is `given` by the caller, says which opcodes take an argument.
The shipped ones do. -/
def Choice.DefinesArg : Choice → Prop
  | .default => True
  | .named _ => True
  | .given d => d.DefinesArg

theorem definesArg_of_mem_registry {p : String × Dialect} (h : p ∈ registry) :
    p.2.DefinesArg := by
  simp only [registry, List.mem_cons, List.not_mem_nil, or_false] at h
  rcases h with rfl | rfl
  · exact definesArg_of_classifiesArg rfl
  · exact definesArg_of_classifiesArg rfl

/-- A `name` is that of a shipped dialect, or it is not known. -/
theorem named_cases (name : String) :
    (∃ d, named name = .ok d ∧ d.DefinesArg) ∨
      ∃ known, named name = .error (.unknownDialect name known) := by
  unfold named
  cases h : registry.lookup (Text.lower name) with
  | none => exact .inr ⟨_, rfl⟩
  | some d =>
    obtain ⟨before, after, hmem, -⟩ := List.lookup_eq_some_iff.1 h
    refine .inl ⟨d, rfl, definesArg_of_mem_registry (p := (Text.lower name, d)) ?_⟩
    rw [hmem]
    exact List.mem_append_right _ (List.mem_cons_self ..)

/-- A choice comes to a dialect under the settings `s`, or its name is not known. -/
theorem Choice.resolve_cases {c : Choice} (hc : c.DefinesArg) (s : Settings) :
    (∃ d, c.resolve s = .ok d ∧ d.DefinesArg) ∨
      ∃ name known, c.resolve s = .error (.unknownDialect name known) := by
  cases c with
  | default =>
    rcases named_cases s.dialectName with h | ⟨known, h⟩
    · exact .inl h
    · exact .inr ⟨_, known, h⟩
  | named name =>
    rcases named_cases name with h | ⟨known, h⟩
    · exact .inl h
    · exact .inr ⟨_, known, h⟩
  | given d => exact .inl ⟨d, rfl, hc⟩

/-- The same of `explicit`, which may leave the choice to the settings. -/
theorem Choice.explicit_cases {c : Choice} (hc : c.DefinesArg) :
    (∃ dialect, c.explicit = .ok dialect ∧ ∀ d ∈ dialect, d.DefinesArg) ∨
      ∃ name known, c.explicit = .error (.unknownDialect name known) := by
  cases c with
  | default => exact .inl ⟨none, rfl, by simp⟩
  | named name =>
    rcases named_cases name with ⟨d, h, hd⟩ | ⟨known, h⟩
    · exact .inl ⟨some d, by rw [explicit, h]; rfl, by simpa using hd⟩
    · exact .inr ⟨_, known, by rw [explicit, h]; rfl⟩
  | given d =>
    refine .inl ⟨some d, rfl, ?_⟩
    rintro _ ⟨⟩
    exact hc

end Dialect

/-! ### Cursors -/

namespace Cursor.Stage

/-- The dialect that a cursor decodes its next instruction with, if it decodes one. -/
def dialect? (settings : Settings) : Stage → Option Dialect
  | .waiting dialect => (dialect.elim settings.defaultDialect .ok).toOption
  | .running d _ => some d
  | .finished => none

/-- The dialect of a cursor says which opcodes take an argument. -/
def DefinesArg : Stage → Prop
  | .waiting dialect => ∀ d ∈ dialect, d.DefinesArg
  | .running d _ => d.DefinesArg
  | .finished => True

/-- A cursor goes on as `resume` with the dialect that `dialect?` gives, or it decodes nothing and
is `finished`.  The latter is no fault, unless the default dialect is not known. -/
theorem advance_cases {stage : Stage} (h : stage.DefinesArg) (settings : Settings) :
    (∃ d offset, d.DefinesArg ∧ stage.dialect? settings = some d ∧
      ∀ r, stage.advance settings r = resume d offset r) ∨
    (∃ result, (result = .ok none ∨ ∃ name known, result = .error (.unknownDialect name known)) ∧
      stage.dialect? settings = none ∧
      ∀ r, stage.advance settings r = (⟨result, r, []⟩, .finished)) := by
  cases stage with
  | finished => exact .inr ⟨.ok none, .inl rfl, rfl, fun _ => rfl⟩
  | running d offset => exact .inl ⟨d, offset, h, rfl, fun _ => rfl⟩
  | waiting dialect =>
    cases dialect with
    | some d => exact .inl ⟨d, 0, h d rfl, rfl, fun _ => rfl⟩
    | none =>
      -- The dialect is the default of the settings now, if that is known.
      rcases Dialect.named_cases settings.dialectName with ⟨d, hd, hdef⟩ | ⟨known, hd⟩
      · have hdefault : settings.defaultDialect = .ok d := hd
        refine .inl ⟨d, 0, hdef, ?_, fun r => ?_⟩
        · rw [dialect?, Option.elim, hdefault]
          rfl
        · rw [advance, Option.elim, hdefault]
      · have hdefault : settings.defaultDialect = .error _ := hd
        refine .inr ⟨_, .inr ⟨settings.dialectName, known, rfl⟩, ?_, fun r => ?_⟩
        · rw [dialect?, Option.elim, hdefault]
          rfl
        · rw [advance, Option.elim, hdefault]
          rfl

end Cursor.Stage

/-! ### Steps -/

namespace Session

/-- The dialects that a step brings into play say which opcodes take an argument. -/
def Step.DefinesArg : Step → Prop
  | .decode choice => choice.DefinesArg
  | .decodeStandard => True
  | .decodeAll choice => choice.DefinesArg
  | .iterate _ choice => choice.DefinesArg
  | .advance _ => True
  | .configure _ => True

/-- The dialect that a step decodes with.  It is `none` if the step decodes nothing, because its
dialect or its cursor is not known, because its cursor is `finished`, or because of what it is. -/
def dialect? (session : Session) : Step → Option Dialect
  | .decode choice => (choice.resolve session.settings).toOption
  | .decodeStandard => some .standard
  | .decodeAll choice => (choice.resolve session.settings).toOption
  | .iterate _ _ => none
  | .advance id => (session.cursors.lookup id).bind (·.stage.dialect? session.settings)
  | .configure _ => none

end Session
end Bytecode
