import Bytecode.Analysis
import Bytecode.Dialect.Validation
import Bytecode.Log.Setup
import Bytecode.Session
import Bytecode.Proofs.Encoding
import Bytecode.Proofs.Stream
import Bytecode.Proofs.Repetition
import Bytecode.Proofs.PlainBytes
import Bytecode.Proofs.RoundTrip
import Bytecode.Proofs.SharedReader
import Bytecode.Proofs.Acceptance
import Bytecode.Proofs.Concatenation
import Bytecode.Proofs.BitPatterns
import Bytecode.Proofs.EffectRange
import Bytecode.Proofs.SoundDialect
import Bytecode.Proofs.Aliases
import Bytecode.Proofs.CursorLife
import Bytecode.Proofs.BufferCursors
import Bytecode.Proofs.EffectTables
import Bytecode.Proofs.ValidatedDialect
import Bytecode.Proofs.Attempt
import Bytecode.Proofs.ReadAccount
import Bytecode.Proofs.LoggedEvents
import Bytecode.Proofs.NoAnswer
import Bytecode.Proofs.ShortReads
import Bytecode.Proofs.Boundaries
import Bytecode.Proofs.InstructionEquality
import Bytecode.Proofs.InstructionText
import Bytecode.Proofs.ValidationReport
import Bytecode.Proofs.LogSetup
