/-!
# Failures of a byte source

A source may fail instead of answering a read.  Failures of the operating system are reported as
decoding errors; any other failure passes through the decoder unchanged.
-/

namespace Bytecode

/-- The kind of failure of a byte source. -/
inductive FailureKind where
  -- Failures of the operating system
  | system | blocking | brokenPipe | childProcess | connectionAborted | connectionRefused
  | connectionReset | fileExists | fileNotFound | interrupted | isDirectory | notDirectory
  | permission | processLookup | timeout
  /-- Any other failure, by the name of its class.  One class is left out: `StopIteration`, which a
  lazy stream takes for its own end and turns into a `RuntimeError`. -/
  | other (className : String)
deriving DecidableEq

namespace FailureKind

/-- Whether a failure comes from the operating system: every kind but `other`. -/
def isSystem : FailureKind → Bool
  | .other _ => false
  | _ => true

/-- The kind of system failure that the error number `n` stands for, `system` if none in
particular. -/
def ofErrno (n : Int) : FailureKind :=
  if n = 1 || n = 13 then .permission
  else if n = 2 then .fileNotFound
  else if n = 3 then .processLookup
  else if n = 4 then .interrupted
  else if n = 10 then .childProcess
  else if n = 11 || n = 114 || n = 115 then .blocking
  else if n = 17 then .fileExists
  else if n = 20 then .notDirectory
  else if n = 21 then .isDirectory
  else if n = 32 || n = 108 then .brokenPipe
  else if n = 103 then .connectionAborted
  else if n = 104 then .connectionReset
  else if n = 110 then .timeout
  else if n = 111 then .connectionRefused
  else .system

end FailureKind

/-- A failure of a byte source: its `kind` and its `text`. -/
structure Failure where
  kind : FailureKind
  text : String
deriving DecidableEq

namespace Failure

/-- A failure reported without an error number.  Its text is the `message`. -/
def plain (kind : FailureKind) (message : String) : Failure :=
  ⟨kind, message⟩

/-- A failure reported with the error number `errno`, which its text shows.  By
`FailureKind.ofErrno` the number decides the kind of a general `system` failure and no other. -/
def numbered (kind : FailureKind) (errno : Int) (message : String) : Failure :=
  { kind := if kind = .system then FailureKind.ofErrno errno else kind
    text := "[Errno " ++ toString errno ++ "] " ++ message }

/-- The failure of a source that answered a request for `requested` bytes with more. -/
def overRead (requested received : Nat) : Failure :=
  { kind := .system
    text := "read(" ++ toString requested ++ ") returned " ++ toString received ++ " bytes" }

end Failure
end Bytecode
