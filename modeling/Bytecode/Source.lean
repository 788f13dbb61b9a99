import Bytecode.Failure

/-!
# Byte sources and readers

A source answers each read on its own terms: with at most as many bytes as asked for, with more,
with nothing, or with a failure.  A reader is a source together with an account of the reads made
so far.
-/

namespace Bytecode

/-- The answer of a `Source` to one read. -/
inductive Reply where
  | bytes (data : List UInt8)
  /-- No answer yet, from a source that does not wait. -/
  | nothing
  | failure (f : Failure)
deriving DecidableEq

/-- Where bytes come from, told apart by how `Source.read` is answered. -/
inductive Source where
  /-- Gives as many bytes of `rest` as asked for. -/
  | reader (rest : List UInt8)
  /-- Gives one byte of `rest` at a time, however many are asked for. -/
  | short (rest : List UInt8)
  /-- Like `reader`, but has no answer where that has no bytes. -/
  | nonblocking (rest : List UInt8)
  /-- Gives `data` every time, however many bytes are asked for. -/
  | greedy (data : List UInt8)
  /-- Gives the `replies` in order, however many bytes are asked for, and then no bytes. -/
  | script (replies : List Reply)
deriving DecidableEq

namespace Source

/-- The answer to a read of `n` bytes, and the source after it. -/
def read (n : Nat) : Source → Reply × Source
  | .reader rest => (.bytes (rest.take n), .reader (rest.drop n))
  | .short rest => (.bytes (rest.take (min n 1)), .short (rest.drop (min n 1)))
  | .nonblocking rest =>
    let data := rest.take n
    (if data.isEmpty then .nothing else .bytes data, .nonblocking (rest.drop n))
  | .greedy data => (.bytes data, .greedy data)
  | .script [] => (.bytes [], .script [])
  | .script (reply :: replies) => (reply, .script replies)

/-- How much a source has left: bytes, or the replies of a `script`.  A `greedy` source uses nothing
up. -/
def supply : Source → Nat
  | .reader rest => rest.length
  | .short rest => rest.length
  | .nonblocking rest => rest.length
  | .greedy _ => 0
  | .script replies => replies.length

end Source

/-- The number of bytes in a reply. -/
def Reply.size : Reply → Nat
  | .bytes data => data.length
  | .nothing => 0
  | .failure _ => 0

/-- A `source` and the account of the reads made from it. -/
structure Reader where
  source : Source
  /-- The number of bytes handed out. -/
  consumed : Nat
  /-- The number of bytes that each read asked for, in order. -/
  reads : List Nat
deriving DecidableEq

namespace Reader

/-- A reader over `source` that nothing was read from yet. -/
def ofSource (source : Source) : Reader :=
  ⟨source, 0, []⟩

/-- A reader over the plain bytes `data`. -/
def ofBytes (data : List UInt8) : Reader :=
  ofSource (.reader data)

/-- Asks for `n` bytes, once, and enters the read into the account. -/
def read (r : Reader) (n : Nat) : Reply × Reader :=
  let answer := r.source.read n
  (answer.1, ⟨answer.2, r.consumed + answer.1.size, r.reads ++ [n]⟩)

end Reader
end Bytecode
