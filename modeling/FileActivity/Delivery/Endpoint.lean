/-
# Endpoints

What can carry a record to a consumer: a queue in the same process, a socket, or a stand-in that
answers as it is told.  Handing a record over either succeeds or says why not; nothing is
retried.
-/
import FileActivity.Record.Stream

namespace FileActivity

/-! ## Sockets -/

/-- The bytes on their way through a socket to its reader. -/
structure Stream where
  /-- What was written and not yet read. -/
  pending : List UInt8 := []
  /-- The number of bytes that fit. -/
  capacity : Nat
  /-- Whether the reader still holds its end. -/
  readerOpen : Bool := true
  /-- Whether our end was shut down. -/
  shut : Bool := false
  deriving DecidableEq, Repr, Inhabited

namespace Stream

/-- The number of records that fit into a socket that nobody reads. -/
def defaultRoom : Nat := 49

/-- A new socket. -/
def fresh : Stream := { capacity := defaultRoom * recordSize }

/-- Writes bytes.  As many as fit go out, and if that is not all of them the write fails in the
end; to a reader that is gone nothing goes out. -/
def write (s : Stream) (bytes : List UInt8) : Except IoError Unit × Stream :=
  if !s.readerOpen then (.error (.system .brokenPipe), s)
  else
    let room := s.capacity - s.pending.length
    let s' := { s with pending := s.pending ++ bytes.take room }
    if bytes.length ≤ room then (.ok (), s') else (.error (.system .again), s')

/-- The reader takes everything that has come. -/
def readAll (s : Stream) : List UInt8 × Stream := (s.pending, { s with pending := [] })

/-- The reader takes one record, if a whole one has come. -/
def readRecord (s : Stream) : Option EventRecord × Stream :=
  match (readStream (some 1) s.pending).1 with
  | r :: _ => (some r, { s with pending := s.pending.drop recordSize })
  | [] => (none, s)

end Stream

/-! ## Endpoints -/

/-- Something that can carry records to a consumer. -/
inductive Endpoint where
  /-- Takes every record and keeps none. -/
  | plain
  /-- Answers each record with the next outcome, success when there is none left.  Keeps what it
  took, the latest first, and counts how often it was shut down. -/
  | scripted (outcomes : List (Except Error Unit)) (taken : List EventRecord) (shutdowns : Nat)
  /-- A bounded queue in the same process. -/
  | queue (capacity : Nat) (queued : List EventRecord) (receiverOpen : Bool)
  /-- A socket. -/
  | socket (stream : Stream)
  deriving Inhabited

namespace Endpoint

/-- A queue for at least one record. -/
def ofCapacity (capacity : Nat) : Endpoint := queue (max capacity 1) [] true

/-- A new socket. -/
def newSocket : Endpoint := socket .fresh

/-- What a failed write to a socket is reported as. -/
def writeFailure (e : IoError) : Error := .transportFailure e.message

/-- Hands a record over. -/
def deliver (e : Endpoint) (r : EventRecord) : Except Error Unit × Endpoint :=
  match e with
  | plain => (.ok (), plain)
  | scripted [] taken shutdowns => (.ok (), scripted [] (r :: taken) shutdowns)
  | scripted (.ok () :: rest) taken shutdowns => (.ok (), scripted rest (r :: taken) shutdowns)
  | scripted (.error e :: rest) taken shutdowns => (.error e, scripted rest taken shutdowns)
  | queue capacity queued receiverOpen =>
    if !receiverOpen then (.error (.transportFailure "consumer receiver dropped"), e)
    else if queued.length < capacity then (.ok (), queue capacity (queued ++ [r]) true)
    else (.error .sendTimedOut, e)
  | socket stream =>
    let (outcome, stream) := stream.write r.encode
    (outcome.mapError writeFailure, socket stream)

/-- Tells an endpoint that it has left the channel. -/
def shutDown : Endpoint → Endpoint
  | scripted outcomes taken shutdowns => scripted outcomes taken (shutdowns + 1)
  | socket stream => socket { stream with shut := true }
  | e => e

/-- Whether the reader of a socket has been told that nothing more will come. -/
def isShut : Endpoint → Bool
  | socket stream => stream.shut
  | _ => false

/-- The consumer goes away. -/
def drop : Endpoint → Endpoint
  | queue capacity _ _ => queue capacity [] false
  | socket stream => socket { stream with readerOpen := false, pending := [] }
  | e => e

/-- The consumer takes what has reached it, from a queue at most `limit` records. -/
def collect (limit : Option Nat) : Endpoint → List EventRecord × Endpoint
  | plain => ([], plain)
  | scripted outcomes taken shutdowns => (taken.reverse, scripted outcomes [] shutdowns)
  | queue capacity queued receiverOpen =>
    let n := limit.getD queued.length
    (queued.take n, queue capacity (queued.drop n) receiverOpen)
  | socket stream =>
    let (bytes, stream) := stream.readAll
    ((readStream none bytes).1, socket stream)

end Endpoint

end FileActivity
