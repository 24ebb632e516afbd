/-
# The delivery channel

The channel holds at most one connection.  Connecting supersedes whoever was there, disconnecting
empties the slot, and sending hands a record to the consumer in the slot or fails; nothing is queued
here and nothing is retried.  Every call is made of the atomic steps that other threads can come
between, and each of these is a function of its own.
-/
import FileActivity.Delivery.Endpoint

namespace FileActivity

/-- The number of an accepted connection. -/
structure Cookie where
  number : UInt64
  deriving DecidableEq, Repr, Inhabited

/-- A cookie as it is shown. -/
def Cookie.label (c : Cookie) : String := "#" ++ toString c.number

/-- A consumer, by its place in the order in which consumers came. -/
abbrev ConsumerId := Nat

/-- A connection: its cookie, and the consumer that it leads to. -/
structure Connection where
  cookie : Cookie
  consumer : ConsumerId
  deriving DecidableEq, Repr

/-- The slot for the one connection, the number of cookies handed out, and all consumers that
ever came. -/
structure Channel where
  slot : Option Connection := none
  issued : UInt64 := 0
  consumers : List Endpoint := []
  deriving Inhabited

namespace Channel

/-! ## Consumers -/

/-- The endpoint of a consumer. -/
def endpoint (c : Channel) (i : ConsumerId) : Endpoint := c.consumers.getD i .plain

/-- Changes the endpoint of a consumer. -/
def setEndpoint (c : Channel) (i : ConsumerId) (e : Endpoint) : Channel :=
  { c with consumers := c.consumers.set i e }

/-- A new consumer comes. -/
def addConsumer (c : Channel) (e : Endpoint) : ConsumerId × Channel :=
  (c.consumers.length, { c with consumers := c.consumers ++ [e] })

/-! ## Atomic steps -/

/-- Hands out the next cookie. -/
def allocate (c : Channel) : Cookie × Channel :=
  (⟨c.issued + 1⟩, { c with issued := c.issued + 1 })

/-- Puts a connection into the slot and gives the one that was there. -/
def install (c : Channel) (connection : Connection) : Option Connection × Channel :=
  (c.slot, { c with slot := some connection })

/-- Empties the slot and gives the connection that was there. -/
def vacate (c : Channel) : Option Connection × Channel := (c.slot, { c with slot := none })

/-- Empties the slot only if it holds the connection with a cookie. -/
def vacateIf (c : Channel) (cookie : Cookie) : Option Connection × Channel :=
  match c.slot with
  | some connection => if connection.cookie = cookie then c.vacate else (none, c)
  | none => (none, c)

/-- Shuts the endpoint of a connection down. -/
def shutDown (c : Channel) (connection : Connection) : Channel :=
  c.setEndpoint connection.consumer (c.endpoint connection.consumer).shutDown

/-- Shuts the endpoint of a connection down, if there is one. -/
def shutDown? (c : Channel) : Option Connection → Channel
  | some connection => c.shutDown connection
  | none => c

/-- Hands a record to the consumer in the slot, and tells whose hand-off it was and how it went. -/
def handOff (c : Channel) (r : EventRecord) : Option (Cookie × Except Error Unit) × Channel :=
  match c.slot with
  | none => (none, c)
  | some connection =>
    let (outcome, e) := (c.endpoint connection.consumer).deliver r
    (some (connection.cookie, outcome), c.setEndpoint connection.consumer e)

/-! ## Calls -/

/-- Connects a consumer, superseding whoever was connected. -/
def connect (c : Channel) (e : Endpoint) : Cookie × Channel :=
  let (consumer, c) := c.addConsumer e
  let (cookie, c) := c.allocate
  let (previous, c) := c.install ⟨cookie, consumer⟩
  (cookie, c.shutDown? previous)

/-- Drops the current consumer, and tells whether there was one. -/
def disconnect (c : Channel) : Bool × Channel :=
  let (previous, c) := c.vacate
  (previous.isSome, c.shutDown? previous)

/-- Drops the consumer only if its connection is still the one with a cookie, and tells whether
it was. -/
def release (c : Channel) (cookie : Cookie) : Bool × Channel :=
  let (previous, c) := c.vacateIf cookie
  (previous.isSome, c.shutDown? previous)

/-- Releases a connection whose hand-off failed beyond repair. -/
def releaseIfFatal (c : Channel) (cookie : Cookie) : Except Error Unit → Channel
  | .error e => if e.isFatal then (c.release cookie).2 else c
  | .ok () => c

/-- Tries once to deliver a record. -/
def send (c : Channel) (r : EventRecord) : Except Error Unit × Channel :=
  match c.handOff r with
  | (none, c) => (.error .channelDisconnected, c)
  | (some (cookie, outcome), c) => (outcome, c.releaseIfFatal cookie outcome)

/-! ## Views -/

/-- The cookie of the current connection. -/
def connected (c : Channel) : Option Cookie := c.slot.map Connection.cookie

/-- Whether somebody is connected. -/
def isConnected (c : Channel) : Bool := c.slot.isSome

/-- The state of the channel in words. -/
def stateText (c : Channel) : String :=
  match c.connected with
  | some cookie => "Connected(ConnectionCookie(" ++ toString cookie.number ++ "))"
  | none => "Unconnected"

@[simp] theorem slot_setEndpoint (c : Channel) (i : ConsumerId) (e : Endpoint) :
    (c.setEndpoint i e).slot = c.slot := rfl

@[simp] theorem slot_shutDown? (c : Channel) (connection : Option Connection) :
    (c.shutDown? connection).slot = c.slot := by cases connection <;> rfl

@[simp] theorem slot_disconnect (c : Channel) : c.disconnect.2.slot = none := by
  simp [disconnect, vacate]

end Channel

end FileActivity
