/-
# Who may connect

A policy lists the users that may become the consumer.  A policy that lists nobody lets
everybody in; the permissions of the socket file are then the only gate.
-/
import FileActivity.UserSet

namespace FileActivity

/-- The users that may connect, in increasing order. -/
structure ConnectPolicy where
  allowed : List UserId
  deriving DecidableEq, Repr

namespace ConnectPolicy

/-- The policy that lists these users. -/
def ofList (uids : List UserId) : ConnectPolicy := ⟨sortedSet uids⟩

/-- The policy that lets everybody in. -/
def permissive : ConnectPolicy := ⟨[]⟩

instance : Inhabited ConnectPolicy := ⟨permissive⟩

/-- Whether a user may connect. -/
def authorize (p : ConnectPolicy) (uid : UserId) : Except Error Unit :=
  if p.allowed.isEmpty || (search p.allowed uid).isSome then .ok ()
  else .error (.connectionRejected uid)

end ConnectPolicy

end FileActivity
