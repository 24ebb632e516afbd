/-
# Kinds of activity

The security-relevant kinds and the tags that stand for them on the wire.  Tags never move.
-/
import FileActivity.Error

namespace FileActivity

/-- A kind of activity that a record reports. -/
inductive EventKind where
  | create
  | read
  | write
  | rename
  | delete
  | directoryEnum
  | shadowCopyDelete
  | processCreate
  | registryChange
  deriving DecidableEq, Repr, Inhabited

namespace EventKind

/-- All kinds, in the order of their tags. -/
def all : List EventKind :=
  [create, read, write, rename, delete, directoryEnum, shadowCopyDelete, processCreate,
    registryChange]

/-- The number of a kind on the wire. -/
def tag : EventKind → UInt32
  | create => 0
  | read => 1
  | write => 2
  | rename => 3
  | delete => 4
  | directoryEnum => 5
  | shadowCopyDelete => 6
  | processCreate => 7
  | registryChange => 8

/-- The kind of a tag. -/
def ofTag (tag : UInt32) : Except Error EventKind :=
  match all[tag.toNat]? with
  | some kind => .ok kind
  | none => .error (.unknownEventKind tag)

/-- The name of a kind in a record's line. -/
def name : EventKind → String
  | create => "create"
  | read => "read"
  | write => "write"
  | rename => "rename"
  | delete => "delete"
  | directoryEnum => "directory-enum"
  | shadowCopyDelete => "shadow-copy-delete"
  | processCreate => "process-create"
  | registryChange => "registry-change"

/-- Kinds whose records carry byte counts. -/
def carriesByteCounts : EventKind → Bool
  | read | write => true
  | _ => false

@[simp] theorem ofTag_tag (k : EventKind) : ofTag k.tag = .ok k := by cases k <;> rfl

end EventKind

end FileActivity
