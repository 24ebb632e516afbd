/-
# Numbers on the command line

A number is written in decimal digits, with at most one plus sign before them.  It is read digit by
digit, and the first digit that carries it past its bound, or the first character that is no digit,
ends the reading; nothing wraps around.
-/
import FileActivity.Processes

namespace FileActivity.CommandLine

/-! ## Faults -/

/-- Why a text is no number. -/
inductive NumberFault where
  | empty
  | invalidDigit
  | tooLarge
  deriving DecidableEq, Repr

/-- How a fault is told. -/
def NumberFault.message : NumberFault → String
  | empty => "cannot parse integer from empty string"
  | invalidDigit => "invalid digit found in string"
  | tooLarge => "number too large to fit in target type"

/-! ## Reading -/

/-- The value of a decimal digit. -/
def digit? (c : Char) : Option Nat := if '0' ≤ c ∧ c ≤ '9' then some (c.toNat - '0'.toNat) else none

/-- Puts a digit behind a number, which may not exceed the bound then. -/
def appendDigit (bound n : Nat) (c : Char) : Except NumberFault Nat :=
  match digit? c with
  | none => .error .invalidDigit
  | some d => if n * 10 + d ≤ bound then .ok (n * 10 + d) else .error .tooLarge

/-- Reads digits up to the end. -/
def readDigits (bound : Nat) (cs : List Char) : Except NumberFault Nat :=
  cs.foldlM (appendDigit bound) 0

/-- Reads a number that may not exceed a bound. -/
def readNumber (bound : Nat) : List Char → Except NumberFault Nat
  | [] => .error .empty
  | ['+'] => .error .invalidDigit
  | '+' :: cs => readDigits bound cs
  | cs => readDigits bound cs

/-! ## Process numbers -/

/-- Why a text names no process. -/
inductive ProcessIdFault where
  /-- The text is no number of four bytes. -/
  | notNumber
  /-- The number would address no process, or several. -/
  | outOfRange
  deriving DecidableEq, Repr

/-- The greatest number of four bytes. -/
def maxWord : Nat := UInt32.size - 1

/-- Reads the number of a single process. -/
def readProcessId (cs : List Char) : Except ProcessIdFault ProcessId :=
  match readNumber maxWord cs with
  | .error _ => .error .notNumber
  | .ok n => if 0 < n ∧ n ≤ maxProcessId.toNat then .ok n.toUInt32 else .error .outOfRange

end FileActivity.CommandLine
