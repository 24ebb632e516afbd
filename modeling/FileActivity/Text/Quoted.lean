/-
# Quoted text

Text between double quotes, in which every character that would end the line, hide itself or alter
its neighbour is spelled out.
-/
import FileActivity.Text.Unprintable
import FileActivity.Text.GraphemeExtend

namespace FileActivity.Quoted

/-- The lower-case hexadecimal digits of a number, without leading zeros. -/
def hex (n : Nat) : List Char := Nat.toDigits 16 n

/-- How one character is written between the quotes. -/
def escape (c : Char) : List Char :=
  match c with
  | '\x00' => ['\\', '0']
  | '\t' => ['\\', 't']
  | '\n' => ['\\', 'n']
  | '\r' => ['\\', 'r']
  | '"' => ['\\', '"']
  | '\\' => ['\\', '\\']
  | _ =>
    if altersPrevious c || !isPrintable c then '\\' :: 'u' :: '{' :: (hex c.toNat ++ ['}'])
    else [c]

/-- The characters of a text in quotes. -/
def quoteChars (cs : List Char) : List Char := '"' :: (cs.flatMap escape ++ ['"'])

/-- A text in quotes. -/
def quote (s : String) : String := String.ofList (quoteChars s.toList)

theorem toList_quote (s : String) : (quote s).toList = quoteChars s.toList := by
  simp [quote]

end FileActivity.Quoted
