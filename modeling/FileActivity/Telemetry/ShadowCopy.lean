/-
# Deletion of shadow copies

Ransomware removes the volume's shadow copies before it encrypts, so that nothing can be
restored.  A command line is recognised by the words in it, in any letter case and any order.
-/
import FileActivity.Text.Lowercase

namespace FileActivity.ShadowCopy

/-- Whether a text occurs in another. -/
def occursIn (needle : List Char) : List Char → Bool
  | [] => needle.isEmpty
  | c :: cs => needle.isPrefixOf (c :: cs) || occursIn needle cs

/-- The sets of words that give a deletion away; all words of a set must occur. -/
def patterns : List (List String) :=
  [["vssadmin", "delete", "shadows"], ["wmic", "shadowcopy", "delete"], ["remove-volumeshadowcopy"]]

/-- Whether a command line deletes shadow copies. -/
def isDeletion (commandLine : String) : Bool :=
  let text := (Lowercase.text commandLine).toList
  patterns.any fun words => words.all fun word => occursIn word.toList text

end FileActivity.ShadowCopy
