/-!
Names that may stand in a statement without quotes: a letter or an underscore, then letters,
digits and underscores, at most 63 bytes in all.
-/

namespace Provisioner.Sql

/-- The server cuts off what is longer. -/
def maxIdentifierBytes : Nat := 63

def isLetter (c : Char) : Bool := ('A' ≤ c && c ≤ 'Z') || ('a' ≤ c && c ≤ 'z')

def isDigit (c : Char) : Bool := '0' ≤ c && c ≤ '9'

def isWordStart (c : Char) : Bool := isLetter c || c == '_'

def isWordChar (c : Char) : Bool := isWordStart c || isDigit c

def isWord : List Char → Bool
  | [] => false
  | c :: cs => isWordStart c && cs.all isWordChar

def isIdentifier (name : String) : Bool :=
  name.utf8ByteSize ≤ maxIdentifierBytes && isWord name.toList

end Provisioner.Sql
