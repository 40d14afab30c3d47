/-!
# Pieces of a text

Texts as lists of characters, cut at separators.
-/

namespace ClusterTransport.Text

def splitAll (separator : Char) : List Char → List (List Char)
  | [] => [[]]
  | c :: s =>
    if c = separator then [] :: splitAll separator s
    else
      match splitAll separator s with
      | [] => [[c]]
      | piece :: pieces => (c :: piece) :: pieces

/-- The part before the first separator, and the part after it (empty if there is none). -/
def cut (separator : Char) : List Char → List Char × List Char
  | [] => ([], [])
  | c :: s =>
    if c = separator then ([], s) else let r := cut separator s; (c :: r.1, r.2)

/-- The words of a text that stand between blanks. -/
def words (s : String) : List (List Char) :=
  (splitAll ' ' s.toList).filter fun word => !word.isEmpty

end ClusterTransport.Text
