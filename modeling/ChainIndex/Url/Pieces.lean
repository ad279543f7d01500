/-!
# ChainIndex.Url.Pieces

The pieces of a text between separators.
-/

namespace ChainIndex.Url

/-- The pieces of a text between the characters that pass a test. -/
def splitOn (separates : Char → Bool) : List Char → List (List Char)
  | [] => [[]]
  | c :: rest =>
    match splitOn separates rest with
    | piece :: pieces =>
      if separates c then [] :: piece :: pieces else (c :: piece) :: pieces
    | [] => [[c]]

end ChainIndex.Url
