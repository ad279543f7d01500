import ChainIndex.Api.Error

/-!
# ChainIndex.Fetch.Error

The errors of fetching blocks.
-/

namespace ChainIndex

/-- Why blocks were not fetched. -/
inductive FetchError where
  /-- The range ends before it starts. -/
  | invalidRange (first last : BlockNumber)
  /-- The block of a height, or its runtime, was not obtained. -/
  | block (height : BlockNumber) (source : ApiError)
  /-- The events of a block were not obtained. -/
  | events (hash : BlockHash) (source : ApiError)
  /-- The call that sets the time of a block has no time as its argument. -/
  | invalidTimestamp (height : BlockNumber)
  deriving DecidableEq

namespace FetchError

/-- The wording of an error, where this library words it. -/
def message? : FetchError → Option String
  | .invalidRange first last =>
    some ("Invalid range: start " ++ toString first.toNat ++ " > end " ++ toString last.toNat)
  | .block height source =>
    source.message?.map fun text =>
      "Failed to fetch block " ++ toString height.toNat ++ ": " ++ text
  | .events hash source =>
    source.message?.map fun text =>
      "Failed to fetch events of block " ++ hash.toText ++ ": " ++ text
  | .invalidTimestamp height => some ("Invalid timestamp in block " ++ toString height.toNat)

end FetchError

end ChainIndex
