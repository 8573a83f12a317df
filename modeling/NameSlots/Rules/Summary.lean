import NameSlots.Rules.Resolve
import NameSlots.Table

/-! Counts over outcomes. -/

namespace NameSlots

/-- How many inputs matched, and how many every rule key took. -/
structure Summary where
  total : Int
  matchedCount : Int
  unmatchedCount : Int
  ruleHits : List (Text × Int) := []
deriving DecidableEq

/-- The keys in code-point order, each once, with the number of times it is there. -/
def tally (keys : List Text) : List (Text × Int) :=
  (keys.eraseDups.mergeSort Text.le).map fun key => (key, (keys.count key : Int))

/-- The summary of outcomes. -/
def summarize (outcomes : List Outcome) : Summary :=
  let matched := outcomes.countP (·.matched)
  { total := outcomes.length
    matchedCount := matched
    unmatchedCount := outcomes.length - matched
    ruleHits := tally (outcomes.filterMap (·.ruleKey)) }

end NameSlots
