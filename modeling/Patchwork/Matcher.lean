import Patchwork.Pattern.Bounds

/-!
# Matchers

Passes and options know a pattern as a `Matcher`: the source it was written as, the numbers of its
named groups, and a search that stays in the text. They ask nothing else of it, so what is proved of
them holds of patterns of every kind. Those that have been read from a source are one kind
(`Pattern.matcher`).
-/

namespace Patchwork

/-- A pattern for passes, however it is searched for. -/
structure Matcher where
  source : String
  groups : List (String × Nat)
  search : String → Option Pattern.Match
  search_within : ∀ {text : String} {m : Pattern.Match}, search text = some m →
    m.Within text.length

namespace Matcher

/-- The number of the group with the name. -/
def group? (p : Matcher) (name : String) : Option Nat := p.groups.lookup name

def matchesIn (p : Matcher) (text : String) : Bool := (p.search text).isSome

end Matcher

namespace Pattern

def matcher (p : Pattern) : Matcher := ⟨p.source, p.groups, p.search, search_within⟩

def matchesIn (p : Pattern) : String → Bool := p.matcher.matchesIn

end Pattern

instance : Coe Pattern Matcher := ⟨Pattern.matcher⟩

end Patchwork
