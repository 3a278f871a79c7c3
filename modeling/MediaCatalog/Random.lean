import MediaCatalog.Cache.Table

/-!
Random picks. A target is drawn from the range of the matching ids, and the next matching medium
from there upwards is picked, or else the next one downwards. The drawn number is an argument, so
that a pick is a function.
-/

set_option autoImplicit false

namespace MediaCatalog

def wrap64 (value : Int) : Int :=
  value.bmod (Nat.pow 2 64)

namespace QueryStats

def ofHits (hits : List Hit) : QueryStats where
  count := hits.length
  minId := (hits.map (·.medium.id)).min?.getD 0
  maxId := (hits.map (·.medium.id)).max?.getD 0

def span (stats : QueryStats) : Int :=
  max (wrap64 (stats.maxId - stats.minId)) 0

def target (stats : QueryStats) (draw : Int) : Int :=
  wrap64 (stats.minId + draw)

end QueryStats

def nearest? (hits : List Hit) (target : Int) : Option Hit :=
  hits.find? (target ≤ ·.medium.id) <|> (hits.filter (·.medium.id < target)).getLast?

/-- The pick for a drawn number. Without a match in the statistics none is looked for. -/
def pick? (hits : List Hit) (stats : QueryStats) (draw : Int) : Option Hit :=
  if stats.count = 0 then none else nearest? hits (stats.target draw)

/-- Drawn numbers that among themselves have every possible outcome: both ends, and the number that
leads to its id for each hit in the range. -/
def decisiveDraws (hits : List Hit) (stats : QueryStats) : List Int :=
  [0, stats.span] ++ (hits.map fun hit => hit.medium.id - stats.minId).filter
    fun draw => 0 ≤ draw && draw ≤ stats.span

def picks (hits : List Hit) (stats : QueryStats) : List Hit :=
  ((decisiveDraws hits stats).filterMap (pick? hits stats)).eraseDups

end MediaCatalog
