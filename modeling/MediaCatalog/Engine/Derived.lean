import MediaCatalog.Engine.Write

/-!
Calls that read and fill the derived caches. During a transaction nothing is cached, since the commit
would remove it.
-/

set_option autoImplicit false

namespace MediaCatalog.Engine

def caching (statement : Statement Unit) : EngineM Unit := do
  check
  unless (← get).active do
    onWriter statement

def cachedTagsOf (codes : List String) : EngineM (List TagInfo) :=
  reading (Store.cachedTagsOf codes)

/-- Fills the cached tags of systems, and counts them. A failure counts as none. -/
def tryPopulate (codes : List String) : EngineM Nat := do
  if (← get).active then return 0
  tryCatch (onWriter (Store.populateSystemTagsOf codes)) fun _ => return 0

def tagsForSystems (codes : List String) : EngineM (List TagInfo) := do
  let cached ← cachedTagsOf codes
  if !cached.isEmpty then return cached
  if 0 < (← tryPopulate codes) then
    let cached ← cachedTagsOf codes
    if !cached.isEmpty then return cached
  onReader (Store.tagsOf codes)

def computeStats (query : MediaQuery) : EngineM QueryStats := do
  if (← get).active then onReader (Store.computeStats query)
  else
    let stats ← (Store.computeStats query (← get).writerView : Except EngineError QueryStats)
    tryCatch (onWriter (Store.putQueryStats query stats)) fun _ => return
    return stats

def randomCached (query : MediaQuery) : EngineM (List PathResult) := do
  check
  let stats ← match Store.queryStats? query (← get).readerView with
    | .ok (some stats) => pure stats
    | _ => computeStats query
  onReader (Store.randomPicks query stats)

end MediaCatalog.Engine
