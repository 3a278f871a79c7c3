import MediaCatalog.Engine.Call

set_option autoImplicit false

namespace MediaCatalog

structure GameEntry where
  system : String
  name : String
  path : Option String := none
  tags : List (String × String) := []
  deriving DecidableEq, Repr

namespace GameEntry

def systemName (entry : GameEntry) : String :=
  match KnownSystem.ofCode? entry.system with
  | some system => system.displayName
  | none => entry.system

def filePath (entry : GameEntry) : String :=
  entry.path.getD ("/roms/" ++ entry.system ++ "/" ++ entry.name ++ ".zip")

end GameEntry

namespace Engine

def addTag (mediumId : Int) (tag : String × String) : EngineM Unit := do
  let type ← findOrInsert (.tagType { name := tag.1 })
  let value ← findOrInsert (.tag { typeId := type.id, value := tag.2 })
  discard <| insert (.mediumTag { mediumId, tagId := value.id })

def addGame (entry : GameEntry) : EngineM CatalogRow := do
  let system ← findOrInsert (.system { code := entry.system, name := entry.systemName })
  let kind := MediaType.ofSystemCode entry.system
  let title ← findOrInsert (.title (Title.ofName system.id kind entry.name))
  let medium ← findOrInsert
    (.medium { titleId := title.id, systemId := system.id, path := entry.filePath })
  entry.tags.forM (addTag medium.id)
  return medium

def fourDigits (n : Int) : String :=
  let digits := Json.integer n
  String.ofList (List.replicate (4 - digits.length) '0' ++ digits)

def addNumbered (entry : GameEntry) (start : Int) (count : Nat) : EngineM Unit :=
  (List.range count).forM fun (i : Nat) =>
    discard (addGame { entry with name := entry.name ++ " " ++ fourDigits (start + i) })

def pagesWithin : Nat → SearchRequest → EngineM (List (List MediumResult))
  | 0, _ => return []
  | bound + 1, request => do
    let page ← reading (Store.searchPage request)
    match page.getLast? with
    | none => return []
    | some last => return page :: (← pagesWithin bound { request with cursor := some last.id })

/-- All pages of a search. No page is empty but the last, so there are no more than there are
media. -/
def pages (request : SearchRequest) : EngineM (List (List MediumResult)) := do
  pagesWithin ((← get).readerView.catalog.media.length + 1) request

end Engine

end MediaCatalog
