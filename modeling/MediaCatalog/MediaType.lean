set_option autoImplicit false

namespace MediaCatalog

inductive MediaType where
  | game | tvShow | movie | music | image | application
  deriving DecidableEq, Repr, Inhabited

namespace MediaType

def all : List MediaType := [.game, .tvShow, .movie, .music, .image, .application]

def name : MediaType → String
  | game => "game"
  | tvShow => "tvshow"
  | movie => "movie"
  | music => "music"
  | image => "image"
  | application => "application"

def ofName? (text : String) : Option MediaType :=
  all.find? (·.name == text)

end MediaType

end MediaCatalog
