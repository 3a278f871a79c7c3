import MediaCatalog.Batch.Set
import MediaCatalog.Catalog.Row

set_option autoImplicit false

namespace MediaCatalog

namespace Entity

def parents : Entity → List Entity
  | system => []
  | title => [.system]
  | medium => [.title]
  | tagType => []
  | tag => [.tagType]
  | mediumTag => [.medium, .tag]

def inserter : Entity → InserterId
  | system => 0
  | title => 1
  | medium => 2
  | tagType => 3
  | tag => 4
  | mediumTag => 5

instance : Target Entity where
  table := table
  columns := columns

theorem width_pos (entity : Entity) : 0 < Target.width entity := by
  cases entity <;> decide

end Entity

namespace BatchSet

variable {τ : Type} [Target τ]

def forCatalog (target : Entity → τ) (wide : ∀ entity, 0 < Target.width (target entity))
    (token : TokenId) : BatchSet τ :=
  ⟨Entity.all.map fun entity =>
    { inserter := .empty (target entity) token (wide entity)
      parents := entity.parents.map Entity.inserter }⟩

end BatchSet

end MediaCatalog
