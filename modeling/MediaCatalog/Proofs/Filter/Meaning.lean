import MediaCatalog.Catalog.Hit
import MediaCatalog.Proofs.Filter.Form

set_option autoImplicit false

namespace MediaCatalog

def Bind.text? : Bind → Option String
  | text value => some value
  | nullableText value => value
  | int _ => none
  | nullableInt _ => none

namespace Sql

inductive Field where
  | systemCode | slug | secondarySlug | name | firstCharacter | path | mediumId
  deriving DecidableEq

def Field.sql : Field → String
  | systemCode => "Systems.SystemID"
  | slug => "MediaTitles.Slug"
  | secondarySlug => "MediaTitles.SecondarySlug"
  | name => "MediaTitles.Name"
  | firstCharacter => Clause.firstCharacter
  | path => "Media.Path"
  | mediumId => "Media.DBID"

def Field.value (hit : Hit) : Field → Bind
  | systemCode => .text hit.system.code
  | slug => .text hit.title.slug
  | secondarySlug => .nullableText hit.title.secondarySlug
  | name => .text hit.title.name
  | firstCharacter =>
    .text (String.ofList ((hit.title.name.toList.take 1).map Text.Like.raiseAscii))
  | path => .text hit.medium.path
  | mediumId => .int hit.medium.id

inductive Relation where
  | equal | above | atLeast | like | likeEscaped
  deriving DecidableEq

def Relation.sql : Relation → String
  | equal => " = ?"
  | above => " > ?"
  | atLeast => " >= ?"
  | like => " LIKE ?"
  | likeEscaped => " LIKE ? ESCAPE '\\'"

def Relation.holds (left right : Bind) : Relation → Bool
  | equal => left.text?.isSome && left.text? == right.text?
  | above => left.number?.any fun number => right.number?.any (· < number)
  | atLeast => left.number?.any fun number => right.number?.any (· ≤ number)
  | like => left.text?.any fun text => right.text?.any (isLike · text)
  | likeEscaped => left.text?.any fun text => right.text?.any (isEscapedLike · text)

abbrev Comparison := Field × Relation

def Comparison.sql (comparison : Comparison) : String :=
  comparison.1.sql ++ comparison.2.sql

def Comparison.holds (hit : Hit) (comparison : Comparison) (value : Bind) : Bool :=
  comparison.2.holds (comparison.1.value hit) value

theorem Relation.equal_text (left right : String) :
    equal.holds (.text left) (.text right) = (left == right) := by
  simp [holds, Bind.text?]

theorem Relation.equal_among (text : String) (values : List String) :
    (values.map Bind.text).any (equal.holds (.text text)) = values.contains text := by
  simp only [List.any_map, Function.comp_def, equal_text, List.any_beq]

inductive Condition where
  | compare (comparison : Comparison)
  | oneOf (comparisons : List Comparison)
  | among (field : Field) (count : Nat)
  | taggedAll (count : Nat)
  | notTagged
  | taggedAny (count : Nat)
  | digitFirst
  | symbolFirst
  deriving DecidableEq

namespace Condition

def sql : Condition → String
  | compare comparison => comparison.sql
  | oneOf comparisons => "(" ++ " OR ".intercalate (comparisons.map Comparison.sql) ++ ")"
  | among field count => field.sql ++ " IN (" ++ Clause.marks count ++ ")"
  | taggedAll count => (Clause.taggedAll (List.replicate count ("", ""))).sql
  | notTagged => (Clause.notTagged ("", "")).sql
  | taggedAny count => (Clause.taggedAny (List.replicate count ("", ""))).sql
  | digitFirst => (Clause.firstLetter .digit).sql
  | symbolFirst => (Clause.firstLetter .symbol).sql

def tags : List Bind → List TagKey
  | .text type :: .text value :: rest => (type, value) :: tags rest
  | _ => []

def holds (catalog : Catalog) (hit : Hit) (values : List Bind) : Condition → Bool
  | compare comparison => values.any (comparison.holds hit)
  | oneOf comparisons =>
    (comparisons.zip values).any fun (comparison, value) => comparison.holds hit value
  | among field _ => values.any (Relation.equal.holds (field.value hit))
  | taggedAll _ => (tags values).all (catalog.isTagged hit.medium.id)
  | notTagged => !(tags values).any (catalog.isTagged hit.medium.id)
  | taggedAny _ => (tags values).any (catalog.isTagged hit.medium.id)
  | digitFirst => FirstLetter.digit.isFirst hit.title.name
  | symbolFirst => FirstLetter.symbol.isFirst hit.title.name

/-- Each condition takes as many values as it has marks. What is left over stays for the rest of the
statement. -/
def holdsAll (catalog : Catalog) (hit : Hit) : List Condition → List Bind → Bool × List Bind
  | [], values => (true, values)
  | condition :: rest, values =>
    let marks := markCount condition.sql
    let (later, left) := holdsAll catalog hit rest (values.drop marks)
    (condition.holds catalog hit (values.take marks) && later, left)

def sqlAll (conditions : List Condition) : String :=
  if conditions.isEmpty then "" else "WHERE " ++ " AND ".intercalate (conditions.map sql)

end Condition

end Sql

open Sql (Comparison Condition)

variable {catalog : Catalog} {hit : Hit}

namespace Clause

def wordComparisons : TitleMatch → List Comparison
  | .slug => [(.slug, .like), (.secondarySlug, .like)]
  | .name => [(.name, .likeEscaped)]

def condition : Clause → Condition
  | systemIn codes => .among .systemCode codes.length
  | systemIs _ => .compare (.systemCode, .equal)
  | word mode variants => .oneOf (variants.flatMap fun _ => wordComparisons mode)
  | pathStarts _ => .compare (.path, .likeEscaped)
  | taggedAll tags => .taggedAll tags.length
  | notTagged _ => .notTagged
  | taggedAny tags => .taggedAny tags.length
  | firstLetter .digit => .digitFirst
  | firstLetter .symbol => .symbolFirst
  | firstLetter (.letter _) => .compare (.firstCharacter, .equal)
  | idAbove _ => .compare (.mediumId, .above)
  | idAtLeast _ => .compare (.mediumId, .atLeast)
  | slugIs _ => .compare (.slug, .equal)
  | secondarySlugIs _ => .compare (.secondarySlug, .equal)
  | slugStarts _ => .compare (.slug, .like)
  | slugIn slugs => .among .slug slugs.length
  | pathIs _ => .compare (.path, .equal)

theorem condition_form (clause : Clause) : clause.form.condition = clause.condition := by
  cases clause with
  | firstLetter letter => cases letter <;> rfl
  | word mode variants => exact congrArg Condition.oneOf (List.flatMap_map _ _ _)
  | _ => simp [form, condition]

def plainForms : List Clause :=
  firstLetter .digit :: firstLetter .symbol :: firstLetter (.letter 'A') :: notTagged ("", "") ::
    comparedForms

theorem sql_condition_plain {clause : Clause} (plain : clause.form ∈ plainForms) :
    clause.condition.sql = clause.sql := by
  have all : ∀ form ∈ plainForms, form.condition.sql = form.sql := by decide +kernel
  rw [← condition_form, ← sql_form, all _ plain]

theorem sql_condition (clause : Clause) : clause.condition.sql = clause.sql := by
  cases clause with
  | systemIn codes =>
    have front : Sql.Field.systemCode.sql ++ " IN (" = "Systems.SystemID IN (" := by decide +kernel
    exact congrArg (· ++ marks codes.length ++ ")") front
  | slugIn slugs =>
    have front : Sql.Field.slug.sql ++ " IN (" = "MediaTitles.Slug IN (" := by decide +kernel
    exact congrArg (· ++ marks slugs.length ++ ")") front
  | word mode variants =>
    have worded : (wordComparisons mode).map Comparison.sql = comparisons mode := by
      cases mode <;> decide +kernel
    have parts : (variants.flatMap fun _ => wordComparisons mode).map Comparison.sql =
        variants.flatMap fun _ => comparisons mode := by
      rw [List.map_flatMap, worded]
    exact congrArg (fun parts => "(" ++ " OR ".intercalate parts ++ ")") parts
  | taggedAll tags =>
    have erased : (taggedAll tags).form = taggedAll (List.replicate tags.length ("", "")) :=
      congrArg taggedAll List.map_const'
    rw [condition, Condition.sql, ← erased, sql_form]
  | taggedAny tags =>
    have erased : (taggedAny tags).form = taggedAny (List.replicate tags.length ("", "")) :=
      congrArg taggedAny List.map_const'
    rw [condition, Condition.sql, ← erased, sql_form]
  | firstLetter letter => cases letter <;> exact sql_condition_plain (by simp [form, plainForms])
  | _ => exact sql_condition_plain (by simp [form, plainForms, comparedForms])

theorem tags_tagBinds (tags : List TagKey) : Condition.tags (tagBinds tags) = tags := by
  induction tags with
  | nil => rfl
  | cons tag rest ih => exact congrArg (tag :: ·) ih

theorem holds_wordComparisons (mode : TitleMatch) (variant : String) :
    (((wordComparisons mode).zip
      ((comparisons mode).map fun _ => Bind.text (wordPattern mode variant))).any
        fun (comparison, value) => comparison.holds hit value) = mode.holds hit.title variant := by
  cases mode with
  | slug =>
    cases secondary : hit.title.secondarySlug <;>
      simp [wordComparisons, comparisons, Comparison.holds, Sql.Relation.holds, Sql.Field.value,
        Bind.text?, TitleMatch.holds, secondary]
  | name =>
    simp [wordComparisons, comparisons, Comparison.holds, Sql.Relation.holds, Sql.Field.value,
      Bind.text?, TitleMatch.holds]

theorem holds_condition (clause : Clause) :
    clause.condition.holds catalog hit clause.binds = clause.holds catalog hit := by
  cases clause with
  | word mode variants =>
    simp only [condition, Condition.holds, binds, holds]
    induction variants with
    | nil => rfl
    | cons variant rest ih =>
      have aligned : (wordComparisons mode).length =
          ((comparisons mode).map fun _ => Bind.text (wordPattern mode variant)).length := by
        cases mode <;> rfl
      rw [List.flatMap_cons, List.flatMap_cons, List.zip_append aligned, List.any_append, ih,
        holds_wordComparisons, List.any_cons]
  | taggedAll tags => simp only [condition, Condition.holds, binds, tags_tagBinds, holds]
  | notTagged tag =>
    simp only [condition, Condition.holds, binds, tags_tagBinds, holds, List.any_cons, List.any_nil,
      Bool.or_false]
  | taggedAny tags => simp only [condition, Condition.holds, binds, tags_tagBinds, holds]
  | firstLetter letter =>
    cases letter with
    | letter c =>
      have first : String.ofList ((hit.title.name.toList.take 1).map Text.Like.raiseAscii) =
          String.singleton c ↔ hit.title.name.toList.head?.map Text.Like.raiseAscii = some c := by
        cases hit.title.name.toList <;> simp [String.ext_iff]
      rw [condition, Condition.holds, binds, List.any_cons, List.any_nil, Bool.or_false,
        Comparison.holds, Sql.Field.value, Sql.Relation.equal_text, holds, FirstLetter.isFirst,
        Bool.eq_iff_iff, beq_iff_eq, beq_iff_eq, first]
    | _ => rfl
  | systemIn codes => exact Sql.Relation.equal_among _ codes
  | slugIn slugs => exact Sql.Relation.equal_among _ slugs
  | secondarySlugIs slug =>
    cases secondary : hit.title.secondarySlug <;>
      simp [condition, Condition.holds, binds, holds, Comparison.holds, Sql.Relation.holds,
        Sql.Field.value, Bind.text?, secondary]
  | _ =>
    simp [condition, Condition.holds, binds, holds, Comparison.holds, Sql.Relation.holds,
      Sql.Field.value, Bind.text?, Bind.number?]

end Clause

namespace Filter

variable (filter : Filter)

theorem sql_conditions : Condition.sqlAll (filter.map Clause.condition) = filter.sql := by
  simp only [Condition.sqlAll, sql, List.isEmpty_map, List.map_map, Function.comp_def,
    Clause.sql_condition]

theorem holdsAll_binds (behind : List Bind) :
    Condition.holdsAll catalog hit (filter.map Clause.condition) (filter.binds ++ behind) =
      (filter.all (Clause.holds catalog hit), behind) := by
  induction filter with
  | nil => rfl
  | cons clause rest ih =>
    have marks : markCount clause.condition.sql = clause.binds.length := by
      rw [clause.sql_condition, clause.markCount_sql]
    rw [List.map_cons, Condition.holdsAll, marks, binds, List.flatMap_cons, List.append_assoc,
      List.drop_left, List.take_left, clause.holds_condition]
    exact congrArg (fun later : Bool × List Bind => (_ && later.1, later.2)) ih

end Filter

/-- A filter selects the media of which its SQL holds with the values bound to it. -/
theorem Catalog.select_eq_sql (catalog : Catalog) (filter : Filter) :
    ∃ conditions, Condition.sqlAll conditions = filter.sql ∧
      catalog.select filter = catalog.hits.filter fun hit =>
        Condition.holdsAll catalog hit conditions filter.binds = (true, []) := by
  refine ⟨filter.map Clause.condition, filter.sql_conditions, List.filter_congr fun hit _ => ?_⟩
  have read : Condition.holdsAll catalog hit (filter.map Clause.condition) (filter.binds ++ []) =
      (filter.all (Clause.holds catalog hit), []) := filter.holdsAll_binds []
  rw [List.append_nil] at read
  rw [read]
  cases filter.all (Clause.holds catalog hit) <;> rfl

theorem SearchRequest.holdsAll_binds (request : SearchRequest) (mode : TitleMatch) :
    Condition.holdsAll catalog hit ((Filter.ofRequest request mode).map Clause.condition)
        (request.binds mode) =
      ((Filter.ofRequest request mode).all (Clause.holds catalog hit), [.int request.pageSize]) :=
  Filter.holdsAll_binds _ _

end MediaCatalog
