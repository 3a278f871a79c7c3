import MediaCatalog.Filter.Build
import Mathlib.Algebra.GroupWithZero.Nat

set_option autoImplicit false

namespace MediaCatalog

def markCount (sql : String) : Nat :=
  sql.toList.count '?'

theorem markCount_append (front behind : String) :
    markCount (front ++ behind) = markCount front + markCount behind := by
  simp [markCount]

theorem markCount_intercalate {separator : String} (free : markCount separator = 0)
    (parts : List String) :
    markCount (separator.intercalate parts) = (parts.map markCount).sum := by
  induction parts with
  | nil => rfl
  | cons part rest ih =>
    cases rest with
    | nil => simp
    | cons next others =>
      rw [String.intercalate_cons_cons, markCount_append, markCount_append, free, ih]
      simp

theorem markCount_parts {front separator back : String}
    (free : markCount front = 0 ∧ markCount separator = 0 ∧ markCount back = 0) {count : Nat}
    {parts : List String} (alike : ∀ part ∈ parts, markCount part = count) :
    markCount (front ++ separator.intercalate parts ++ back) = count * parts.length := by
  obtain ⟨noneBefore, noneBetween, noneBehind⟩ := free
  have sum : (parts.map markCount).sum = count * parts.length := by
    induction parts with
    | nil => rfl
    | cons part rest ih =>
      obtain ⟨first, others⟩ := List.forall_mem_cons.1 alike
      rw [List.map_cons, List.sum_cons, first, ih others, List.length_cons, Nat.mul_succ,
        Nat.add_comm]
  rw [markCount_append, markCount_append, markCount_intercalate noneBetween, sum, noneBefore,
    noneBehind, Nat.zero_add, Nat.add_zero]

namespace Clause

variable (clause : Clause)

/-- The clause with empty texts and zeros in it. -/
def form : Clause → Clause
  | systemIn codes => systemIn (codes.map fun _ => "")
  | systemIs _ => systemIs ""
  | word mode variants => word mode (variants.map fun _ => "")
  | pathStarts _ => pathStarts ""
  | taggedAll tags => taggedAll (tags.map fun _ => ("", ""))
  | notTagged _ => notTagged ("", "")
  | taggedAny tags => taggedAny (tags.map fun _ => ("", ""))
  | firstLetter (.letter _) => firstLetter (.letter 'A')
  | firstLetter letter => firstLetter letter
  | idAbove _ => idAbove 0
  | idAtLeast _ => idAtLeast (.int 0)
  | slugIs _ => slugIs ""
  | secondarySlugIs _ => secondarySlugIs ""
  | slugStarts _ => slugStarts ""
  | slugIn slugs => slugIn (slugs.map fun _ => "")
  | pathIs _ => pathIs ""

theorem sql_form : clause.form.sql = clause.sql := by
  cases clause with
  | systemIn codes => exact congrArg (fun count => _ ++ marks count ++ _) (List.length_map _)
  | slugIn slugs => exact congrArg (fun count => _ ++ marks count ++ _) (List.length_map _)
  | word mode variants =>
    exact congrArg (fun parts => "(" ++ " OR ".intercalate parts ++ ")") (List.flatMap_map _ _ _)
  | taggedAll tags =>
    exact congrArg (fun parts => _ ++ " INTERSECT ".intercalate parts ++ _) List.map_map
  | taggedAny tags =>
    exact congrArg (fun parts => _ ++ " OR ".intercalate parts ++ _) List.map_map
  | firstLetter letter => cases letter <;> rfl
  | _ => rfl

theorem length_tagBinds (tags : List TagKey) : (tagBinds tags).length = 2 * tags.length := by
  induction tags with
  | nil => rfl
  | cons tag rest ih =>
    have split : tagBinds (tag :: rest) = .text tag.1 :: .text tag.2 :: tagBinds rest := rfl
    rw [split, List.length_cons, List.length_cons, ih, List.length_cons]
    omega

-- Texts are counted one by one, for a text that is put together takes long to evaluate.
theorem markCount_tagTables : markCount tagTables = 0 :=
  (markCount_append _ _).trans (by decide +kernel)

theorem markCount_tagMatch : markCount tagMatch = 2 := by
  decide +kernel

theorem markCount_firstCharacter : markCount firstCharacter = 0 := by
  decide +kernel

def comparedForms : List Clause :=
  [systemIs "", pathStarts "", idAbove 0, idAtLeast (.int 0), slugIs "", secondarySlugIs "",
    slugStarts "", pathIs ""]

theorem markCount_compared {clause : Clause} (compared : clause.form ∈ comparedForms) :
    markCount clause.sql = 1 := by
  have all : ∀ form ∈ comparedForms, markCount form.sql = 1 := by decide +kernel
  rw [← sql_form, all _ compared]

theorem markCount_sql : markCount clause.sql = clause.binds.length := by
  have single (count : Nat) : ∀ mark ∈ List.replicate count "?", markCount mark = 1 := by
    intro mark listed
    rw [List.eq_of_mem_replicate listed]
    rfl
  -- A list of parts is counted part by part, and what is the same for all values is evaluated.
  cases clause with
  | systemIn codes =>
    refine (markCount_parts (by decide +kernel) (single codes.length)).trans ?_
    simp [binds]
  | slugIn slugs =>
    refine (markCount_parts (by decide +kernel) (single slugs.length)).trans ?_
    simp [binds]
  | word mode variants =>
    have compared : ∀ part ∈ comparisons mode, markCount part = 1 := by
      cases mode <;> decide +kernel
    have alike : ∀ part ∈ variants.flatMap fun _ => comparisons mode, markCount part = 1 := by
      intro part listed
      obtain ⟨_, _, listed⟩ := List.mem_flatMap.1 listed
      exact compared part listed
    refine (markCount_parts (by decide +kernel) alike).trans ?_
    simp [binds, List.length_flatMap]
  | taggedAll tags =>
    have tagged : markCount ("SELECT MediaTags.MediaDBID " ++ tagTables ++ tagMatch) = 2 := by
      rw [markCount_append, markCount_append, markCount_tagTables, markCount_tagMatch]
      decide +kernel
    refine (markCount_parts (by decide +kernel) (List.forall_mem_map.2 fun _ _ => tagged)).trans ?_
    simp [binds, length_tagBinds]
  | notTagged tag =>
    change markCount (_ ++ tagTables ++ _ ++ tagMatch ++ ")") = 2
    simp only [markCount_append, markCount_tagTables, markCount_tagMatch]
    decide +kernel
  | taggedAny tags =>
    have before : markCount ("EXISTS (SELECT 1 " ++ tagTables ++
        "MediaTags.MediaDBID = Media.DBID AND (") = 0 := by
      rw [markCount_append, markCount_append, markCount_tagTables]
      decide +kernel
    have tagged : markCount ("(" ++ tagMatch ++ ")") = 2 := by
      rw [markCount_append, markCount_append, markCount_tagMatch]
      decide +kernel
    refine (markCount_parts ⟨before, by decide +kernel⟩
      (List.forall_mem_map.2 fun _ _ => tagged)).trans ?_
    simp [binds, length_tagBinds]
  | firstLetter letter =>
    cases letter with
    | symbol =>
      change markCount (firstCharacter ++ _ ++ firstCharacter ++ _) = 0
      simp only [markCount_append, markCount_firstCharacter]
      decide +kernel
    | _ =>
      refine (markCount_append firstCharacter _).trans ?_
      rw [markCount_firstCharacter]
      rfl
  | _ => exact markCount_compared (by simp [form, comparedForms])

end Clause

namespace Filter

theorem markCount_sql (filter : Filter) : markCount filter.sql = filter.binds.length := by
  rw [sql, binds]
  split
  next empty =>
    rw [List.isEmpty_iff.1 empty]
    rfl
  next =>
    have where_ : markCount "WHERE " = 0 := by decide +kernel
    rw [markCount_append, where_, markCount_intercalate (by decide +kernel), List.map_map,
      List.length_flatMap, Nat.zero_add]
    exact congrArg List.sum (List.map_congr_left fun clause _ => clause.markCount_sql)

theorem sql_of_form {filter other : Filter} (same : filter.map Clause.form = other.map Clause.form) :
    filter.sql = other.sql := by
  have form (filter : Filter) : Filter.sql (filter.map Clause.form) = filter.sql := by
    simp only [sql, List.isEmpty_map, List.map_map, Function.comp_def, Clause.sql_form]
  rw [← form filter, same, form]

end Filter

def FirstLetter.kind : FirstLetter → FirstLetter
  | .letter _ => .letter 'A'
  | other => other

theorem FirstLetter.form_firstLetter (letter : FirstLetter) :
    (Clause.firstLetter letter).form = .firstLetter letter.kind := by
  cases letter <;> rfl

/-- What the SQL of a search depends on. -/
structure Shape where
  systems : Nat
  groups : List Nat
  required : Nat
  forbidden : Nat
  alternatives : Nat
  pathStart : Bool
  cursor : Bool
  letter : Option FirstLetter
  deriving DecidableEq

namespace Shape

def filter (mode : TitleMatch) (shape : Shape) : Filter :=
  (if shape.systems = 0 then [] else [.systemIn (List.replicate shape.systems "")]) ++
    shape.groups.map (fun size => .word mode (List.replicate size "")) ++
    (if shape.pathStart then [.pathStarts ""] else []) ++
    ((if shape.required = 0 then [] else [.taggedAll (List.replicate shape.required ("", ""))]) ++
      List.replicate shape.forbidden (.notTagged ("", "")) ++
      if shape.alternatives = 0 then []
      else [.taggedAny (List.replicate shape.alternatives ("", ""))]) ++
    (if shape.cursor then [.idAbove 0] else []) ++
    (shape.letter.map Clause.firstLetter).toList

def forMedia (systems : List String) (groups : List (List String)) (pathStart : String)
    (tags : List TagFilter) : Shape where
  systems := systems.length
  groups := groups.map List.length
  required := tags.countP (·.operator = .and)
  forbidden := tags.countP (·.operator = .not)
  alternatives := tags.countP (·.operator = .or)
  pathStart := pathStart ≠ ""
  cursor := false
  letter := none

end Shape

theorem TagFilter.length_keysWith (operator : TagOperator) (tags : List TagFilter) :
    (keysWith operator tags).length = tags.countP (·.operator = operator) := by
  rw [keysWith, List.length_map, List.countP_eq_length_filter]

namespace Filter

theorem map_form_some {α : Type} (make : List α → Clause) (blank : α) {items : List α}
    (erased : (make items).form = make (List.replicate items.length blank)) :
    (if items.isEmpty then [] else [make items]).map Clause.form =
      if items.length = 0 then [] else [make (List.replicate items.length blank)] := by
  cases items with
  | nil => rfl
  | cons first rest => exact congrArg List.singleton erased

theorem map_form_forMedia (systems : List String) (groups : List (List String)) (mode : TitleMatch)
    (pathStart : String) (tags : List TagFilter) :
    (forMedia systems groups mode pathStart tags).map Clause.form =
      (Shape.forMedia systems groups pathStart tags).filter mode := by
  have erased {α β : Type} (items : List α) (value : β) :
      items.map (fun _ => value) = List.replicate items.length value := List.map_const'
  have listed := map_form_some Clause.systemIn "" (congrArg Clause.systemIn (erased systems ""))
  have worded : (groups.map (Clause.word mode)).map Clause.form =
      (groups.map List.length).map fun size => .word mode (List.replicate size "") := by
    rw [List.map_map, List.map_map]
    exact List.map_congr_left fun group _ => congrArg (Clause.word mode) (erased group "")
  have started : (if pathStart = "" then [] else [Clause.pathStarts pathStart]).map Clause.form =
      if decide (pathStart ≠ "") then [.pathStarts ""] else [] := by
    by_cases none : pathStart = "" <;> simp [none, Clause.form]
  have required := map_form_some Clause.taggedAll ("", "")
    (congrArg Clause.taggedAll (erased (TagFilter.keysWith .and tags) ("", "")))
  have forbidden : ((TagFilter.keysWith .not tags).map Clause.notTagged).map Clause.form =
      List.replicate (TagFilter.keysWith .not tags).length (.notTagged ("", "")) := by
    rw [List.map_map]
    exact erased _ (Clause.notTagged ("", ""))
  have alternatives := map_form_some Clause.taggedAny ("", "")
    (congrArg Clause.taggedAny (erased (TagFilter.keysWith .or tags) ("", "")))
  rw [forMedia, TagFilter.clauses]
  simp only [List.map_append, listed, worded, started, required, forbidden, alternatives,
    TagFilter.length_keysWith]
  simp [Shape.filter, Shape.forMedia]

end Filter

namespace MediaQuery

def shape (query : MediaQuery) : Shape :=
  .forMedia query.systems
    (SearchWords.variantGroups query.systems (SearchWords.ofGlob query.pathGlob)) query.pathStart
    query.tags

theorem sql_of_shape {query other : MediaQuery} (same : query.shape = other.shape) :
    (Filter.ofQuery query).sql = (Filter.ofQuery other).sql := by
  have form (query : MediaQuery) :
      (Filter.ofQuery query).map Clause.form = query.shape.filter .slug :=
    Filter.map_form_forMedia _ _ _ _ _
  exact Filter.sql_of_form (by rw [form, form, same])

end MediaQuery

namespace SearchRequest

variable (request : SearchRequest) (mode : TitleMatch)

def groups : List (List String) :=
  let words := SearchWords.ofQuery request.query
  match mode with
  | .slug => SearchWords.variantGroups request.systems words
  | .name => SearchWords.rawGroups words

def shape : Shape :=
  { Shape.forMedia request.systems (request.groups mode) "" request.tags with
    cursor := request.cursor.isSome
    letter := (request.letter.bind FirstLetter.parse?).map FirstLetter.kind }

theorem map_form_ofRequest :
    (Filter.ofRequest request mode).map Clause.form = (request.shape mode).filter mode := by
  have whole : Filter.ofRequest request mode =
      Filter.forMedia request.systems (request.groups mode) mode "" request.tags ++
        (request.cursor.map Clause.idAbove).toList ++
        ((request.letter.bind FirstLetter.parse?).map Clause.firstLetter).toList := by
    obtain ⟨systems, query, tags, letter, cursor, limit⟩ := request
    cases letter <;> cases cursor <;> cases mode <;> rfl
  have media := Filter.map_form_forMedia request.systems (request.groups mode) mode "" request.tags
  have cursor : (request.cursor.map Clause.idAbove).toList.map Clause.form =
      if request.cursor.isSome then [.idAbove 0] else [] := by
    cases request.cursor <;> rfl
  have letter : ((request.letter.bind FirstLetter.parse?).map Clause.firstLetter).toList.map
      Clause.form = (((request.letter.bind FirstLetter.parse?).map FirstLetter.kind).map
        Clause.firstLetter).toList := by
    cases request.letter.bind FirstLetter.parse? with
    | none => rfl
    | some letter => exact congrArg List.singleton letter.form_firstLetter
  rw [whole, List.map_append, List.map_append, media, cursor, letter]
  simp [Shape.filter, shape, Shape.forMedia]

theorem sql_of_shape {request other : SearchRequest} {mode : TitleMatch}
    (same : request.shape mode = other.shape mode) : request.sql mode = other.sql mode := by
  have filters : (Filter.ofRequest request mode).sql = (Filter.ofRequest other mode).sql :=
    Filter.sql_of_form (by rw [map_form_ofRequest, map_form_ofRequest, same])
  exact congrArg (fun filter => _ ++ filter ++ _) filters

theorem markCount_sql : markCount (request.sql mode) = (request.binds mode).length := by
  have tables : markCount joinedTables = 0 := (markCount_append _ _).trans (by decide +kernel)
  have selected : markCount
      ("SELECT Systems.SystemID, MediaTitles.Name, Media.Path, Media.DBID " ++ joinedTables ++ " ") =
        0 := by
    rw [markCount_append, markCount_append, tables]
    decide +kernel
  have limited : markCount " ORDER BY Media.DBID LIMIT ?" = 1 := by decide +kernel
  change markCount (_ ++ (Filter.ofRequest request mode).sql ++ _) = _
  rw [markCount_append, markCount_append, selected, limited, Filter.markCount_sql, binds,
    List.length_append, List.length_singleton, Nat.zero_add]

end SearchRequest

/-- The SQL of searches and queries has a mark for each value that is bound, and it is the same for all that
have one shape, whatever texts, cursors and limits they have. -/
theorem sql_fixed_by_shape :
    (∀ (request : SearchRequest) (mode : TitleMatch),
      markCount (request.sql mode) = (request.binds mode).length) ∧
    (∀ query : MediaQuery,
      markCount (Filter.ofQuery query).sql = (Filter.ofQuery query).binds.length) ∧
    (∀ (mode : TitleMatch) (request other : SearchRequest),
      request.shape mode = other.shape mode → request.sql mode = other.sql mode) ∧
    ∀ query other : MediaQuery, query.shape = other.shape →
      (Filter.ofQuery query).sql = (Filter.ofQuery other).sql :=
  ⟨SearchRequest.markCount_sql, fun _ => Filter.markCount_sql _,
    fun _ _ _ => SearchRequest.sql_of_shape, fun _ _ => MediaQuery.sql_of_shape⟩

theorem sql_fixed_by_shape_quoted :
    let plain : SearchRequest :=
      { systems := ["NES", "TVEpisode"], query := "Zelda Lost 1x05", cursor := some 7
        letter := some "m"
        tags := [⟨"region", "usa", .and⟩, ⟨"region", "japan", .not⟩, ⟨"year", "1992", .or⟩] }
    let quoted : SearchRequest :=
      { systems := ["TVEpisode", "SNES"], query := "x?' 'OR' 2x07", cursor := some (-1)
        letter := some " ſ ", limit := 3
        tags := [⟨"'; DROP TABLE Media; --", "?", .or⟩, ⟨"?", "", .not⟩, ⟨"\"", "%_", .and⟩] }
    let narrow : MediaQuery := { systems := ["NES"], pathStart := "/roms/NES/", pathGlob := "*mario*" }
    let wild : MediaQuery := { systems := ["?"], pathStart := "100%_'?", pathGlob := "zelda**" }
    plain.sql .slug = quoted.sql .slug ∧ plain.sql .name = quoted.sql .name ∧
      markCount (quoted.sql .slug) = 19 ∧
      (Filter.ofQuery narrow).sql = (Filter.ofQuery wild).sql := by
  intro plain quoted narrow wild
  obtain ⟨marks, -, requests, queries⟩ := sql_fixed_by_shape
  have shapes : plain.shape .slug = quoted.shape .slug ∧ plain.shape .name = quoted.shape .name ∧
      narrow.shape = wild.shape := by decide +kernel
  have count : (quoted.binds .slug).length = 19 := by decide +kernel
  exact ⟨requests _ _ _ shapes.1, requests _ _ _ shapes.2.1, (marks _ _).trans count,
    queries _ _ shapes.2.2⟩

end MediaCatalog
